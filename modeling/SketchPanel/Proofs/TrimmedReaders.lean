/-
Readers of declarations and the blanks around their line. Each of them asks for something that neither starts nor ends
with a blank, so it reads the same from a line and from the trimmed line. Most search the line. The header of a variable
or a function is read from the start of the line, and there a qualifier may take the blanks behind it along; but as long
as a type and a name can still follow, they are blanks in front of a word.

Results:
- `includeAt_tight`, `enumerationAt_tight`, `bindingAt_tight`, `rotationAt_tight`: the scanners that are searched for.
- `alike_afterQualifiers`: what is left after the qualifiers.
- `declared?_trim`: a declaration is the same on a line and on the trimmed line.
- `include?_trim`, `enumeration?_trim`, `stateBinding?_trim`, `variableHeader?_trim`, `function?_trim`: the readers.
-/
import Mathlib.Tactic
import SketchPanel.Proofs.BodySearch
import SketchPanel.Proofs.TrailingBlanks

namespace SketchPanel.Sketch

open SketchPanel.Text SketchPanel.Number SketchPanel.Scene

/-! ## Searched lines -/

theorem solid_of_after? {literal text rest : Line} {c : Char} (h : after? (c :: literal) text = some rest)
    (hc : isBlank c = false) : ∃ c rest, text = c :: rest ∧ isBlank c = false :=
  ⟨c, literal ++ rest, after?_eq_some_iff.1 h, hc⟩

theorem isBlank_of_isWord {c : Char} (h : isWord c = true) : isBlank c = false := by
  by_contra hblank
  rw [isWord_of_isBlank (by simpa using hblank)] at h
  cases h

theorem solid_of_run?_isWord {text run rest : Line} (h : run? isWord text = some (run, rest)) :
    ∃ c rest, text = c :: rest ∧ isBlank c = false := by
  obtain ⟨rfl, hne, hword, -⟩ := run?_eq_some_iff.1 h
  obtain ⟨c, tail, rfl⟩ := List.exists_cons_of_ne_nil hne
  exact ⟨c, tail ++ rest, rfl, isBlank_of_isWord (hword c List.mem_cons_self)⟩

theorem alike_run_isWord {text other run rest : Line} (h : Alike text other) (hr : run? isWord text = some (run, rest)) :
    ∃ rest', run? isWord other = some (run, rest') ∧ Alike rest rest' :=
  h.run? (fun _ => isWord_of_isBlank) hr

/-- the text after an opening bracket or quotation mark -/
def afterBracket? : Line → Option Line
  | '<' :: inner => some inner
  | '"' :: inner => some inner
  | _ => none

/-- whether a character goes on with the name of a header -/
def inHeaderName (c : Char) : Bool := c ≠ '>' ∧ c ≠ '"' ∧ c ≠ '\n'

/-- the name of a header up to the mark that closes it -/
def headerName (inner : Line) : Option (Line × Line) :=
  match inner.dropWhile inHeaderName with
  | '\n' :: _ => none
  | _ :: rest => some (inner.takeWhile inHeaderName, rest)
  | [] => none

theorem includeAt_eq (before : Option Char) (text : Line) :
    includeAt before text =
      (after? "#include".toList text).bind fun text => (afterBracket? (trimStart text)).bind headerName := by
  unfold includeAt
  cases after? "#include".toList text with
  | none => rfl
  | some text =>
    simp only [Option.bind_eq_bind, Option.bind_some]
    split
    · rename_i inner h
      rw [h, afterBracket?, Option.bind_some]
      rfl
    · rename_i inner h
      rw [h, afterBracket?, Option.bind_some]
      rfl
    · simp only [afterBracket?, Option.bind_none]

theorem alike_afterBracket? {text other rest : Line} (h : Alike text other) (hr : afterBracket? text = some rest) :
    ∃ rest', afterBracket? other = some rest' ∧ Alike rest rest' := by
  unfold afterBracket? at hr
  split at hr <;> cases hr
  all_goals
    obtain ⟨rest', rfl, hrest⟩ := h.split_head (by decide)
    exact ⟨rest', rfl, hrest⟩

theorem headerName_steady : Steady headerName := by
  intro text other h name rest hname
  unfold headerName at hname
  split at hname
  · cases hname
  · rename_i c rest' hne hdrop
    cases hname
    have hstop : inHeaderName c = false := not_head_dropWhile inHeaderName text c (by rw [hdrop]; rfl)
    have hmark : c = '>' ∨ c = '"' := by
      by_contra hother
      rw [not_or] at hother
      exact hne (by simpa [inHeaderName, hother] using hstop)
    have hsolid : isBlank c = false := by rcases hmark with rfl | rfl <;> decide
    obtain ⟨rest', hdrop', htake, hrest⟩ := h.dropWhile hsolid hstop hdrop
    refine ⟨rest', ?_, hrest⟩
    rw [headerName, hdrop', htake]
    split
    · rename_i e
      exact absurd (List.cons.inj e).1 hne
    · rename_i e
      rw [(List.cons.inj e).2]
    · rename_i e
      cases e
  · cases hname

theorem includeAt_tight : Tight includeAt where
  solid := by
    intro before text found h
    rw [includeAt_eq] at h
    obtain ⟨text', hmark, -⟩ := Option.bind_eq_some_iff.1 h
    exact solid_of_after? hmark (by decide)
  edge _ := rfl
  steady := by
    intro before text other h target rest hfound
    rw [includeAt_eq] at hfound ⊢
    simp only [Option.bind_eq_some_iff] at hfound
    obtain ⟨text', hmark, inner, hopen, hname⟩ := hfound
    obtain ⟨other', hmark', h⟩ := h.after? (by decide) hmark
    obtain ⟨inner', hopen', h⟩ := alike_afterBracket? h.trimStart hopen
    obtain ⟨rest', hname', h⟩ := headerName_steady h hname
    exact ⟨rest', Option.bind_eq_some_iff.2 ⟨other', hmark', Option.bind_eq_some_iff.2 ⟨inner', hopen', hname'⟩⟩, h⟩

theorem bindingAt_tight : Tight bindingAt where
  solid := by
    intro before text found h
    simp only [bindingAt, Option.bind_eq_bind, Option.bind_eq_some_iff] at h
    obtain ⟨⟨type, text'⟩, htype, -⟩ := h
    exact solid_of_run?_isWord htype
  edge _ := rfl
  steady := by
    intro before text other h binding rest hfound
    simp only [bindingAt, Option.bind_eq_bind, Option.bind_eq_some_iff, Prod.exists, Option.pure_def, Option.some.injEq,
      Prod.mk.injEq] at hfound
    obtain ⟨type, t1, htype, t2, hblanks, name, t3, hname, t4, hsign, value, t5, hvalue, rfl, rfl⟩ := hfound
    obtain ⟨c, tail, rfl, -⟩ := solid_of_run?_isWord hname
    obtain ⟨o1, htype', h⟩ := alike_run_isWord h htype
    obtain ⟨o2, hblanks', h⟩ := h.blanks? hblanks (List.cons_ne_nil c tail)
    obtain ⟨o3, hname', h⟩ := alike_run_isWord h hname
    obtain ⟨o4, hsign', h⟩ := h.token? (by decide) hsign
    obtain ⟨o5, hvalue', h⟩ := alike_run_isWord h.trimStart hvalue
    exact ⟨o5, by simp only [bindingAt, htype', hblanks', hname', hsign', hvalue', Option.bind_eq_bind, Option.bind_some,
      Option.pure_def], h⟩

theorem rotationAt_tight : Tight rotationAt where
  solid := by
    intro before text found h
    unfold rotationAt at h
    split at h
    · cases h
    · simp only [Option.bind_eq_bind, Option.bind_eq_some_iff] at h
      obtain ⟨text', hname, -⟩ := h
      exact solid_of_after? hname (by decide)
  edge hc := by
    funext text
    simp [rotationAt, isWord_of_isBlank hc]
  steady := by
    intro before text other h digits rest hfound
    unfold rotationAt at hfound
    split at hfound
    · cases hfound
    · rename_i hbefore
      simp only [Option.bind_eq_bind, Option.bind_eq_some_iff, Prod.exists, Option.pure_def, Option.some.injEq,
        Prod.mk.injEq] at hfound
      obtain ⟨t1, hname, t2, hopen, digits, t3, hdigits, t4, hclose, rfl, rfl⟩ := hfound
      obtain ⟨o1, hname', h⟩ := h.after? (by decide) hname
      obtain ⟨o2, hopen', h⟩ := h.token? (by decide) hopen
      obtain ⟨o3, hdigits', h⟩ := h.trimStart.run? (fun _ => isDigit_of_isBlank) hdigits
      obtain ⟨o4, hclose', h⟩ := h.token? (by decide) hclose
      refine ⟨o4, ?_, h⟩
      rw [rotationAt, if_neg hbefore]
      simp only [hname', hopen', hdigits', hclose', Option.bind_eq_bind, Option.bind_some, Option.pure_def]

/-! ### Enumerations -/

theorem alike_afterUnderlying? {text other rest : Line} (h : Alike text other)
    (hr : afterUnderlying? text = some rest) : ∃ rest', afterUnderlying? other = some rest' ∧ Alike rest rest' := by
  unfold afterUnderlying? at hr
  split at hr
  · rename_i more hcolon
    obtain ⟨⟨type, after⟩, htype, rfl⟩ := Option.map_eq_some_iff.1 hr
    obtain ⟨more', hcolon', h⟩ := (hcolon ▸ h.trimStart).split_head (by decide)
    obtain ⟨after', htype', h⟩ := alike_run_isWord h.trimStart htype
    exact ⟨trimStart after', by simp only [afterUnderlying?, hcolon', htype', Option.map_some],
      h.trimStart⟩
  · rename_i hno
    obtain rfl := Option.some.inj hr
    refine ⟨trimStart other, ?_, h.trimStart⟩
    unfold afterUnderlying?
    split
    · rename_i more hcolon
      obtain ⟨more', hcolon', -⟩ := (hcolon ▸ h.symm.trimStart).split_head (by decide)
      exact absurd hcolon' (hno more')
    · rfl

theorem enumerationBody_steady : Steady enumerationBody := by
  intro text other h enumeration rest hfound
  simp only [enumerationBody, Option.bind_eq_bind, Option.bind_eq_some_iff, Prod.exists, Option.pure_def,
    Option.some.injEq, Prod.mk.injEq] at hfound
  obtain ⟨name, t1, hname, t2, htype, t3, hopen, inner, t4, hinner, t5, hclose, rfl, rfl⟩ := hfound
  obtain ⟨o1, hname', h⟩ := alike_run_isWord h hname
  obtain ⟨o2, htype', h⟩ := alike_afterUnderlying? h htype
  obtain ⟨o3, hopen', h⟩ := h.after? (by decide) hopen
  -- the members may end with blanks, but then comes the closing brace
  obtain ⟨rfl, hne, hmembers, -⟩ := run?_eq_some_iff.1 hinner
  obtain rfl := after?_eq_some_iff.1 hclose
  obtain ⟨o5, rfl, hrest⟩ := h.split (by decide : isBlank '}' = false)
  have hinner' : run? (· ≠ '}') (inner ++ '}' :: o5) = some (inner, '}' :: o5) :=
    run?_eq_some_iff.2 ⟨rfl, hne, hmembers, by simp⟩
  have hclose' : after? ['}'] ('}' :: o5) = some o5 := rfl
  exact ⟨o5, by simp only [enumerationBody, hname', htype', hopen', hinner', hclose', Option.bind_eq_bind,
    Option.bind_some, Option.pure_def], hrest⟩

theorem solid_of_enumerationBody {text : Line} {found : Enumeration × Line} (h : enumerationBody text = some found) :
    text ≠ [] := by
  simp only [enumerationBody, Option.bind_eq_bind, Option.bind_eq_some_iff] at h
  obtain ⟨⟨name, rest⟩, hname, -⟩ := h
  obtain ⟨c, tail, rfl, -⟩ := solid_of_run?_isWord hname
  exact List.cons_ne_nil c tail

/-- the body of a scoped enumeration -/
def scopedBody (text : Line) : Option (Enumeration × Line) :=
  (after? "class".toList text).bind blanks? |>.bind enumerationBody

theorem scopedBody_steady : Steady scopedBody := by
  intro text other h enumeration rest hfound
  simp only [scopedBody, Option.bind_eq_some_iff] at hfound
  obtain ⟨t2, ⟨t1, hclass, hblanks⟩, hbody⟩ := hfound
  obtain ⟨o1, hclass', h⟩ := h.after? (by decide) hclass
  obtain ⟨o2, hblanks', h⟩ := h.blanks? hblanks (solid_of_enumerationBody hbody)
  obtain ⟨rest', hbody', h⟩ := enumerationBody_steady h hbody
  refine ⟨rest', ?_, h⟩
  rw [scopedBody, hclass', Option.bind_some, hblanks', Option.bind_some, hbody']

theorem enumerationAt_eq (before : Option Char) (text : Line) :
    enumerationAt before text = (after? "enum".toList text).bind fun text => (blanks? text).bind fun text =>
      (scopedBody text).orElse fun _ => enumerationBody text := rfl

theorem enumerationAt_tight : Tight enumerationAt where
  solid := by
    intro before text found h
    rw [enumerationAt_eq] at h
    obtain ⟨text', hword, -⟩ := Option.bind_eq_some_iff.1 h
    exact solid_of_after? hword (by decide)
  edge _ := rfl
  steady := by
    intro before text other h enumeration rest hfound
    rw [enumerationAt_eq] at hfound ⊢
    obtain ⟨t1, hword, hfound⟩ := Option.bind_eq_some_iff.1 hfound
    obtain ⟨t2, hblanks, hbody⟩ := Option.bind_eq_some_iff.1 hfound
    obtain ⟨o1, hword', h⟩ := h.after? (by decide) hword
    have hne : t2 ≠ [] := by
      rintro rfl
      cases hbody
    obtain ⟨o2, hblanks', h⟩ := h.blanks? hblanks hne
    rw [hword', Option.bind_some, hblanks', Option.bind_some]
    cases hscoped : scopedBody t2 with
    | some found =>
      rw [hscoped] at hbody
      obtain rfl : found = (enumeration, rest) := Option.some.inj hbody
      obtain ⟨rest', hscoped', h⟩ := scopedBody_steady h hscoped
      exact ⟨rest', by rw [hscoped']; rfl, h⟩
    | none =>
      rw [hscoped] at hbody
      obtain ⟨rest', hbody', h'⟩ := enumerationBody_steady h hbody
      exact ⟨rest', by rw [scopedBody_steady.eq_none h hscoped]; exact hbody', h'⟩

/-! ## Declarations -/

/-- whether blanks and then something solid stand somewhere in a text -/
def Spaced (text : Line) : Prop :=
  ∃ front b c back, text = front ++ b :: c :: back ∧ isBlank b = true ∧ isBlank c = false

theorem Spaced.of_suffix {text part : Line} (h : Spaced part) (hs : part <:+ text) : Spaced text := by
  obtain ⟨more, rfl⟩ := hs
  obtain ⟨front, b, c, back, rfl, hb, hc⟩ := h
  exact ⟨more ++ front, b, c, back, by simp, hb, hc⟩

theorem Spaced.alike {text other : Line} (hs : Spaced text) (h : Alike text other) : Spaced other := by
  obtain ⟨front, b, c, back, rfl, hb, hc⟩ := hs
  rw [List.append_cons] at h
  obtain ⟨back', rfl, -⟩ := h.split hc
  exact ⟨front, b, c, back', by simp, hb, hc⟩

/-- a word followed by nothing but blanks is not spaced -/
theorem not_spaced {word blanks : Line} (hword : ∀ c ∈ word, isBlank c = false) (hblanks : ∀ c ∈ blanks, isBlank c = true) :
    ¬ Spaced (word ++ blanks) := by
  rintro ⟨front, b, c, back, e, hb, hc⟩
  rcases List.append_eq_append_iff.1 e with ⟨more, -, hmore⟩ | ⟨more, rfl, hmore⟩
  · have hmem : c ∈ blanks := by rw [hmore]; simp
    rw [hblanks c hmem] at hc
    cases hc
  · cases more with
    | nil =>
      have hmem : c ∈ blanks := by rw [← List.nil_append blanks, ← hmore]; simp
      rw [hblanks c hmem] at hc
      cases hc
    | cons d more =>
      obtain rfl : b = d := (List.cons.inj hmore).1
      rw [hword b (by simp)] at hb
      cases hb

/-- the text after one qualifier -/
def qualified (text : Line) : Option Line := qualifiers.findSome? fun q => (after? q text).bind blanks?

theorem afterQualifiers_succ (count : Nat) (text : Line) :
    afterQualifiers (count + 1) text = ((qualified text).map (afterQualifiers count)).getD text := by
  rw [afterQualifiers, qualified]
  cases qualifiers.findSome? fun q => (after? q text).bind blanks? <;> rfl

/-- whether a word is something and without blanks -/
def isSolid (word : Line) : Bool := !word.isEmpty && word.all fun c => !isBlank c

theorem isSolid_iff {word : Line} : isSolid word = true ↔ word ≠ [] ∧ ∀ c ∈ word, isBlank c = false := by
  simp [isSolid]

theorem qualifiers_solid : ∀ q ∈ qualifiers, q ≠ [] ∧ ∀ c ∈ q, isBlank c = false := by
  have h : ∀ q ∈ qualifiers, isSolid q = true := by decide
  exact fun q hq => isSolid_iff.1 (h q hq)

theorem qualified_shorter {text rest : Line} (h : qualified text = some rest) : rest.length < text.length := by
  obtain ⟨q, hq, hrest⟩ := List.exists_of_findSome?_eq_some h
  obtain ⟨text', hafter, hblanks⟩ := Option.bind_eq_some_iff.1 hrest
  obtain ⟨⟨run, rest'⟩, hrun, rfl⟩ := Option.map_eq_some_iff.1 hblanks
  obtain rfl := after?_eq_some_iff.1 hafter
  have hq := List.length_pos_of_ne_nil (qualifiers_solid q hq).1
  have hle : rest'.length ≤ text'.length := (run?_suffix hrun).length_le
  show rest'.length < (q ++ text').length
  rw [List.length_append]
  omega

theorem alike_qualified {text other rest : Line} (h : Alike text other) (hs : Spaced text)
    (hr : qualified text = some rest) : ∃ rest', qualified other = some rest' ∧ Alike rest rest' := by
  -- one qualifier at a time; nothing but blanks after it would leave the text without a space in it
  have hone : ∀ text other, Alike text other → Spaced text → ∀ q ∈ qualifiers, ∀ rest,
      (after? q text).bind blanks? = some rest → ∃ rest', (after? q other).bind blanks? = some rest' ∧ Alike rest rest' := by
    intro text other h hs q hq rest hr
    obtain ⟨-, hsolid⟩ := qualifiers_solid q hq
    obtain ⟨t1, hafter, hblanks⟩ := Option.bind_eq_some_iff.1 hr
    have hne : rest ≠ [] := by
      rintro rfl
      obtain ⟨⟨run, rest⟩, hrun, rfl⟩ := Option.map_eq_some_iff.1 hblanks
      obtain ⟨rfl, -, hrun, -⟩ := run?_eq_some_iff.1 hrun
      rw [List.append_nil] at hafter
      rw [after?_eq_some_iff.1 hafter] at hs
      exact not_spaced hsolid hrun hs
    obtain ⟨o1, hafter', h⟩ := h.after? (endsSolid_iff.2 fun c hc => hsolid c (List.mem_of_mem_getLast? hc)) hafter
    obtain ⟨rest', hblanks', h⟩ := h.blanks? hblanks hne
    exact ⟨rest', by rw [hafter', Option.bind_some, hblanks'], h⟩
  refine findSome?_follows (hone text other h hs) (fun q hq hnone => ?_) hr
  by_contra hsome
  obtain ⟨rest', hrest'⟩ := Option.ne_none_iff_exists'.1 hsome
  obtain ⟨rest, hrest, -⟩ := hone other text h.symm (hs.alike h) q hq rest' hrest'
  rw [hnone] at hrest
  cases hrest

/-- the same is left after the qualifiers, however many are looked for, if a type and a name can follow -/
theorem alike_afterQualifiers {text other : Line} {count count' : Nat} (h : Alike text other)
    (hc : text.length ≤ count) (hc' : other.length ≤ count') (hs : Spaced (afterQualifiers count text)) :
    Alike (afterQualifiers count text) (afterQualifiers count' other) := by
  induction count generalizing text other count' with
  | zero =>
    obtain rfl := List.length_eq_zero_iff.1 (Nat.le_zero.1 hc)
    obtain ⟨front, b, c, back, e, -⟩ := hs
    cases front <;> cases e
  | succ count ih =>
    have hspaced : Spaced text := hs.of_suffix (afterQualifiers_suffix _ text)
    have hspaced' : Spaced other := hspaced.alike h
    obtain ⟨more, rfl⟩ : ∃ more, count' = more + 1 := by
      obtain ⟨front, b, c, back, rfl, -⟩ := hspaced'
      exact ⟨count' - 1, by simp at hc'; omega⟩
    rw [afterQualifiers_succ] at hs ⊢
    rw [afterQualifiers_succ]
    cases hq : qualified text with
    | some rest =>
      obtain ⟨rest', hq', hrest⟩ := alike_qualified h hspaced hq
      have hlt := qualified_shorter hq
      have hlt' := qualified_shorter hq'
      rw [hq] at hs
      rw [hq']
      exact ih hrest (by omega) (by omega) hs
    | none =>
      cases hq' : qualified other with
      | none => exact h
      | some rest' =>
        obtain ⟨rest, hrest, -⟩ := alike_qualified h.symm hspaced' hq'
        rw [hq] at hrest
        cases hrest

/-- the words of a type, each of them something and without blanks -/
def TypeWords (words : List Line) : Prop := ∀ word ∈ words, word ≠ [] ∧ ∀ c ∈ word, isBlank c = false

theorem afterWords?_nil {word : Line} (h : word ≠ []) (words : List Line) : afterWords? (word :: words) [] = none := by
  obtain ⟨c, rest, rfl⟩ := List.exists_cons_of_ne_nil h
  cases words <;> rfl

theorem alike_afterWords? {words : List Line} (hwords : TypeWords words) {text other rest : Line}
    (h : Alike text other) (hr : afterWords? words text = some rest) :
    ∃ rest', afterWords? words other = some rest' ∧ Alike rest rest' := by
  induction words generalizing text other with
  | nil =>
    obtain rfl := Option.some.inj hr
    exact ⟨other, rfl, h⟩
  | cons word words ih =>
    obtain ⟨⟨-, hsolid⟩, hwords⟩ := List.forall_mem_cons.1 hwords
    have hend : endsSolid word = true := endsSolid_iff.2 fun c hc => hsolid c (List.mem_of_mem_getLast? hc)
    cases words with
    | nil => exact h.after? hend hr
    | cons next words =>
      simp only [afterWords?, Option.bind_eq_bind, Option.bind_eq_some_iff] at hr
      obtain ⟨t1, hafter, t2, hblanks, hmore⟩ := hr
      have hne : t2 ≠ [] := by
        rintro rfl
        rw [afterWords?_nil (hwords next List.mem_cons_self).1] at hmore
        cases hmore
      obtain ⟨o1, hafter', h⟩ := h.after? hend hafter
      obtain ⟨o2, hblanks', h⟩ := h.blanks? hblanks hne
      obtain ⟨rest', hmore', h⟩ := ih hwords h hmore
      refine ⟨rest', ?_, h⟩
      simp only [afterWords?, hafter', hblanks', hmore', Option.bind_eq_bind, Option.bind_some]

/-- type, name and what else is asked for, after the qualifiers -/
def typed {α : Type} (further : Line → Option (α × Line)) (words : List Line) (text : Line) :
    Option ((Line × Line × α) × Line) := do
  let (name, rest) ← run? isWord (← blanks? (← afterWords? words text))
  let (more, rest) ← further rest
  return ((typeName words, name, more), rest)

theorem declared?_eq {α : Type} (types : List (List Line)) (further : Line → Option (α × Line)) (line : Line) :
    declared? types further line =
      types.findSome? (typed further · (afterQualifiers line.length (trimStart line))) := rfl

section Typed

variable {α : Type} {further : Line → Option (α × Line)} {words : List Line} {text rest : Line} {found : Line × Line × α}

/-- between a type and a name there are blanks -/
theorem spaced_of_typed (h : typed further words text = some (found, rest)) : Spaced text := by
  simp only [typed, Option.bind_eq_bind, Option.bind_eq_some_iff] at h
  obtain ⟨t1, hwords, t2, hblanks, ⟨name, t3⟩, hname, -⟩ := h
  obtain ⟨c, tail, rfl, hc⟩ := solid_of_run?_isWord hname
  obtain ⟨⟨run, rest'⟩, hrun, rfl : rest' = c :: tail⟩ := Option.map_eq_some_iff.1 hblanks
  obtain ⟨rfl, hne, hrun, -⟩ := run?_eq_some_iff.1 hrun
  obtain ⟨front, b, rfl⟩ := (List.eq_nil_or_concat' run).resolve_left hne
  refine Spaced.of_suffix ⟨front, b, c, tail, by simp, hrun b (by simp), hc⟩ (afterWords?_suffix hwords)

theorem typed_steady (hwords : TypeWords words) (hf : Steady further) : Steady (typed further words) := by
  intro text other h found rest hfound
  simp only [typed, Option.bind_eq_bind, Option.bind_eq_some_iff, Prod.exists, Option.pure_def, Option.some.injEq,
    Prod.mk.injEq] at hfound
  obtain ⟨t1, hafter, t2, hblanks, name, t3, hname, more, t4, hmore, rfl, rfl⟩ := hfound
  obtain ⟨c, tail, rfl, -⟩ := solid_of_run?_isWord hname
  obtain ⟨o1, hafter', h⟩ := alike_afterWords? hwords h hafter
  obtain ⟨o2, hblanks', h⟩ := h.blanks? hblanks (List.cons_ne_nil c tail)
  obtain ⟨o3, hname', h⟩ := alike_run_isWord h hname
  obtain ⟨o4, hmore', h⟩ := hf h hmore
  refine ⟨o4, ?_, h⟩
  simp only [typed, hafter', hblanks', hname', hmore', Option.bind_eq_bind, Option.bind_some, Option.pure_def]

end Typed

/-- **Declarations and blanks.** A declaration is the same on a line and on the trimmed line. -/
theorem declared?_trim {α : Type} {types : List (List Line)} (htypes : ∀ words ∈ types, TypeWords words)
    {further : Line → Option (α × Line)} (hf : Steady further) (line : Line) :
    (declared? types further (trim line)).map Prod.fst = (declared? types further line).map Prod.fst := by
  have hone : ∀ line other, Alike (trimStart line) (trimStart other) → ∀ a rest,
      declared? types further line = some (a, rest) → ∃ rest', declared? types further other = some (a, rest') := by
    intro line other h a rest hfound
    rw [declared?_eq] at hfound ⊢
    obtain ⟨words, hmem, htyped⟩ := List.exists_of_findSome?_eq_some hfound
    have hafter := alike_afterQualifiers h (trimStart_suffix line).length_le (trimStart_suffix other).length_le
      (spaced_of_typed htyped)
    have hsteady : ∀ words ∈ types, Steady (typed further words) := fun words hw => typed_steady (htypes words hw) hf
    have hsome : ∀ words ∈ types, ∀ b, typed further words (afterQualifiers line.length (trimStart line)) = some b →
        ∃ b', typed further words (afterQualifiers other.length (trimStart other)) = some b' ∧ b.1 = b'.1 := by
      intro words hw b hb
      obtain ⟨rest', hrest', -⟩ := hsteady words hw hafter hb
      exact ⟨_, hrest', rfl⟩
    have hnone := fun words hw => (hsteady words hw).eq_none hafter
    obtain ⟨⟨b, rest'⟩, hfound', rfl⟩ := findSome?_follows hsome hnone hfound
    exact ⟨rest', hfound'⟩
  have hline : Alike (trimStart line) (trimStart (trim line)) := by
    obtain ⟨left, right, hleft, hright, h⟩ := exists_trim line
    have hskip : trimStart line = trimStart (trim line ++ right) := by
      conv_lhs => rw [h, List.append_assoc, trimStart, List.dropWhile_append_of_pos hleft]
      rfl
    rw [hskip]
    exact (Alike.of_blanks hright).trimStart
  cases htrim : declared? types further (trim line) with
  | some found =>
    obtain ⟨rest', hfound⟩ := hone _ _ hline.symm found.1 found.2 htrim
    rw [hfound]
    rfl
  | none =>
    cases hfound : declared? types further line with
    | none => rfl
    | some found =>
      obtain ⟨rest', htrim'⟩ := hone _ _ hline found.1 found.2 hfound
      rw [htrim] at htrim'
      cases htrim'

theorem bracketed?_steady : Steady bracketed? := by
  intro text other h list rest hfound
  simp only [bracketed?, Option.bind_eq_bind, Option.bind_eq_some_iff, Option.pure_def, Option.some.injEq,
    Prod.mk.injEq] at hfound
  obtain ⟨t1, hopen, t2, hclose, rfl, rfl⟩ := hfound
  obtain ⟨o1, hopen', h⟩ := h.token? (by decide) hopen
  obtain ⟨o2, hdrop, htake, h⟩ := h.dropWhile (by decide) (by decide) (after?_eq_some_iff.1 hclose)
  refine ⟨o2, ?_, h⟩
  have hclose' : after? [')'] (')' :: o2) = some o2 := rfl
  simp only [bracketed?, hopen', hdrop, htake, hclose', Option.bind_eq_bind, Option.bind_some, Option.pure_def]

/-! ## Lines -/

/-- readings that read the same both fail, or differ in what they leave -/
theorem same_fst {α β : Type} {x y : Option (α × β)} (h : x.map Prod.fst = y.map Prod.fst) :
    (x = none ∧ y = none) ∨ ∃ a rest rest', x = some (a, rest) ∧ y = some (a, rest') := by
  cases x with
  | none =>
    cases y with
    | none => exact Or.inl ⟨rfl, rfl⟩
    | some found => cases h
  | some found =>
    cases y with
    | none => cases h
    | some found' =>
      obtain ⟨a, rest⟩ := found
      obtain ⟨b, rest'⟩ := found'
      obtain rfl : a = b := Option.some.inj h
      exact Or.inr ⟨a, rest, rest', rfl, rfl⟩

theorem include?_trim (line : Line) : (include? (trim line)).map Prod.fst = (include? line).map Prod.fst :=
  includeAt_tight.search_trim line

theorem enumeration?_trim (line : Line) : (enumeration? (trim line)).map Prod.fst = (enumeration? line).map Prod.fst :=
  enumerationAt_tight.search_trim line

theorem stateBinding?_trim (line : Line) :
    (stateBinding? (trim line)).map Prod.fst = (stateBinding? line).map Prod.fst := by
  have hmark : occurs "State".toList (trim line) = occurs "State".toList line := by
    rw [Bool.eq_iff_iff, occurs_iff, occurs_iff]
    exact infix_trim_iff (by decide) (by decide) (by decide)
  rw [stateBinding?, stateBinding?, hmark]
  split
  · exact bindingAt_tight.search_trim line
  · rfl

theorem types_words : ∀ words ∈ returnTypes, TypeWords words := by
  have h : ∀ words ∈ returnTypes, ∀ word ∈ words, isSolid word = true := by decide
  exact fun words hwords word hword => isSolid_iff.1 (h words hwords word hword)

theorem variableHeader?_trim (line : Line) :
    (variableHeader? (trim line)).map Prod.fst = (variableHeader? line).map Prod.fst := by
  have hfurther : Steady fun rest : Line => some ((), rest) := by
    rintro text other h a rest ⟨⟩
    exact ⟨other, rfl, h⟩
  have hdeclared := declared?_trim (fun words hw => types_words words (List.mem_cons_of_mem _ hw)) hfurther line
  have hmap := congrArg (Option.map fun found => (⟨found.1, found.2.1⟩ : VariableHeader)) hdeclared
  rw [Option.map_map, Option.map_map] at hmap
  rw [variableHeader?, variableHeader?, Option.map_map, Option.map_map]
  exact hmap

theorem function?_trim (line : Line) : (function? (trim line)).map Prod.fst = (function? line).map Prod.fst := by
  have hdeclared := declared?_trim types_words bracketed?_steady line
  have hmap := congrArg (Option.map fun found => (⟨found.1, found.2.1, parameters found.2.2⟩ : FunctionHeader)) hdeclared
  rw [Option.map_map, Option.map_map] at hmap
  rw [function?, function?, Option.map_map, Option.map_map]
  exact hmap

end SketchPanel.Sketch

/-
Headers of variables and functions. A header is indentation, qualifiers, the words of a type, a gap and a name, and what
stands in two places at once is told apart by the gaps: no type is the first words of another, and none starts with a
qualifier. So of the many readings that are tried on a line at most one goes through, however it is spaced, and that one
gives back the type, the name and the parameters that the header was written with.

Results:
- `SpellsWords.comparable`: of two types spelled at one place, one starts with the other.
- `qualified_iff`, `afterQualifiers_qualifying`: qualifiers are read up to the type, and no further.
- `declared?_iff`: what a declaration is, for any continuation.
- `function?_iff`, `variableHeader?_iff`: the lines that are headers, with what is read off them.
- `Listed.parameters_eq`: listed parameters are read one by one.
- `headers_read_back`: headers are read back as they were written.
Witness:
- `slices_read_back`: a type of two words over two lines, qualifiers, a name that is itself a type, and two parameters.
-/
import Mathlib.Tactic
import SketchPanel.Proofs.TrimmedReaders

namespace SketchPanel.Sketch

open SketchPanel.Text

/-! ## How headers are written -/

/-- whether a text is blanks, at least one -/
def IsGap (text : Line) : Prop := text ≠ [] ∧ ∀ c ∈ text, isBlank c = true

-- by the list: the instance for a statement about all characters would try each of them
instance (text : Line) : Decidable (IsGap text) :=
  decidable_of_iff (text ≠ [] ∧ text.all isBlank = true) (and_congr_right' List.all_eq_true)

/-- whether a text is words with a gap between any two of them -/
inductive SpellsWords : List Line → Line → Prop where
  | last (word : Line) : SpellsWords [word] word
  | more {word gap text : Line} {words : List Line} (hgap : IsGap gap) (hmore : SpellsWords words text) :
      SpellsWords (word :: words) (word ++ (gap ++ text))

/-- whether a text is qualifiers, each with a gap behind it -/
inductive Qualifying : Line → Prop where
  | none : Qualifying []
  | more {qualifier gap text : Line} (hqualifier : qualifier ∈ qualifiers) (hgap : IsGap gap) (hmore : Qualifying text) :
      Qualifying (qualifier ++ (gap ++ text))

/-- whether a text declares a name: indentation, qualifiers, the words of a type, a gap and the name -/
structure DeclaresName (words : List Line) (name text : Line) : Prop where
  named : name ≠ []
  word : ∀ c ∈ name, isWord c = true
  written : ∃ indent front spelt gap, (∀ c ∈ indent, isBlank c = true) ∧ Qualifying front ∧ SpellsWords words spelt ∧
    IsGap gap ∧ text = indent ++ (front ++ (spelt ++ (gap ++ name)))

/-- whether a text can be a parameter between commas and brackets -/
structure IsParameter (text : Line) : Prop where
  ne_nil : text ≠ []
  stripped : trim text = text
  comma : ',' ∉ text
  bracket : ')' ∉ text

/-- whether a text lists parameters, with commas between them and any blanks around them -/
inductive Listed : List Line → Line → Prop where
  | none {blanks : Line} (hblanks : ∀ c ∈ blanks, isBlank c = true) : Listed [] blanks
  | last {parameter left right : Line} (hleft : ∀ c ∈ left, isBlank c = true) (hright : ∀ c ∈ right, isBlank c = true) :
      Listed [parameter] (left ++ parameter ++ right)
  | more {parameter left right text : Line} {parameters : List Line} (hleft : ∀ c ∈ left, isBlank c = true)
      (hright : ∀ c ∈ right, isBlank c = true) (hne : parameters ≠ []) (hmore : Listed parameters text) :
      Listed (parameter :: parameters) (left ++ parameter ++ right ++ ',' :: text)

/-! ## Gaps and words -/

section Words

variable {text rest rest' spelt spelt' gap gap' word word' : Line} {words words' : List Line}

theorem blanks?_iff : blanks? text = some rest ↔
    ∃ gap, IsGap gap ∧ text = gap ++ rest ∧ ∀ c ∈ rest.head?, isBlank c = false := by
  constructor
  · intro h
    obtain ⟨⟨gap, rest⟩, hrun, rfl⟩ := Option.map_eq_some_iff.1 h
    obtain ⟨htext, hne, hblank, hstop⟩ := run?_eq_some_iff.1 hrun
    exact ⟨gap, ⟨hne, hblank⟩, htext, hstop⟩
  · rintro ⟨gap, ⟨hne, hblank⟩, htext, hstop⟩
    exact Option.map_eq_some_iff.2 ⟨(gap, rest), run?_eq_some_iff.2 ⟨htext, hne, hblank, hstop⟩, rfl⟩

/-- a word ends where the gap behind it starts -/
theorem word_before_gap (hword : ∀ c ∈ word, isBlank c = false) (hword' : ∀ c ∈ word', isBlank c = false) (hgap : IsGap gap)
    (hgap' : IsGap gap') (h : word ++ (gap ++ rest) = word' ++ (gap' ++ rest')) :
    word = word' ∧ gap ++ rest = gap' ++ rest' := by
  have hcut : ∀ {word gap rest : Line}, (∀ c ∈ word, isBlank c = false) → IsGap gap →
      (word ++ (gap ++ rest)).takeWhile (!isBlank ·) = word := by
    intro word gap rest hword hgap
    obtain ⟨b, blanks, rfl⟩ := List.exists_cons_of_ne_nil hgap.1
    refine takeWhile_run (by simpa using hword) ?_
    rintro c ⟨⟩
    simpa using hgap.2 b List.mem_cons_self
  obtain rfl : word = word' := by
    rw [← hcut hword hgap, h]
    exact hcut hword' hgap'
  exact ⟨rfl, List.append_cancel_left h⟩

/-- a gap ends where something solid starts -/
theorem gap_before_solid (hgap : IsGap gap) (hgap' : IsGap gap') (hrest : ∀ c ∈ rest.head?, isBlank c = false)
    (hrest' : ∀ c ∈ rest'.head?, isBlank c = false) (h : gap ++ rest = gap' ++ rest') : rest = rest' := by
  have hblanks : blanks? (gap ++ rest) = some rest := blanks?_iff.2 ⟨gap, hgap, rfl, hrest⟩
  rw [blanks?_iff.2 ⟨gap', hgap', h, hrest'⟩] at hblanks
  exact (Option.some.inj hblanks).symm

/-- words start with the first of them, and a gap is behind it -/
theorem SpellsWords.first (h : SpellsWords words spelt) (hgap : IsGap gap) (rest : Line) :
    ∃ word more gap' rest', words = word :: more ∧ IsGap gap' ∧ spelt ++ (gap ++ rest) = word ++ (gap' ++ rest') := by
  cases h with
  | last => exact ⟨spelt, [], gap, rest, rfl, hgap, rfl⟩
  | @more word gap' text words hgap' _ =>
    exact ⟨word, words, gap', text ++ (gap ++ rest), rfl, hgap', by simp only [List.append_assoc]⟩

theorem SpellsWords.solid_head (h : SpellsWords words spelt) (hwords : TypeWords words) (rest : Line) :
    ∀ c ∈ (spelt ++ rest).head?, isBlank c = false := by
  have hhead : ∀ {word : Line}, word ∈ words → ∀ rest : Line, ∀ c ∈ (word ++ rest).head?, isBlank c = false := by
    intro word hword rest
    obtain ⟨hne, hsolid⟩ := hwords word hword
    obtain ⟨d, tail, rfl⟩ := List.exists_cons_of_ne_nil hne
    rintro c ⟨⟩
    exact hsolid d List.mem_cons_self
  cases h with
  | last => exact hhead List.mem_cons_self rest
  | more =>
    rw [List.append_assoc]
    exact hhead List.mem_cons_self _

/-- of two types that are spelled at one place, one starts with the words of the other -/
theorem SpellsWords.comparable (h : SpellsWords words spelt) (h' : SpellsWords words' spelt') (hwords : TypeWords words)
    (hwords' : TypeWords words') (hgap : IsGap gap) (hgap' : IsGap gap')
    (e : spelt ++ (gap ++ rest) = spelt' ++ (gap' ++ rest')) : words <+: words' ∨ words' <+: words := by
  induction h generalizing words' spelt' with
  | last word =>
    obtain ⟨word', more, gap'', rest'', rfl, hgap'', e'⟩ := h'.first hgap' rest'
    have hsolid := (hwords word List.mem_cons_self).2
    obtain ⟨rfl, -⟩ := word_before_gap hsolid (hwords' word' List.mem_cons_self).2 hgap hgap'' (e.trans e')
    exact .inl ⟨more, rfl⟩
  | @more word between text words hbetween hmore ih =>
    rw [List.append_assoc, List.append_assoc] at e
    obtain ⟨hword, hothers⟩ := List.forall_mem_cons.1 hwords
    cases h' with
    | last =>
      obtain ⟨rfl, -⟩ := word_before_gap hword.2 (hwords' _ List.mem_cons_self).2 hbetween hgap' e
      exact .inr ⟨words, rfl⟩
    | @more word' between' text' words' hbetween' hmore' =>
      rw [List.append_assoc, List.append_assoc] at e
      obtain ⟨hword', hothers'⟩ := List.forall_mem_cons.1 hwords'
      obtain ⟨rfl, hbehind⟩ := word_before_gap hword.2 hword'.2 hbetween hbetween' e
      have hsame := gap_before_solid hbetween hbetween' (hmore.solid_head hothers _) (hmore'.solid_head hothers' _) hbehind
      rcases ih hmore' hothers hothers' hsame with hpre | hpre
      · exact .inl (List.cons_prefix_cons.2 ⟨rfl, hpre⟩)
      · exact .inr (List.cons_prefix_cons.2 ⟨rfl, hpre⟩)

theorem afterWords?_iff (hne : words ≠ []) (hwords : TypeWords words) :
    afterWords? words text = some rest ↔ ∃ spelt, SpellsWords words spelt ∧ text = spelt ++ rest := by
  induction words generalizing text with
  | nil => exact absurd rfl hne
  | cons word words ih =>
    cases words with
    | nil =>
      rw [afterWords?, after?_eq_some_iff]
      constructor
      · exact fun h => ⟨word, .last word, h⟩
      · rintro ⟨_, h, rfl⟩
        cases h with
        | last => rfl
        | more _ hmore => cases hmore
    | cons next words =>
      have ih {text} := @ih text (List.cons_ne_nil next words) (List.forall_mem_cons.1 hwords).2
      simp only [afterWords?, Option.bind_eq_bind, Option.bind_eq_some_iff, after?_eq_some_iff, ih, blanks?_iff]
      constructor
      · rintro ⟨_, rfl, _, ⟨gap, hgap, rfl, -⟩, spelt, hspelt, rfl⟩
        exact ⟨_, .more hgap hspelt, by simp⟩
      · rintro ⟨_, h, rfl⟩
        cases h with
        | @more _ gap spelt _ hgap hspelt =>
          have hsolid := hspelt.solid_head (List.forall_mem_cons.1 hwords).2 rest
          exact ⟨gap ++ (spelt ++ rest), by simp, spelt ++ rest, ⟨gap, hgap, rfl, hsolid⟩, spelt, hspelt, rfl⟩

end Words

/-! ## Qualifiers -/

section Qualifiers

variable {α β : Type} {text rest front spelt gap : Line} {words : List Line}

/-- a search among choices that agree finds what they agree on -/
theorem findSome?_of_agree {choices : List α} {f : α → Option β} {a : α} {b : β} (ha : a ∈ choices) (hb : f a = some b)
    (hagree : ∀ a' ∈ choices, ∀ b', f a' = some b' → b' = b) : choices.findSome? f = some b := by
  cases hfound : choices.findSome? f with
  | none => exact absurd (hb.symm.trans (List.findSome?_eq_none_iff.1 hfound a ha)) (Option.some_ne_none b)
  | some b' =>
    obtain ⟨a', ha', hb'⟩ := List.exists_of_findSome?_eq_some hfound
    rw [hagree a' ha' b' hb']

theorem qualified_iff : qualified text = some rest ↔ ∃ qualifier ∈ qualifiers, ∃ gap, IsGap gap ∧
    text = qualifier ++ (gap ++ rest) ∧ ∀ c ∈ rest.head?, isBlank c = false := by
  have hone : ∀ qualifier text rest, (after? qualifier text).bind blanks? = some rest ↔
      ∃ gap, IsGap gap ∧ text = qualifier ++ (gap ++ rest) ∧ ∀ c ∈ rest.head?, isBlank c = false := by
    intro qualifier text rest
    simp only [Option.bind_eq_some_iff, after?_eq_some_iff, blanks?_iff]
    constructor
    · rintro ⟨_, rfl, gap, hgap, rfl, hsolid⟩
      exact ⟨gap, hgap, rfl, hsolid⟩
    · rintro ⟨gap, hgap, rfl, hsolid⟩
      exact ⟨_, rfl, gap, hgap, rfl, hsolid⟩
  constructor
  · intro h
    obtain ⟨qualifier, hmem, hfound⟩ := List.exists_of_findSome?_eq_some h
    exact ⟨qualifier, hmem, (hone qualifier text rest).1 hfound⟩
  · rintro ⟨qualifier, hmem, gap, hgap, rfl, hsolid⟩
    refine findSome?_of_agree hmem ((hone _ _ _).2 ⟨gap, hgap, rfl, hsolid⟩) fun other hother rest' hfound => ?_
    obtain ⟨gap', hgap', e, hsolid'⟩ := (hone _ _ _).1 hfound
    obtain ⟨rfl, hbehind⟩ := word_before_gap (qualifiers_solid _ hmem).2 (qualifiers_solid _ hother).2 hgap hgap' e
    exact (gap_before_solid hgap hgap' hsolid hsolid' hbehind).symm

theorem Qualifying.solid_head (h : Qualifying front) (hrest : ∀ c ∈ rest.head?, isBlank c = false) :
    ∀ c ∈ (front ++ rest).head?, isBlank c = false := by
  cases h with
  | none => exact hrest
  | @more qualifier gap text hqualifier =>
    obtain ⟨hne, hsolid⟩ := qualifiers_solid qualifier hqualifier
    obtain ⟨d, tail, rfl⟩ := List.exists_cons_of_ne_nil hne
    rintro c ⟨⟩
    exact hsolid d List.mem_cons_self

/-- all qualifiers are read, and what stands behind them is left -/
theorem afterQualifiers_qualifying {count : Nat} (h : Qualifying front) (hcount : front.length ≤ count)
    (hrest : ∀ c ∈ rest.head?, isBlank c = false) (hend : qualified rest = none) :
    afterQualifiers count (front ++ rest) = rest := by
  induction h generalizing count with
  | none =>
    cases count with
    | zero => rfl
    | succ count => rw [List.nil_append, afterQualifiers_succ, hend]; rfl
  | @more qualifier gap text hqualifier hgap hmore ih =>
    have hlength : (qualifier ++ (gap ++ text)).length = qualifier.length + (gap.length + text.length) := by simp
    have hpos := List.length_pos_of_ne_nil hgap.1
    obtain ⟨count, rfl⟩ : ∃ more, count = more + 1 := ⟨count - 1, by omega⟩
    have hone : qualified (qualifier ++ (gap ++ text) ++ rest) = some (text ++ rest) :=
      qualified_iff.2 ⟨qualifier, hqualifier, gap, hgap, by simp, hmore.solid_head hrest⟩
    rw [afterQualifiers_succ, hone]
    exact ih (by omega)

/-- what is read before the type is qualifiers -/
theorem exists_qualifying (count : Nat) (text : Line) :
    ∃ front, Qualifying front ∧ text = front ++ afterQualifiers count text := by
  induction count generalizing text with
  | zero => exact ⟨[], .none, rfl⟩
  | succ count ih =>
    rw [afterQualifiers_succ]
    cases hone : qualified text with
    | none => exact ⟨[], .none, rfl⟩
    | some rest =>
      obtain ⟨qualifier, hqualifier, gap, hgap, htext, -⟩ := qualified_iff.1 hone
      obtain ⟨front, hfront, hrest⟩ := ih rest
      refine ⟨qualifier ++ (gap ++ front), .more hqualifier hgap hfront, ?_⟩
      show text = qualifier ++ (gap ++ front) ++ afterQualifiers count rest
      rw [htext, List.append_assoc, List.append_assoc, ← hrest]

/-- no type starts with a qualifier -/
theorem qualified_type (hwords : words ∈ returnTypes) (hspelt : SpellsWords words spelt) (hgap : IsGap gap) :
    qualified (spelt ++ (gap ++ rest)) = none := by
  have hfirst : ∀ words ∈ returnTypes, ∀ word ∈ words.head?, word ∉ qualifiers := by decide
  obtain ⟨word, more, gap', rest', rfl, hgap', e⟩ := hspelt.first hgap rest
  rw [Option.eq_none_iff_forall_ne_some]
  intro found hfound
  obtain ⟨qualifier, hqualifier, gap'', hgap'', e', -⟩ := qualified_iff.1 hfound
  have hsolid := (types_words _ hwords word List.mem_cons_self).2
  obtain ⟨rfl, -⟩ := word_before_gap hsolid (qualifiers_solid _ hqualifier).2 hgap' hgap'' (e.symm.trans e')
  exact hfirst _ hwords word rfl hqualifier

end Qualifiers

/-! ## Headers -/

section Headers

variable {α : Type} {further : Line → Option (α × Line)} {types : List (List Line)} {words : List Line}
  {line text rest type name front : Line} {more : α}

/-- the words of two types are never at one place -/
theorem types_apart : ∀ words ∈ returnTypes, ∀ words' ∈ returnTypes, words <+: words' → words = words' := by
  decide +kernel

theorem typed_iff (hwords : words ∈ returnTypes) : typed further words text = some ((type, name, more), rest) ↔
    type = typeName words ∧ name ≠ [] ∧ (∀ c ∈ name, isWord c = true) ∧ ∃ spelt gap behind, SpellsWords words spelt ∧
      IsGap gap ∧ text = spelt ++ (gap ++ (name ++ behind)) ∧ (∀ c ∈ behind.head?, isWord c = false) ∧
      further behind = some (more, rest) := by
  have hne : words ≠ [] := (by decide : ∀ words ∈ returnTypes, words ≠ []) words hwords
  simp only [typed, Option.bind_eq_bind, Option.bind_eq_some_iff, afterWords?_iff hne (types_words words hwords),
    blanks?_iff, run?_eq_some_iff, Prod.exists, Option.pure_def, Option.some.injEq, Prod.mk.injEq]
  constructor
  · rintro ⟨_, ⟨spelt, hspelt, rfl⟩, _, ⟨gap, hgap, rfl, -⟩, name, behind, ⟨rfl, hname, hword, hstop⟩, more, rest, hmore,
      ⟨rfl, rfl, rfl⟩, rfl⟩
    exact ⟨rfl, hname, hword, spelt, gap, behind, hspelt, hgap, rfl, hstop, hmore⟩
  · rintro ⟨rfl, hname, hword, spelt, gap, behind, hspelt, hgap, rfl, hstop, hmore⟩
    have hsolid : ∀ c ∈ (name ++ behind).head?, isBlank c = false := by
      obtain ⟨d, tail, rfl⟩ := List.exists_cons_of_ne_nil hname
      rintro c ⟨⟩
      exact isBlank_of_isWord (hword d List.mem_cons_self)
    exact ⟨_, ⟨spelt, hspelt, rfl⟩, _, ⟨gap, hgap, rfl, hsolid⟩, name, behind, ⟨rfl, hname, hword, hstop⟩, more, rest,
      hmore, ⟨rfl, rfl, rfl⟩, rfl⟩

/-- **Declarations.** A declaration is a declared name with a continuation that is read behind it; the type is the one
that the declaration spells. -/
theorem declared?_iff (htypes : ∀ words ∈ types, words ∈ returnTypes) :
    declared? types further line = some ((type, name, more), rest) ↔ ∃ words ∈ types, type = typeName words ∧
      ∃ front behind, DeclaresName words name front ∧ line = front ++ behind ∧ (∀ c ∈ behind.head?, isWord c = false) ∧
        further behind = some (more, rest) := by
  rw [declared?_eq]
  constructor
  · intro h
    obtain ⟨words, hmem, htyped⟩ := List.exists_of_findSome?_eq_some h
    obtain ⟨rfl, hname, hword, spelt, gap, behind, hspelt, hgap, htext, hstop, hmore⟩ :=
      (typed_iff (htypes words hmem)).1 htyped
    obtain ⟨front, hfront, hline⟩ := exists_qualifying line.length (trimStart line)
    refine ⟨words, hmem, rfl, line.takeWhile isBlank ++ (front ++ (spelt ++ (gap ++ name))), behind,
      ⟨hname, hword, _, front, spelt, gap, fun c hc => List.mem_takeWhile_imp hc, hfront, hspelt, hgap, rfl⟩, ?_, hstop,
      hmore⟩
    calc line = line.takeWhile isBlank ++ trimStart line := List.takeWhile_append_dropWhile.symm
      _ = _ := by rw [hline, htext]; simp
  · rintro ⟨words, hmem, rfl, _, behind,
      ⟨hname, hword, indent, front, spelt, gap, hindent, hfront, hspelt, hgap, rfl⟩, rfl, hstop, hmore⟩
    have hwords := htypes words hmem
    have hsolid := hspelt.solid_head (types_words words hwords) (gap ++ (name ++ behind))
    have hshape : indent ++ (front ++ (spelt ++ (gap ++ name))) ++ behind =
        indent ++ (front ++ (spelt ++ (gap ++ (name ++ behind)))) := by simp
    have hlength : front.length ≤ (indent ++ (front ++ (spelt ++ (gap ++ (name ++ behind))))).length := by
      simp only [List.length_append]
      omega
    rw [hshape, trimStart_blanks hindent (hfront.solid_head hsolid),
      afterQualifiers_qualifying hfront hlength hsolid (qualified_type hwords hspelt hgap)]
    have htyped : typed further words (spelt ++ (gap ++ (name ++ behind))) = some ((typeName words, name, more), rest) :=
      (typed_iff hwords).2 ⟨rfl, hname, hword, spelt, gap, behind, hspelt, hgap, rfl, hstop, hmore⟩
    refine findSome?_of_agree hmem htyped ?_
    -- any other type that could be read there would be this one
    rintro words' hmem' ⟨⟨type', name', more'⟩, rest'⟩ htyped'
    have hwords' := htypes words' hmem'
    obtain ⟨-, -, -, spelt', gap', behind', hspelt', hgap', e, -, -⟩ := (typed_iff hwords').1 htyped'
    obtain rfl : words = words' := by
      rcases hspelt.comparable hspelt' (types_words _ hwords) (types_words _ hwords') hgap hgap' e with hpre | hpre
      · exact types_apart words hwords words' hwords' hpre
      · exact (types_apart words' hwords' words hwords hpre).symm
    exact Option.some.inj (htyped'.symm.trans htyped)

theorem bracketed?_iff {list : Line} : bracketed? text = some (list, rest) ↔ ')' ∉ list ∧
    ∃ gap, (∀ c ∈ gap, isBlank c = true) ∧ text = gap ++ '(' :: (list ++ ')' :: rest) := by
  simp only [bracketed?, Option.bind_eq_bind, Option.bind_eq_some_iff, Option.pure_def, Option.some.injEq, Prod.mk.injEq,
    token?_mark_iff (by decide : isBlank '(' = false), after?_eq_some_iff, List.singleton_append]
  constructor
  · rintro ⟨inner, ⟨gap, hgap, rfl⟩, rest, hclose, rfl, rfl⟩
    refine ⟨fun hmem => by simpa using List.mem_takeWhile_imp hmem, gap, hgap, ?_⟩
    rw [← hclose, List.takeWhile_append_dropWhile]
  · rintro ⟨hlist, gap, hgap, rfl⟩
    have hopen : ∀ c ∈ list, decide (c ≠ ')') = true := fun c hc => decide_eq_true fun e => hlist (e ▸ hc)
    have hclose : ∀ c ∈ (')' :: rest).head?, decide (c ≠ ')') = false := by simp
    exact ⟨_, ⟨gap, hgap, rfl⟩, rest, dropWhile_run hopen hclose, takeWhile_run hopen hclose, rfl⟩

/-- **Function headers.** The lines that are headers of functions, and what is read off them. -/
theorem function?_iff {f : FunctionHeader} : function? line = some (f, rest) ↔ ∃ words ∈ returnTypes,
    f.returnType = typeName words ∧ ∃ front gap list, DeclaresName words f.name front ∧ (∀ c ∈ gap, isBlank c = true) ∧
      ')' ∉ list ∧ f.parameters = parameters list ∧ line = front ++ (gap ++ '(' :: (list ++ ')' :: rest)) := by
  simp only [function?, Option.map_eq_some_iff, Prod.exists, Prod.mk.injEq, declared?_iff (fun _ h => h), bracketed?_iff]
  constructor
  · rintro ⟨type, name, list, rest, ⟨words, hwords, rfl, front, _, hfront, rfl, -, hlist, gap, hgap, rfl⟩, rfl, rfl⟩
    exact ⟨words, hwords, rfl, front, gap, list, hfront, hgap, hlist, rfl, rfl⟩
  · obtain ⟨type, name, params⟩ := f
    rintro ⟨words, hwords, rfl, front, gap, list, hfront, hgap, hlist, rfl, rfl⟩
    have hstop : ∀ c ∈ (gap ++ '(' :: (list ++ ')' :: rest)).head?, isWord c = false := by
      cases gap with
      | nil => rintro c ⟨⟩; decide
      | cons b gap => rintro c ⟨⟩; exact isWord_of_isBlank (hgap b List.mem_cons_self)
    exact ⟨_, _, list, rest, ⟨words, hwords, rfl, front, _, hfront, rfl, hstop, hlist, gap, hgap, rfl⟩, rfl, rfl⟩

/-- **Variable headers.** The lines that start with the declaration of a variable. -/
theorem variableHeader?_iff {v : VariableHeader} : variableHeader? line = some (v, rest) ↔ ∃ words ∈ primitiveTypes,
    v.type = typeName words ∧ ∃ front, DeclaresName words v.name front ∧ line = front ++ rest ∧
      ∀ c ∈ rest.head?, isWord c = false := by
  simp only [variableHeader?, Option.map_eq_some_iff, Prod.exists, Prod.mk.injEq,
    declared?_iff (fun words h => (List.mem_cons_of_mem _ h : words ∈ returnTypes)), Option.some.injEq]
  constructor
  · rintro ⟨type, name, -, rest, ⟨words, hwords, rfl, front, behind, hfront, rfl, hstop, -, rfl⟩, rfl, rfl⟩
    exact ⟨words, hwords, rfl, front, hfront, rfl, hstop⟩
  · obtain ⟨type, name⟩ := v
    rintro ⟨words, hwords, rfl, front, hfront, rfl, hstop⟩
    exact ⟨_, _, (), rest, ⟨words, hwords, rfl, front, rest, hfront, rfl, hstop, trivial, rfl⟩, rfl, rfl⟩

end Headers

/-! ## Parameters -/

section Parameters

variable {text list left right : Line} {params : List Line} {separator : Char}

/-- blanks at the end of a text are at the end of its last piece -/
theorem pieces_alike (hr : ∀ c ∈ right, isBlank c = true) (hs : isBlank separator = false) :
    List.Forall₂ Alike (pieces separator (text ++ right)) (pieces separator text) := by
  induction text with
  | nil =>
    have hnone : separator ∉ right := fun hmem => by simp [hr _ hmem] at hs
    rw [List.nil_append, pieces_single hnone]
    have halike : Alike ([] ++ right) [] := Alike.of_blanks hr
    exact .cons halike .nil
  | cons c text ih =>
    rw [List.cons_append, pieces, pieces]
    split_ifs
    · exact .cons rfl ih
    · obtain ⟨piece, more, hpieces⟩ := List.exists_cons_of_ne_nil (pieces_ne_nil separator (text ++ right))
      obtain ⟨other, others, hothers⟩ := List.exists_cons_of_ne_nil (pieces_ne_nil separator text)
      rw [hpieces, hothers] at ih ⊢
      obtain ⟨hfirst, hmore⟩ := List.forall₂_cons.1 ih
      exact .cons (hfirst.cons c) hmore

theorem map_trim_pieces_blanks (hl : ∀ c ∈ left, isBlank c = true) (hs : isBlank separator = false) (text : Line) :
    (pieces separator (left ++ text)).map trim = (pieces separator text).map trim := by
  induction left with
  | nil => rfl
  | cons b left ih =>
    obtain ⟨hb, hl⟩ := List.forall_mem_cons.1 hl
    have hother : b ≠ separator := fun e => by simp [← e, hb] at hs
    obtain ⟨piece, more, hpieces⟩ := List.exists_cons_of_ne_nil (pieces_ne_nil separator (left ++ text))
    have hpiece : trim ([b] ++ piece ++ []) = trim piece := trim_margins (by simpa using hb) (by simp)
    rw [List.append_nil, List.singleton_append] at hpiece
    rw [← ih hl, List.cons_append, pieces, if_neg hother, hpieces, List.map_cons, List.map_cons, hpiece]

/-- blanks around a list are in none of its trimmed pieces -/
theorem map_trim_pieces_trim (hs : isBlank separator = false) (text : Line) :
    (pieces separator (trim text)).map trim = (pieces separator text).map trim := by
  obtain ⟨left, right, hl, hr, h⟩ := exists_trim text
  conv_rhs => rw [h, map_trim_alike (pieces_alike hr hs), map_trim_pieces_blanks hl hs]

theorem blank_not_mem {mark : Char} (hb : ∀ c ∈ text, isBlank c = true) (hm : isBlank mark = false) : mark ∉ text :=
  fun hmem => by simp [hb mark hmem] at hm

theorem Listed.no_bracket (h : Listed params list) (hp : ∀ p ∈ params, IsParameter p) : ')' ∉ list := by
  have hmark : isBlank ')' = false := by decide
  induction h with
  | none hblanks => exact blank_not_mem hblanks hmark
  | last hleft hright =>
    have hparameter := (hp _ List.mem_cons_self).bracket
    simp [blank_not_mem hleft hmark, blank_not_mem hright hmark, hparameter]
  | more hleft hright _ _ ih =>
    obtain ⟨hparameter, hmore⟩ := List.forall_mem_cons.1 hp
    simp [blank_not_mem hleft hmark, blank_not_mem hright hmark, hparameter.bracket, ih hmore]

theorem Listed.map_trim_pieces (h : Listed params list) (hp : ∀ p ∈ params, IsParameter p) (hne : params ≠ []) :
    (pieces ',' list).map trim = params := by
  have hcomma : isBlank ',' = false := by decide
  have hpiece : ∀ {p left right : Line}, IsParameter p → (∀ c ∈ left, isBlank c = true) →
      (∀ c ∈ right, isBlank c = true) → ',' ∉ left ++ p ++ right ∧ trim (left ++ p ++ right) = p := by
    intro p left right hp hleft hright
    exact ⟨by simp [blank_not_mem hleft hcomma, blank_not_mem hright hcomma, hp.comma],
      (trim_margins hleft hright).trans hp.stripped⟩
  induction h with
  | none => exact absurd rfl hne
  | last hleft hright =>
    obtain ⟨hnone, htrim⟩ := hpiece (hp _ List.mem_cons_self) hleft hright
    rw [pieces_single hnone, List.map_singleton, htrim]
  | more hleft hright hmore _ ih =>
    obtain ⟨hparameter, hothers⟩ := List.forall_mem_cons.1 hp
    obtain ⟨hnone, htrim⟩ := hpiece hparameter hleft hright
    rw [pieces_append hnone, List.map_cons, htrim, ih hothers hmore]

/-- listed parameters are read one by one -/
theorem Listed.parameters_eq (h : Listed params list) (hp : ∀ p ∈ params, IsParameter p) : parameters list = params := by
  have hcomma : isBlank ',' = false := by decide
  rcases eq_or_ne params [] with rfl | hne
  · cases h with
    | none hblanks =>
      have hempty : trim list = [] := show trim ([] ++ [] ++ list) = trim [] from trim_margins (by simp) hblanks
      rw [parameters, if_pos hempty]
  · have hmap := h.map_trim_pieces hp hne
    have hsome : trim list ≠ [] := by
      intro hempty
      rw [← map_trim_pieces_trim hcomma, hempty] at hmap
      obtain ⟨p, rest, rfl⟩ := List.exists_cons_of_ne_nil hne
      exact (hp p List.mem_cons_self).ne_nil (List.cons.inj hmap).1.symm
    rw [parameters, if_neg hsome, map_trim_pieces_trim hcomma, hmap]

end Parameters

/-! ## Written headers -/

/-- **Headers are read back.** A declared name of a type with its parameters in brackets is the header of that function,
whatever follows it; and unless the type is `void`, a declared name that ends where it should is that variable. -/
theorem headers_read_back {words : List Line} {name front : Line} (hwords : words ∈ returnTypes)
    (h : DeclaresName words name front) :
    (∀ params list gap rest, (∀ p ∈ params, IsParameter p) → Listed params list → (∀ c ∈ gap, isBlank c = true) →
      function? (front ++ (gap ++ '(' :: (list ++ ')' :: rest))) = some (⟨typeName words, name, params⟩, rest)) ∧
    (words ≠ ["void".toList] → ∀ rest, (∀ c ∈ rest.head?, isWord c = false) →
      variableHeader? (front ++ rest) = some (⟨typeName words, name⟩, rest)) := by
  refine ⟨fun params list gap rest hparams hlist hgap => ?_, fun hvoid rest hrest => ?_⟩
  · exact function?_iff.2 ⟨words, hwords, rfl, front, gap, list, h, hgap, hlist.no_bracket hparams,
      (hlist.parameters_eq hparams).symm, rfl⟩
  · exact variableHeader?_iff.2 ⟨words, (List.mem_cons.1 hwords).resolve_left hvoid, rfl, front, h, rfl, hrest⟩

/-- indentation, two qualifiers, a type of two words over two lines, and a name that is itself a type -/
def slices : Line := "\t static const  unsigned\n long int".toList

/-- it is read back as the header of a function with two parameters, and as a variable with a value -/
theorem slices_read_back : ["unsigned".toList, "long".toList] ∈ returnTypes ∧
    DeclaresName ["unsigned".toList, "long".toList] "int".toList slices ∧
    function? (slices ++ ([' '] ++ '(' :: (" char* s,\tf(2  ".toList ++ ')' :: ") \x7b".toList))) =
      some (⟨"unsigned long".toList, "int".toList, ["char* s".toList, "f(2".toList]⟩, ") \x7b".toList) ∧
    variableHeader? (slices ++ "= 3;".toList) = some (⟨"unsigned long".toList, "int".toList⟩, "= 3;".toList) := by
  have hwords : ["unsigned".toList, "long".toList] ∈ returnTypes := by decide
  have hfront : Qualifying "static const  ".toList :=
    show Qualifying ("static".toList ++ ([' '] ++ ("const".toList ++ ([' ', ' '] ++ [])))) from
      .more (by decide) (by decide) (.more (by decide) (by decide) .none)
  have hspelt : SpellsWords ["unsigned".toList, "long".toList] "unsigned\n long".toList :=
    show SpellsWords _ ("unsigned".toList ++ (['\n', ' '] ++ "long".toList)) from
      .more (by decide) (.last _)
  have hblanks : ∀ {text : Line}, text.all isBlank = true → ∀ c ∈ text, isBlank c = true := List.all_eq_true.1
  have hdeclared : DeclaresName ["unsigned".toList, "long".toList] "int".toList slices :=
    ⟨by decide, List.all_eq_true.1 rfl, "\t ".toList, _, _, [' '], hblanks rfl, hfront, hspelt, by decide, by decide⟩
  have hparams : ∀ p ∈ ["char* s".toList, "f(2".toList], IsParameter p := by
    simp only [List.forall_mem_cons]
    exact ⟨⟨by decide, by decide, by decide, by decide⟩, ⟨by decide, by decide, by decide, by decide⟩, by simp⟩
  have hlist : Listed ["char* s".toList, "f(2".toList] " char* s,\tf(2  ".toList :=
    show Listed _ ([' '] ++ "char* s".toList ++ [] ++ ',' :: (['\t'] ++ "f(2".toList ++ [' ', ' '])) from
      .more (hblanks rfl) (hblanks rfl) (List.cons_ne_nil _ _) (.last (hblanks rfl) (hblanks rfl))
  obtain ⟨hfunction, hvariable⟩ := headers_read_back hwords hdeclared
  have hend : ∀ c ∈ "= 3;".toList.head?, isWord c = false := by
    rintro c ⟨⟩
    rfl
  exact ⟨hwords, hdeclared, hfunction _ _ [' '] _ hparams hlist (hblanks rfl), hvariable (by decide) _ hend⟩

end SketchPanel.Sketch

/-
What scanners read is a stretch of their text. What a scanner leaves is a suffix of what it was given, what it captures
is an infix, and a search finds its place at a suffix; so whatever is read anywhere in a sketch stands in one piece in
the sketch. The other way, a text put together from the parts that a scanner asks for is read back part by part, as
long as nothing after a run goes on with it.

Results:
- `after?_eq_some_iff`, `run?_eq_some_iff`: literals and runs, both ways.
- `search_eq_some`: a search that succeeds has its scanner succeed on some suffix.
- `search_append`: the search passes over every place where its scanner fails.
- `occurs_iff`: an occurrence is an infix.
- `infix_trim_iff`: trimming loses no occurrence of a literal whose ends are no blanks.
- `pieces_join`: pieces without separators, joined with them, are the pieces again.
-/
import Mathlib.Data.List.TakeWhile
import Mathlib.Tactic
import SketchPanel.Text.Digit
import SketchPanel.Text.Scan

namespace SketchPanel.Text

/-! ## Classes of characters -/

/-- all code points of some ranges -/
def Ranges.codes (ranges : Ranges) : List Nat := ranges.flatMap fun range => List.range' range.1 (range.2 + 1 - range.1)

theorem Ranges.mem_codes {ranges : Ranges} {code : Nat} (h : ranges.covers code = true) : code ∈ ranges.codes := by
  induction ranges with
  | nil => cases h
  | cons range ranges ih =>
    obtain ⟨first, last⟩ := range
    simp only [covers] at h
    simp only [codes, List.flatMap_cons, List.mem_append, List.mem_range'_1]
    split_ifs at h with hlow hhigh
    · left; omega
    · exact Or.inr (ih h)

theorem isWord_of_isBlank {c : Char} (h : isBlank c = true) : isWord c = false := by
  have hall : ∀ n ∈ blankRanges.codes, wordRanges.covers n = false := by decide +kernel
  exact hall _ (Ranges.mem_codes h)

theorem isDigit_of_isBlank {c : Char} (h : isBlank c = true) : isDigit c = false := by
  have hall : ∀ n ∈ blankRanges.codes, (digitAmong zeros n).isSome = false := by decide +kernel
  exact hall _ (Ranges.mem_codes h)

theorem isBlank_of_isDigit {c : Char} (h : isDigit c = true) : isBlank c = false := by
  by_contra hb
  rw [isDigit_of_isBlank (by simpa using hb)] at h
  cases h

theorem isBlank_of_isHexDigit {c : Char} (h : isHexDigit c = true) : isBlank c = false := by
  have hcode : 48 ≤ c.toNat ∧ c.toNat ≤ 57 ∨ 97 ≤ c.toNat ∧ c.toNat ≤ 102 ∨ 65 ≤ c.toNat ∧ c.toNat ≤ 70 := by
    unfold isHexDigit hexValue at h
    split_ifs at h with hdigit hlower hupper
    · exact .inl hdigit
    · exact .inr (.inl hlower)
    · exact .inr (.inr hupper)
    · cases h
  have hall : ∀ n ∈ blankRanges.codes, ¬(48 ≤ n ∧ n ≤ 57 ∨ 97 ≤ n ∧ n ≤ 102 ∨ 65 ≤ n ∧ n ≤ 70) := by decide +kernel
  by_contra hblank
  rw [Bool.not_eq_false] at hblank
  exact hall _ (Ranges.mem_codes hblank) hcode

/-! ## Literals and runs -/

theorem after?_eq_some_iff {literal text rest : List Char} :
    after? literal text = some rest ↔ text = literal ++ rest :=
  ⟨eq_append_of_after?, fun h => h ▸ after?_append literal rest⟩

theorem after?_suffix {literal text rest : List Char} (h : after? literal text = some rest) : rest <:+ text :=
  ⟨literal, (after?_eq_some_iff.1 h).symm⟩

theorem after?_isSome_iff {literal text : List Char} : (after? literal text).isSome = true ↔ literal <+: text := by
  rw [Option.isSome_iff_exists]
  constructor
  · rintro ⟨rest, h⟩
    exact ⟨rest, (after?_eq_some_iff.1 h).symm⟩
  · rintro ⟨rest, h⟩
    exact ⟨rest, after?_eq_some_iff.2 h.symm⟩

theorem takeWhile_run {such : Char → Bool} {run rest : List Char} (hrun : ∀ c ∈ run, such c = true)
    (hrest : ∀ c ∈ rest.head?, such c = false) : (run ++ rest).takeWhile such = run := by
  rw [List.takeWhile_append_of_pos hrun]
  cases rest with
  | nil => simp
  | cons c rest => simp [hrest c rfl]

theorem dropWhile_run {such : Char → Bool} {run rest : List Char} (hrun : ∀ c ∈ run, such c = true)
    (hrest : ∀ c ∈ rest.head?, such c = false) : (run ++ rest).dropWhile such = rest := by
  rw [List.dropWhile_append_of_pos hrun]
  cases rest with
  | nil => rfl
  | cons c rest => simp [hrest c rfl]

theorem not_head_dropWhile (such : Char → Bool) (text : List Char) :
    ∀ c ∈ (text.dropWhile such).head?, such c = false := by
  intro c hc
  have h := List.head?_dropWhile_not such text
  rw [Option.mem_def.1 hc] at h
  exact h

/-- a run is as long as it can be -/
theorem run?_eq_some_iff {such : Char → Bool} {text run rest : List Char} :
    run? such text = some (run, rest) ↔
      text = run ++ rest ∧ run ≠ [] ∧ (∀ c ∈ run, such c = true) ∧ ∀ c ∈ rest.head?, such c = false := by
  constructor
  · intro h
    refine ⟨(append_eq_of_run? h).symm, ?_⟩
    unfold run? at h
    split at h
    · cases h
    · rename_i c cs e
      cases h
      rw [← e]
      exact ⟨by rw [e]; simp, fun c hc => List.mem_takeWhile_imp hc, not_head_dropWhile such text⟩
  · rintro ⟨rfl, hne, hrun, hrest⟩
    unfold run?
    rw [takeWhile_run hrun hrest, dropWhile_run hrun hrest]
    cases run with
    | nil => exact absurd rfl hne
    | cons c cs => rfl

theorem run?_suffix {such : Char → Bool} {text run rest : List Char} (h : run? such text = some (run, rest)) :
    rest <:+ text :=
  ⟨run, (run?_eq_some_iff.1 h).1.symm⟩

theorem run?_within {such : Char → Bool} {text run rest : List Char} (h : run? such text = some (run, rest)) :
    run <:+: text :=
  ⟨[], rest, (run?_eq_some_iff.1 h).1.symm⟩

/-! ## Blanks and tokens -/

theorem trimStart_suffix (text : List Char) : trimStart text <:+ text := List.dropWhile_suffix _

theorem trimStart_blanks {blanks rest : List Char} (hb : ∀ c ∈ blanks, isBlank c = true)
    (hr : ∀ c ∈ rest.head?, isBlank c = false) : trimStart (blanks ++ rest) = rest :=
  dropWhile_run hb hr

/-- decimal digits are read with any blanks before them, if no digit follows -/
theorem run?_digits_blanks {blanks digits rest : List Char} (hb : ∀ c ∈ blanks, isBlank c = true) (hne : digits ≠ [])
    (hd : ∀ c ∈ digits, isDigit c = true) (hr : ∀ c ∈ rest.head?, isDigit c = false) :
    run? isDigit (trimStart (blanks ++ (digits ++ rest))) = some (digits, rest) := by
  have hhead : ∀ c ∈ (digits ++ rest).head?, isBlank c = false := by
    obtain ⟨d, ds, rfl⟩ := List.exists_cons_of_ne_nil hne
    rintro c ⟨⟩
    exact isBlank_of_isDigit (hd d List.mem_cons_self)
  rw [trimStart_blanks hb hhead]
  exact run?_eq_some_iff.2 ⟨rfl, hne, hd, hr⟩

theorem token?_suffix {literal text rest : List Char} (h : token? literal text = some rest) : rest <:+ text :=
  (after?_suffix h).trans (trimStart_suffix text)

/-- a token is read with any blanks before it, if it does not start with one -/
theorem token?_blanks {literal blanks rest : List Char} (hb : ∀ c ∈ blanks, isBlank c = true)
    (hl : literal ≠ []) (hh : ∀ c ∈ literal.head?, isBlank c = false) :
    token? literal (blanks ++ (literal ++ rest)) = some rest := by
  unfold token?
  rw [trimStart_blanks hb]
  · exact after?_append literal rest
  · cases literal with
    | nil => exact absurd rfl hl
    | cons c cs => exact hh

/-- a mark is read with any blanks before it -/
theorem token?_mark_iff {mark : Char} (hm : isBlank mark = false) {text rest : List Char} :
    token? [mark] text = some rest ↔ ∃ blanks, (∀ c ∈ blanks, isBlank c = true) ∧ text = blanks ++ mark :: rest := by
  constructor
  · intro h
    have hmark : trimStart text = mark :: rest := after?_eq_some_iff.1 h
    refine ⟨text.takeWhile isBlank, fun c hc => List.mem_takeWhile_imp hc, ?_⟩
    rw [← hmark, trimStart, List.takeWhile_append_dropWhile]
  · rintro ⟨blanks, hblanks, rfl⟩
    exact token?_blanks hblanks (List.cons_ne_nil _ _) (by simpa using hm)

/-- the text is what trimming takes off on the left, what it keeps, and what it takes off on the right -/
theorem exists_trim (text : List Char) : ∃ left right, (∀ c ∈ left, isBlank c = true) ∧
    (∀ c ∈ right, isBlank c = true) ∧ text = left ++ trim text ++ right := by
  have hright : trimEnd (trimStart text) ++ ((trimStart text).reverse.takeWhile isBlank).reverse = trimStart text := by
    rw [trimEnd, ← List.reverse_append, List.takeWhile_append_dropWhile, List.reverse_reverse]
  refine ⟨text.takeWhile isBlank, ((trimStart text).reverse.takeWhile isBlank).reverse,
    fun c hc => List.mem_takeWhile_imp hc, fun c hc => List.mem_takeWhile_imp (List.mem_reverse.1 hc), ?_⟩
  rw [trim, List.append_assoc, hright]
  exact List.takeWhile_append_dropWhile.symm

theorem trim_of_no_blanks {text : List Char} (h : ∀ c ∈ text, isBlank c = false) : trim text = text := by
  have hdrop : ∀ l : List Char, (∀ c ∈ l, isBlank c = false) → l.dropWhile isBlank = l := by
    intro l hl
    cases l with
    | nil => rfl
    | cons c rest => rw [List.dropWhile_cons, hl c List.mem_cons_self, if_neg Bool.false_ne_true]
  have hstart : trimStart text = text := hdrop text h
  rw [trim, hstart, trimEnd, hdrop text.reverse fun c hc => h c (List.mem_reverse.mp hc), List.reverse_reverse]

theorem trim_within (text : List Char) : trim text <:+: text := by
  obtain ⟨left, right, -, -, h⟩ := exists_trim text
  exact ⟨left, right, h.symm⟩

/-- trimming loses no occurrence of a text that neither starts nor ends with a blank -/
theorem infix_trim_iff {literal text : List Char} (hne : literal ≠ []) (hh : isBlank (literal.head hne) = false)
    (hl : isBlank (literal.getLast hne) = false) : literal <:+: trim text ↔ literal <:+: text := by
  refine ⟨fun h => h.trans (trim_within text), fun h => ?_⟩
  obtain ⟨left, right, hleft, hright, e⟩ := exists_trim text
  have hstart : ∀ part, part ≠ [] → part <+: literal → ¬ part <:+: left := by
    rintro part hp ⟨more, rfl⟩ hin
    have hb := hleft _ (hin.subset (List.head_mem hp))
    rw [List.head_append_of_ne_nil hp] at hh
    simp [hb] at hh
  have hend : ∀ part, part ≠ [] → part <:+ literal → ¬ part <:+: right := by
    rintro part hp ⟨more, rfl⟩ hin
    have hb := hright _ (hin.subset (List.getLast_mem hp))
    rw [List.getLast_append_of_ne_nil _ hp] at hl
    simp [hb] at hl
  rw [e, List.infix_append_iff_ne_nil] at h
  rcases h with h | h | ⟨front, back, -, hback, e', -, hpre⟩
  · rw [List.infix_append_iff_ne_nil] at h
    rcases h with h | h | ⟨front, back, hfront, -, e', hsuf, -⟩
    · exact absurd h (hstart _ hne List.prefix_rfl)
    · exact h
    · exact absurd hsuf.isInfix (hstart front hfront ⟨back, e'.symm⟩)
  · exact absurd h (hend _ hne List.suffix_rfl)
  · exact absurd hpre.isInfix (hend back hback ⟨front, e'.symm⟩)

/-! ## Searching -/

/-- a search that succeeds has its scanner succeed somewhere in the text -/
theorem search_eq_some {α : Type} {scan : Option Char → List Char → Option (α × List Char)} {before : Option Char}
    {text : List Char} {found : α × List Char} (h : search scan before text = some found) :
    ∃ previous here, here <:+ text ∧ scan previous here = some found := by
  induction text generalizing before with
  | nil => exact ⟨before, [], List.suffix_rfl, h⟩
  | cons c rest ih =>
    unfold search at h
    split at h
    · rename_i found' hs
      exact ⟨before, c :: rest, List.suffix_rfl, hs.trans h⟩
    · obtain ⟨previous, here, hsuf, hs⟩ := ih h
      exact ⟨previous, here, hsuf.trans (List.suffix_cons c rest), hs⟩

theorem search_of_scan {α : Type} {scan : Option Char → List Char → Option (α × List Char)} {before : Option Char}
    {text : List Char} {found : α × List Char} (h : scan before text = some found) :
    search scan before text = some found := by
  cases text with
  | nil => exact h
  | cons c rest => simp [search, h]

/-- a search passes over the places where its scanner fails -/
theorem search_append {α : Type} {scan : Option Char → List Char → Option (α × List Char)} {text : List Char}
    (skipped : List Char) (before : Option Char)
    (h : ∀ c here, c :: here <:+ skipped → ∀ previous, scan previous (c :: here ++ text) = none) :
    search scan before (skipped ++ text) = search scan (skipped.getLast?.or before) text := by
  induction skipped generalizing before with
  | nil => rfl
  | cons c rest ih =>
    have hfail := h c rest List.suffix_rfl before
    rw [List.cons_append] at hfail ⊢
    simp only [search, hfail]
    rw [ih _ fun c' here hsuf => h c' here (hsuf.trans (List.suffix_cons c rest))]
    cases rest with
    | nil => rfl
    | cons d ds =>
      rw [List.getLast?_cons_cons]
      cases hg : (d :: ds).getLast? with
      | none => simp at hg
      | some e => rfl

theorem occurs_iff {literal text : List Char} : occurs literal text = true ↔ literal <:+: text := by
  induction text with
  | nil => simp [occurs]
  | cons c rest ih =>
    rw [occurs, Bool.or_eq_true, after?_isSome_iff, ih, List.infix_cons_iff]

/-! ## Pieces -/

/-- pieces of a text, each a stretch of it, and the first a prefix -/
structure Stretches (text : List Char) (parts : List (List Char)) : Prop where
  first : ∀ part ∈ parts.head?, part <+: text
  all : ∀ part ∈ parts, part <:+: text

namespace Stretches

variable {c : Char} {rest first : List Char} {more : List (List Char)}

theorem empty : Stretches rest [[]] := ⟨by simp, by simp⟩

/-- a new piece is started before a character that goes to none -/
theorem cut (h : Stretches rest more) : Stretches (c :: rest) ([] :: more) := by
  refine ⟨by simp, fun part hp => ?_⟩
  rcases List.mem_cons.1 hp with rfl | hp
  · exact List.nil_infix
  · exact List.infix_cons (h.all part hp)

theorem single : Stretches (c :: rest) [[c]] := by
  have hpre : [c] <+: c :: rest := ⟨rest, rfl⟩
  exact ⟨by simp, by simpa using hpre.isInfix⟩

/-- a character goes to the first piece -/
theorem grow (h : Stretches rest (first :: more)) : Stretches (c :: rest) ((c :: first) :: more) := by
  have hpre : c :: first <+: c :: rest := List.cons_prefix_cons.2 ⟨rfl, h.first first rfl⟩
  refine ⟨by simpa using hpre, fun part hp => ?_⟩
  rcases List.mem_cons.1 hp with rfl | hp
  · exact hpre.isInfix
  · exact List.infix_cons (h.all part (List.mem_cons_of_mem _ hp))

end Stretches

theorem pieces_stretches (separator : Char) (text : List Char) : Stretches text (pieces separator text) := by
  induction text with
  | nil => exact Stretches.empty
  | cons c rest ih =>
    simp only [pieces]
    split
    · exact ih.cut
    · split
      · exact Stretches.single
      · rename_i hp
        exact Stretches.grow (hp ▸ ih)

theorem not_mem_pieces {separator : Char} {text piece : List Char} (h : piece ∈ pieces separator text) :
    separator ∉ piece := by
  induction text generalizing piece with
  | nil =>
    obtain rfl := List.mem_singleton.1 h
    exact List.not_mem_nil
  | cons c rest ih =>
    unfold pieces at h
    split at h
    · rcases List.mem_cons.1 h with rfl | h
      · exact List.not_mem_nil
      · exact ih h
    · rename_i hc
      split at h
      · obtain rfl := List.mem_singleton.1 h
        simpa using Ne.symm hc
      · rename_i first more hmore
        rcases List.mem_cons.1 h with rfl | h
        · rw [List.mem_cons, not_or]
          exact ⟨Ne.symm hc, ih (by rw [hmore]; exact List.mem_cons_self)⟩
        · exact ih (by rw [hmore]; exact List.mem_cons_of_mem _ h)

theorem pieces_append {separator : Char} {piece : List Char} (h : separator ∉ piece) (rest : List Char) :
    pieces separator (piece ++ separator :: rest) = piece :: pieces separator rest := by
  induction piece with
  | nil => simp [pieces]
  | cons c piece ih =>
    rw [List.mem_cons, not_or] at h
    rw [List.cons_append, pieces, if_neg (Ne.symm h.1), ih h.2]

theorem pieces_single {separator : Char} {piece : List Char} (h : separator ∉ piece) :
    pieces separator piece = [piece] := by
  induction piece with
  | nil => rfl
  | cons c piece ih =>
    rw [List.mem_cons, not_or] at h
    rw [pieces, if_neg (Ne.symm h.1), ih h.2]

/-- pieces joined with the separator are the pieces again -/
theorem pieces_join {separator : Char} {parts : List (List Char)} (hne : parts ≠ [])
    (h : ∀ part ∈ parts, separator ∉ part) : pieces separator (join [separator] parts) = parts := by
  induction parts with
  | nil => exact absurd rfl hne
  | cons part more ih =>
    rw [List.forall_mem_cons] at h
    cases more with
    | nil => exact pieces_single h.1
    | cons next more =>
      rw [join, List.append_assoc, List.singleton_append, pieces_append h.1, ih (List.cons_ne_nil _ _) h.2]
      exact fun e => List.cons_ne_nil _ _ e

theorem lines_within {text line : List Char} (h : line ∈ lines text) : line <:+: text :=
  (pieces_stretches '\n' text).all line h

end SketchPanel.Text

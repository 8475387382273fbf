/-
Values as they are written, and read back. A written value holds no carriage return, so it is the same after lines were
evened out. Characters are told apart from what stands around them by their escapes, numbers by what cannot go on with
them, and lists and objects by their brackets; so a value is read off whatever text it stands at the start of. The
induction is on how the value is put together, for every depth that it is laid out at and for every text behind it.

Results:
- `write_no_return`: no written value has a carriage return in it.
- `stringRest_text`: the characters of a text come back from their escapes, those beyond the first plane from pairs.
- `value_write`, `read_write`: a value without floating numbers is read back, laid out over lines or on one line.
-/
import SketchPanel.Json.Writer
import SketchPanel.Proofs.HexColours
import SketchPanel.Proofs.ObjectFields
import SketchPanel.Proofs.WrittenDigits

namespace SketchPanel.Json

open SketchPanel.Text SketchPanel.Number

/-! ## No carriage return -/

theorem exponentMark_no_return (exponent : Int) : '\r' ∉ exponentMark exponent := by
  have hsize := toDigits_no_return exponent.natAbs
  by_cases h : exponent < 0 <;> simp [exponentMark, hsize, h]

theorem writeDigits_no_return {digits : List Char} (h : '\r' ∉ digits) (exponent : Int) :
    '\r' ∉ writeDigits digits exponent := by
  have htake : ∀ n, '\r' ∉ digits.take n := fun n hmem => h (List.mem_of_mem_take hmem)
  have hdrop : ∀ n, '\r' ∉ digits.drop n := fun n hmem => h (List.mem_of_mem_drop hmem)
  unfold writeDigits
  dsimp only
  split
  · split <;> simp_all [exponentMark_no_return]
  · split
    · simp [h]
    · split
      · simp [h]
      · simp [htake, hdrop]

theorem shortestDigits_no_return (num den : Nat) (value : Float) : '\r' ∉ (shortestDigits num den value).1 := by
  intro h
  have htrimmed := List.mem_reverse.1 h
  exact toDigits_no_return _ (List.mem_reverse.1 ((List.dropWhile_suffix _).subset htrimmed))

theorem shortest_no_return (x : Float) : '\r' ∉ shortest x := by
  unfold shortest
  split
  · decide
  · split <;> decide
  · rename_i negative mantissa exponent _
    dsimp only
    have hdigits := shortestDigits_no_return (scaled mantissa exponent).1 (scaled mantissa exponent).2
      (nearest false (scaled mantissa exponent).1 (scaled mantissa exponent).2)
    have htext := writeDigits_no_return hdigits (shortestDigits (scaled mantissa exponent).1 (scaled mantissa exponent).2
      (nearest false (scaled mantissa exponent).1 (scaled mantissa exponent).2)).2
    split <;> split <;> simp [htext]

/-- whether a text is an escape of a character: a short one, the character itself, or one or two code escapes -/
inductive Escapes (c : Char) : List Char → Prop
  | short {mark : Char} (hmark : shortEscape? mark = some c) : Escapes c ['\\', mark]
  | plain (hquote : c ≠ '"') (hback : c ≠ '\\') (hlow : 32 ≤ c.toNat) (hhigh : c.toNat < 127) : Escapes c [c]
  | code (hplane : c.toNat < 0x10000) : Escapes c (codeUnit c.toNat)
  | pair (hplane : 0x10000 ≤ c.toNat) :
    Escapes c (codeUnit (0xD800 + (c.toNat - 0x10000) / 0x400) ++ codeUnit (0xDC00 + (c.toNat - 0x10000) % 0x400))

theorem escapes_escaped (c : Char) : Escapes c (escaped c) := by
  by_cases hshort : c ∈ ['"', '\\', '\n', '\r', '\t', '\x08', '\x0c']
  · simp only [List.mem_cons, List.not_mem_nil, or_false] at hshort
    rcases hshort with rfl | rfl | rfl | rfl | rfl | rfl | rfl
    all_goals exact .short rfl
  · simp only [List.mem_cons, List.not_mem_nil, or_false, not_or] at hshort
    obtain ⟨hquote, hback, hline, hreturn, htab, hbell, hpage⟩ := hshort
    rw [escaped, if_neg hquote, if_neg hback, if_neg hline, if_neg hreturn, if_neg htab, if_neg hbell, if_neg hpage]
    by_cases hplain : 32 ≤ c.toNat ∧ c.toNat < 127
    · rw [if_pos hplain]
      exact .plain hquote hback hplain.1 hplain.2
    · rw [if_neg hplain]
      by_cases hplane : c.toNat < 0x10000
      · rw [if_pos hplane]
        exact .code hplane
      · rw [if_neg hplane]
        exact .pair (Nat.le_of_not_lt hplane)

theorem codeUnit_no_return (n : Nat) : '\r' ∉ codeUnit n := by
  intro h
  have hdigits : ∀ d ∈ hexPadded 4 n, d ≠ '\r' := forall_hexPadded (by decide)
  simp only [codeUnit, List.mem_cons] at h
  exact hdigits _ (by simpa using h) rfl

theorem Escapes.no_return {c : Char} {text : List Char} (h : Escapes c text) : '\r' ∉ text := by
  cases h with
  | @short mark hmark =>
    intro h
    obtain rfl : mark = '\r' := by simpa [eq_comm] using h
    cases hmark
  | plain _ _ hlow =>
    intro h
    obtain rfl : c = '\r' := by simpa [eq_comm] using h
    revert hlow
    decide
  | code => exact codeUnit_no_return _
  | pair => simp [codeUnit_no_return]

theorem literal_no_return (s : String) : '\r' ∉ literal s := by
  simp [literal, (escapes_escaped _).no_return]

theorem realText_no_return (x : Float) : '\r' ∉ realText x := by
  unfold realText
  split
  · decide
  · decide
  · decide
  · exact shortest_no_return x

theorem intText_no_return (n : Int) : '\r' ∉ (toString n).toList := by
  rw [intText_eq]
  split <;> simp [toDigits_no_return]

theorem Layout.before_no_return (layout : Layout) : '\r' ∉ layout.before := by cases layout <;> simp [Layout.before]

theorem Layout.between_no_return (layout : Layout) : '\r' ∉ layout.between := by cases layout <;> simp [Layout.between]

mutual

/-- a written value has no carriage return in it -/
theorem write_no_return (layout : Layout) : ∀ v : Json, '\r' ∉ write layout v
  | .null => by simp [write]
  | .bool true => by simp [write]
  | .bool false => by simp [write]
  | .int n => by simpa only [write] using intText_no_return n
  | .real x => by simpa only [write] using realText_no_return x
  | .str s => by simpa only [write] using literal_no_return s
  | .arr [] => by simp [write]
  | .arr (item :: items) => by
    simp [write, Layout.before_no_return, write_no_return layout.deeper item, writeItems_no_return layout.deeper items]
  | .obj [] => by simp [write]
  | .obj ((key, value) :: fields) => by
    simp [write, Layout.before_no_return, literal_no_return, write_no_return layout.deeper value,
      writeFields_no_return layout.deeper fields]

theorem writeItems_no_return (layout : Layout) : ∀ items : List Json, '\r' ∉ writeItems layout items
  | [] => by simp [writeItems]
  | item :: items => by
    simp [writeItems, Layout.between_no_return, write_no_return layout item, writeItems_no_return layout items]

theorem writeFields_no_return (layout : Layout) : ∀ fields : Fields, '\r' ∉ writeFields layout fields
  | [] => by simp [writeFields]
  | (key, value) :: fields => by
    simp [writeFields, Layout.between_no_return, literal_no_return, write_no_return layout value,
      writeFields_no_return layout fields]

end

/-! ## Texts read back -/

theorem fourDigits?_hexPadded {n : Nat} (h : n < 0x10000) (rest : List Char) :
    fourDigits? (hexPadded 4 n ++ rest) = some (n, rest) := by
  have hlength : (hexPadded 4 n).length = 4 := length_hexPadded 4 n
  have hdigits : (hexPadded 4 n).all isHexDigit = true := List.all_eq_true.2 isHexDigit_hexPadded
  have hnumber : hexNumber (hexPadded 4 n) = n := by
    rw [hexNumber_hexPadded]
    exact Nat.mod_eq_of_lt h
  rw [fourDigits?, List.take_left' hlength, List.drop_left' hlength]
  simp [hlength, hdigits, hnumber]

theorem drop_hexPadded (n : Nat) (rest : List Char) : (hexPadded 4 n ++ rest).drop 4 = rest :=
  List.drop_left' (length_hexPadded 4 n)

/-- a code escape stands for the character that it was written for -/
theorem codeEscape_single (mark c : Char) {rest : List Char} (hplane : c.toNat < 0x10000) (hrest : rest ≠ []) :
    codeEscape mark (hexPadded 4 c.toNat ++ rest) = .ok (c, rest) := by
  have hvalid : c.toNat < 0xD800 ∨ 0xDFFF < c.toNat := by
    rcases c.valid with h | h
    · exact .inl h
    · exact .inr h.1
  have hempty : rest.isEmpty = false := by simpa using hrest
  rw [codeEscape, drop_hexPadded, hempty, if_neg (by simp), fourDigits?_hexPadded hplane]
  dsimp only
  rw [if_neg (by omega), if_neg (by omega), Char.ofNat_toNat]

/-- two code escapes that are halves of a pair stand for one character -/
theorem codeEscape_pair (mark : Char) {high low : Nat} {rest : List Char} (hhigh : 0xD800 ≤ high ∧ high ≤ 0xDBFF)
    (hlow : 0xDC00 ≤ low ∧ low ≤ 0xDFFF) (hrest : rest ≠ []) :
    codeEscape mark (hexPadded 4 high ++ (codeUnit low ++ rest)) =
      .ok (Char.ofNat (0x10000 + (high - 0xD800) * 0x400 + (low - 0xDC00)), rest) := by
  have hlength : (codeUnit low).length = 6 := by rw [codeUnit, List.length_cons, List.length_cons, length_hexPadded]
  have hsecond : (codeUnit low ++ rest).drop 6 ≠ [] := by rwa [List.drop_left' hlength]
  have hdigits : fourDigits? (hexPadded 4 low ++ rest) = some (low, rest) := fourDigits?_hexPadded (by omega) rest
  rw [codeEscape, drop_hexPadded, fourDigits?_hexPadded (by omega), if_neg (by simp [codeUnit])]
  dsimp only
  rw [if_pos ⟨hhigh.1, hhigh.2, hsecond⟩]
  simp only [codeUnit, List.cons_append, hdigits, if_pos hlow]

/-- the halves of the pair for a character beyond the first plane -/
theorem pair_halves {n : Nat} (hplane : 0x10000 ≤ n) (hlimit : n < 0x110000) :
    (0xD800 ≤ 0xD800 + (n - 0x10000) / 0x400 ∧ 0xD800 + (n - 0x10000) / 0x400 ≤ 0xDBFF) ∧
      (0xDC00 ≤ 0xDC00 + (n - 0x10000) % 0x400 ∧ 0xDC00 + (n - 0x10000) % 0x400 ≤ 0xDFFF) ∧
      0x10000 + (0xD800 + (n - 0x10000) / 0x400 - 0xD800) * 0x400 + (0xDC00 + (n - 0x10000) % 0x400 - 0xDC00) = n := by
  omega

/-- one character read back -/
theorem Escapes.read_back {c : Char} {text rest : List Char} (h : Escapes c text) (hrest : rest ≠ [])
    (opening : List Char) (fuel : Nat) (read : List Char) :
    stringRest opening (fuel + 1) read (text ++ rest) = stringRest opening fuel (c :: read) rest := by
  cases h with
  | @short mark hmark =>
    have hcode : mark ≠ 'u' := by
      rintro rfl
      cases hmark
    rw [List.cons_append, List.cons_append, List.nil_append, stringRest]
    · rw [hmark]
    · simp [hcode]
  | plain hquote hback hlow =>
    rw [List.cons_append, List.nil_append, stringRest]
    · rw [if_neg (Nat.not_lt.2 hlow)]
    all_goals simp [hquote, hback]
  | code hplane =>
    rw [codeUnit, List.cons_append, List.cons_append, stringRest, codeEscape_single 'u' c hplane hrest]
    rfl
  | pair hplane =>
    have hlimit : c.toNat < 0x110000 := by
      rcases c.valid with h | h
      · exact Nat.lt_of_lt_of_le h (by omega)
      · exact h.2
    obtain ⟨hhigh, hlow, hcode⟩ := pair_halves hplane hlimit
    rw [codeUnit, List.cons_append, List.cons_append, List.cons_append, List.cons_append, stringRest, List.append_assoc,
      codeEscape_pair 'u' hhigh hlow hrest, hcode, Char.ofNat_toNat]
    rfl

theorem stringRest_literal (opening : List Char) (s rest : List Char) : ∀ (fuel : Nat) (read : List Char), s.length < fuel →
    stringRest opening fuel read (s.flatMap escaped ++ '"' :: rest) = .ok (.ofList (read.reverse ++ s), rest) := by
  induction s with
  | nil =>
    intro fuel read hfuel
    obtain ⟨fuel, rfl⟩ := Nat.exists_eq_succ_of_ne_zero (Nat.ne_of_gt hfuel)
    simp [stringRest]
  | cons c s ih =>
    intro fuel read hfuel
    obtain ⟨fuel, rfl⟩ := Nat.exists_eq_succ_of_ne_zero (Nat.ne_of_gt (Nat.lt_of_le_of_lt (Nat.zero_le _) hfuel))
    rw [List.flatMap_cons, List.append_assoc, Nat.succ_eq_add_one, (escapes_escaped c).read_back (by simp),
      ih fuel (c :: read)]
    · simp
    · simpa using hfuel

/-! ## Numbers read back -/

/-- whether nothing that goes on with a number comes next -/
def NumberEnds (rest : List Char) : Prop := ∀ c ∈ rest.head?, isPlainDigit c = false ∧ c ≠ '.' ∧ c ≠ 'e' ∧ c ≠ 'E'

theorem isPlainDigit_toDigits (n : Nat) : ∀ d ∈ Nat.toDigits 10 n, isPlainDigit d = true := by
  intro d hd
  have hdigit := Nat.isDigit_of_mem_toDigits (by decide) (by decide) hd
  simpa [isPlainDigit, Char.isDigit, Char.le_def] using hdigit

theorem wholeDigits?_toDigits (n : Nat) {rest : List Char} (hrest : NumberEnds rest) :
    wholeDigits? (Nat.toDigits 10 n ++ rest) = some (Nat.toDigits 10 n, rest) := by
  rcases Nat.eq_zero_or_pos n with rfl | hpos
  · rfl
  · have hrun : run? isPlainDigit (Nat.toDigits 10 n ++ rest) = some (Nat.toDigits 10 n, rest) :=
      run?_eq_some_iff.2 ⟨rfl, Nat.toDigits_ne_nil, isPlainDigit_toDigits n, fun c hc => (hrest c hc).1⟩
    unfold wholeDigits?
    split
    · rename_i more hnought
      obtain ⟨d, digits, hdigits⟩ := List.exists_cons_of_ne_nil (Nat.toDigits_ne_nil (n := n) (b := 10))
      have hd : d = '0' := by
        rw [hdigits] at hnought
        exact (List.cons.inj hnought).1
      exact absurd hd (head_toDigits hpos d (by simp [hdigits]))
    · exact hrun

/-- a whole number of not too many digits, with or without a sign -/
theorem number_whole (negative : Bool) {n : Nat} {rest : List Char} (hlimit : (Nat.toDigits 10 n).length ≤ digitLimit)
    (hrest : NumberEnds rest) :
    number ((if negative then ['-'] else []) ++ (Nat.toDigits 10 n ++ rest)) =
      .ok (.int (if negative then -(n : Int) else n), rest) := by
  have hdigits : readDigits (Nat.toDigits 10 n) = .ok n := by
    rw [readDigits, if_neg (Nat.not_lt.2 hlimit), digitsNumber_toDigits]
  have hsolid : ∀ more, Nat.toDigits 10 n ++ rest ≠ '-' :: more := by
    intro more h
    obtain ⟨d, digits, htext⟩ := List.exists_cons_of_ne_nil (Nat.toDigits_ne_nil (n := n) (b := 10))
    have hd := isPlainDigit_toDigits n d (by simp [htext])
    rw [htext] at h
    exact absurd ((List.cons.inj h).1 ▸ hd) (by decide)
  unfold number
  split
  rename_i found body hsign
  obtain ⟨rfl, rfl⟩ : found = negative ∧ body = Nat.toDigits 10 n ++ rest := by
    cases negative with
    | true => simpa [eq_comm] using hsign
    | false =>
      split at hsign
      · rename_i more h
        exact absurd h (hsolid more)
      · simpa [eq_comm] using hsign
  simp only [wholeDigits?_toDigits n hrest]
  cases rest with
  | nil => simp [hdigits]
  | cons c rest =>
    obtain ⟨-, hpoint, hlower, hupper⟩ := hrest c rfl
    split
    · rename_i h
      exact absurd (List.cons.inj h).1 hpoint
    · simp [hlower, hupper, hdigits]

theorem length_toDigits_of_lt {n k : Nat} (hk : 0 < k) (h : n < Nat.pow 10 k) : (Nat.toDigits 10 n).length ≤ k :=
  (Nat.length_toDigits_le_iff (by decide) hk).2 h

theorem number_int {n : Int} {rest : List Char} (hlimit : inDigitLimit n = true) (hrest : NumberEnds rest) :
    number ((toString n).toList ++ rest) = .ok (.int n, rest) := by
  rw [inDigitLimit, decide_eq_true_eq] at hlimit
  have hwhole := number_whole (decide (n < 0)) (length_toDigits_of_lt (by decide) hlimit) hrest
  rw [intText_eq, List.append_assoc]
  simp only [decide_eq_true_eq] at hwhole
  rw [hwhole]
  split <;> congr 3 <;> omega

theorem ne_of_isPlainDigit {c d : Char} (hc : isPlainDigit c = true) (hd : isPlainDigit d = false) : c ≠ d := by
  rintro rfl
  simp [hc] at hd

/-- a written whole number starts with a digit or with a minus before one, so it is no word and opens nothing -/
theorem value_int (room fuel : Nat) {n : Int} {rest : List Char} (hlimit : inDigitLimit n = true)
    (hrest : NumberEnds rest) :
    value room (fuel + 1) ((toString n).toList ++ rest) = .ok (.int n, rest) := by
  obtain ⟨d, digits, hdigits⟩ := List.exists_cons_of_ne_nil (Nat.toDigits_ne_nil (n := n.natAbs) (b := 10))
  have hd := isPlainDigit_toDigits n.natAbs d (by simp [hdigits])
  have hnot : ∀ {c}, isPlainDigit c = false → d ≠ c := ne_of_isPlainDigit hd
  have hnumber := number_int hlimit hrest
  rw [intText_eq, hdigits] at hnumber ⊢
  by_cases hsign : n < 0
  · rw [if_pos hsign] at hnumber ⊢
    have hword : word? ('-' :: d :: (digits ++ rest)) = none := by
      have hinfinity : d ≠ 'I' := hnot (by decide)
      simp [word?, after?, Ne.symm hinfinity]
    have hvalue : value room (fuel + 1) ('-' :: d :: (digits ++ rest)) = number ('-' :: d :: (digits ++ rest)) := by
      rw [value, hword]
      all_goals simp
    exact hvalue.trans hnumber
  · rw [if_neg hsign] at hnumber ⊢
    have hword : word? (d :: (digits ++ rest)) = none := by
      have hwords : d ≠ 'n' ∧ d ≠ 't' ∧ d ≠ 'f' ∧ d ≠ 'N' ∧ d ≠ 'I' ∧ d ≠ '-' :=
        ⟨hnot (by decide), hnot (by decide), hnot (by decide), hnot (by decide), hnot (by decide), hnot (by decide)⟩
      simp [word?, after?, hwords, eq_comm]
    have hvalue : value room (fuel + 1) (d :: (digits ++ rest)) = number (d :: (digits ++ rest)) := by
      rw [value, hword]
      · simp
      · rintro more ⟨⟩
        exact absurd rfl (hnot (by decide))
      · rintro more ⟨⟩
        exact absurd rfl (hnot (by decide))
      · rintro more ⟨⟩
        exact absurd rfl (hnot (by decide))
    exact hvalue.trans hnumber

/-! ## Values read back -/

/-- a value with lists and objects in one another up to a depth, and without floating numbers; no whole number in it is
too long, and no object has a key twice -/
inductive Readable : Nat → Json → Prop
  | null {room : Nat} : Readable room .null
  | bool {room : Nat} (b : Bool) : Readable room (.bool b)
  | int {room : Nat} {n : Int} (hlimit : inDigitLimit n = true) : Readable room (.int n)
  | str {room : Nat} (s : String) : Readable room (.str s)
  | arr {room : Nat} {items : List Json} (hitems : ∀ item ∈ items, Readable room item) :
      Readable (room + 1) (.arr items)
  | obj {room : Nat} {fields : Fields} (once : fields.keys.Nodup) (hfields : ∀ field ∈ fields, Readable room field.2) :
      Readable (room + 1) (.obj fields)

theorem readable_obj_iff {room : Nat} {fields : Fields} :
    Readable (room + 1) (.obj fields) ↔ fields.keys.Nodup ∧ ∀ field ∈ fields, Readable room field.2 := by
  refine ⟨fun h => ?_, fun h => .obj h.1 h.2⟩
  cases h with
  | obj once hfields => exact ⟨once, hfields⟩

/-- the fields of a readable object have each key once, at every depth -/
theorem Readable.keyed {room : Nat} {v : Json} (h : Readable room v) : Keyed v := by
  induction h with
  | obj once _ ih =>
    rintro fields ⟨⟩
    exact .of once fun _ inner hkey => ih _ (Fields.mem_of_get? hkey) inner rfl
  | _ => exact keyed_of_plain rfl

/-- whether a value is read off every text that it is written at the start of -/
def ReadBack (room : Nat) (v : Json) : Prop :=
  ∀ (layout : Layout) (rest : List Char) (fuel : Nat), NumberEnds rest → 2 * (write layout v).length ≤ fuel →
    value room fuel (write layout v ++ rest) = .ok (v, rest)

section Gaps

variable {gap text : List Char} {c : Char}

theorem afterGap_gap (hgap : ∀ c ∈ gap, isGap c = true) (text : List Char) : afterGap (gap ++ text) = afterGap text := by
  rw [afterGap, afterGap, List.dropWhile_append_of_pos hgap]

theorem afterGap_solid (hc : isGap c = false) (text : List Char) : afterGap (c :: text) = c :: text := by
  rw [afterGap, List.dropWhile_cons_of_neg (by simp [hc])]

theorem Layout.before_gap (layout : Layout) : ∀ c ∈ layout.before, isGap c = true := by
  cases layout with
  | line => simp [Layout.before]
  | block depth =>
    intro c hc
    rcases List.mem_cons.1 hc with rfl | hc
    · rfl
    · rw [List.eq_of_mem_replicate hc]
      rfl

/-- a comma and a gap -/
theorem Layout.exists_between (layout : Layout) : ∃ gap, (∀ c ∈ gap, isGap c = true) ∧ layout.between = ',' :: gap := by
  cases layout with
  | line => exact ⟨[' '], List.all_eq_true.1 rfl, rfl⟩
  | block depth => exact ⟨_, (Layout.block depth).before_gap, rfl⟩

theorem NumberEnds.comma : NumberEnds (',' :: text) := by
  rintro c ⟨⟩
  decide

theorem NumberEnds.closing (outer : Layout) {mark : Char} (hmark : mark = ']' ∨ mark = '\x7d') :
    NumberEnds (outer.before ++ mark :: text) := by
  cases outer with
  | line => rcases hmark with rfl | rfl <;> (rintro c ⟨⟩; decide)
  | block depth => rintro c ⟨⟩; decide

end Gaps

/-- what starts a written value is no gap, nor the end of a list, nor a mark of byte order -/
theorem write_head {room : Nat} {v : Json} (layout : Layout) (h : Readable room v) :
    ∃ c more, write layout v = c :: more ∧ isGap c = false ∧ c ≠ ']' ∧ c ≠ '\uFEFF' := by
  cases h with
  | null => exact ⟨_, _, rfl, rfl, by decide, by decide⟩
  | bool b => cases b <;> exact ⟨_, _, rfl, rfl, by decide, by decide⟩
  | @int _ n _ =>
    rw [write, intText_eq]
    split
    · exact ⟨_, _, rfl, rfl, by decide, by decide⟩
    · obtain ⟨d, digits, hdigits⟩ := List.exists_cons_of_ne_nil (Nat.toDigits_ne_nil (n := n.natAbs) (b := 10))
      have hd := isPlainDigit_toDigits n.natAbs d (by simp [hdigits])
      have hnot : ∀ {c}, isPlainDigit c = false → d ≠ c := ne_of_isPlainDigit hd
      have hgaps : d ≠ ' ' ∧ d ≠ '\t' ∧ d ≠ '\n' ∧ d ≠ '\r' :=
        ⟨hnot (by decide), hnot (by decide), hnot (by decide), hnot (by decide)⟩
      exact ⟨d, digits, hdigits, by simp [isGap, hgaps], hnot (by decide), hnot (by decide)⟩
  | str s => exact ⟨_, _, rfl, rfl, by decide, by decide⟩
  | @arr _ items _ => cases items <;> exact ⟨_, _, rfl, rfl, by decide, by decide⟩
  | @obj _ fields _ _ => cases fields <;> exact ⟨_, _, rfl, rfl, by decide, by decide⟩

theorem stringRest_text (opening : List Char) {fuel : Nat} (s : String) (rest : List Char)
    (hfuel : s.toList.length < fuel) :
    stringRest opening fuel [] (s.toList.flatMap escaped ++ '"' :: rest) = .ok (s, rest) := by
  rw [stringRest_literal opening _ _ _ _ hfuel]
  simp

theorem Escapes.length_pos {c : Char} {text : List Char} (h : Escapes c text) : 0 < text.length := by
  cases h <;> simp [codeUnit]

theorem length_literal (s : String) : s.toList.length + 2 ≤ (literal s).length := by
  have hflat : s.toList.length ≤ (s.toList.flatMap escaped).length := by
    induction s.toList with
    | nil => rfl
    | cons c text ih =>
      have hc := (escapes_escaped c).length_pos
      simp only [List.flatMap_cons, List.length_append, List.length_cons]
      omega
  simp only [literal, List.length_cons, List.length_append, List.length_nil]
  omega

theorem value_literal (room fuel : Nat) (s : String) {rest : List Char} (hfuel : (literal s).length ≤ fuel) :
    value room (fuel + 1) (literal s ++ rest) = .ok (.str s, rest) := by
  have hlength := length_literal s
  have htext : literal s ++ rest = '"' :: (s.toList.flatMap escaped ++ '"' :: rest) := by simp [literal]
  rw [htext, value, stringRest_text _ _ _ (by omega)]
  rfl

section Inside

variable {room fuel : Nat} {outer inner : Layout} {item v : Json} {others : List Json} {key : String} {fields : Fields}
  {tail text more rest : List Char} {c : Char}

theorem afterGap_write (layout : Layout) (h : Readable room v) (rest : List Char) :
    afterGap (write layout v ++ rest) = write layout v ++ rest := by
  obtain ⟨c, more, htext, hc, -, -⟩ := write_head layout h
  rw [htext, List.cons_append, afterGap_solid hc]

theorem length_write_pos (layout : Layout) (h : Readable room v) : 0 < (write layout v).length := by
  obtain ⟨c, more, htext, -, -, -⟩ := write_head layout h
  simp [htext]

/-! ### Lists -/

/-- the further items of a list, its end, and what stands behind it -/
def listEnd (outer inner : Layout) (items : List Json) (rest : List Char) : List Char :=
  writeItems inner items ++ (outer.before ++ ']' :: rest)

theorem listEnd_cons {gap : List Char} (hbetween : inner.between = ',' :: gap) :
    listEnd outer inner (item :: others) rest = ',' :: (gap ++ (write inner item ++ listEnd outer inner others rest)) := by
  simp [listEnd, writeItems, hbetween]

theorem items_write (hread : ∀ other ∈ item :: others, Readable room other ∧ ReadBack room other)
    (hfuel : 2 * (write inner item ++ writeItems inner others).length < fuel) :
    items room fuel (write inner item ++ listEnd outer inner others rest) = .ok (item :: others, rest) := by
  induction others generalizing item fuel with
  | nil =>
    obtain _ | fuel := fuel
    · simp at hfuel
    · simp only [writeItems, List.append_nil] at hfuel
      have hitem := (hread item (by simp)).2 inner (outer.before ++ ']' :: rest) fuel (.closing outer (.inl rfl)) (by omega)
      rw [listEnd, writeItems, List.nil_append, items, hitem]
      simp only [bind, Except.bind, afterGap_gap outer.before_gap, afterGap_solid (show isGap ']' = false by decide)]
      rfl
  | cons other others ih =>
    obtain _ | fuel := fuel
    · simp at hfuel
    · obtain ⟨gap, hgap, hbetween⟩ := inner.exists_between
      obtain ⟨hitem, hothers⟩ := List.forall_mem_cons.1 hread
      simp only [writeItems, hbetween, List.length_append, List.length_cons] at hfuel
      have hlength : 2 * (write inner other ++ writeItems inner others).length < fuel := by
        simp only [List.length_append]
        omega
      have hother := afterGap_write inner (hothers other (by simp)).1 (listEnd outer inner others rest)
      rw [listEnd_cons hbetween, items, hitem.2 inner _ fuel .comma (by omega)]
      simp only [bind, Except.bind, afterGap_solid (show isGap ',' = false by decide), afterGap_gap hgap, hother,
        ih hothers hlength]
      rfl

/-- a bracket opens a list, unless it is closed at once -/
theorem list_opens (hfirst : afterGap text = c :: more) (hc : c ≠ ']') :
    value (room + 1) (fuel + 1) ('[' :: text) = (do
      let (items, rest) ← items room fuel (afterGap text)
      return (.arr items, rest)) := by
  rw [value.eq_def]
  simp only [hfirst]
  split
  · contradiction
  · rename_i h _
    exact absurd (List.cons.inj h).1 hc
  · rename_i heq _
    cases heq
    rfl

/-! ### Objects -/

/-- the further fields of an object, its end, and what stands behind it -/
def objectEnd (outer inner : Layout) (fields : Fields) (rest : List Char) : List Char :=
  writeFields inner fields ++ (outer.before ++ '\x7d' :: rest)

theorem objectEnd_cons {gap : List Char} (hbetween : inner.between = ',' :: gap) :
    objectEnd outer inner ((key, v) :: fields) rest =
      ',' :: (gap ++ (literal key ++ ':' :: ' ' :: (write inner v ++ objectEnd outer inner fields rest))) := by
  simp [objectEnd, writeFields, hbetween]

theorem afterGap_literal (s : String) (rest : List Char) : afterGap (literal s ++ rest) = literal s ++ rest :=
  afterGap_solid (by decide) _

/-- a key and its value are read; what comes then decides how it goes on -/
theorem pairs_step (hv : Readable room v ∧ ReadBack room v) (htail : NumberEnds tail)
    (hkey : (literal key).length ≤ fuel) (hfuel : 2 * (write inner v).length ≤ fuel) :
    pairs room (fuel + 1) (literal key ++ ':' :: ' ' :: (write inner v ++ tail)) =
      match afterGap tail with
      | '\x7d' :: after => .ok ([(key, v)], after)
      | ',' :: more => do
        let (others, rest) ← pairs room fuel (afterGap more)
        return ((key, v) :: others, rest)
      | other => flawBefore .comma other := by
  have hlength := length_literal key
  have hopen : ∀ text, literal key ++ text = '"' :: (key.toList.flatMap escaped ++ '"' :: text) := by simp [literal]
  have hname : ∀ opening text,
      stringRest opening fuel [] (key.toList.flatMap escaped ++ '"' :: text) = .ok (key, text) :=
    fun opening text => stringRest_text opening key text (by omega)
  have hspace : afterGap (' ' :: (write inner v ++ tail)) = write inner v ++ tail := by
    rw [← List.singleton_append, afterGap_gap (List.all_eq_true.1 rfl), afterGap_write inner hv.1]
  rw [hopen, pairs]
  simp only [hname, bind, Except.bind, afterGap_solid (show isGap ':' = false by decide), hspace,
    hv.2 inner tail fuel htail hfuel]
  rfl

theorem pairs_write (hread : ∀ field ∈ (key, v) :: fields, Readable room field.2 ∧ ReadBack room field.2)
    (hfuel : 2 * (literal key ++ write inner v ++ writeFields inner fields).length < fuel) :
    pairs room fuel (literal key ++ ':' :: ' ' :: (write inner v ++ objectEnd outer inner fields rest)) =
      .ok ((key, v) :: fields, rest) := by
  have hv : Readable room v ∧ ReadBack room v := hread (key, v) (by simp)
  induction fields generalizing key v fuel with
  | nil =>
    obtain _ | fuel := fuel
    · simp at hfuel
    · simp only [writeFields, List.append_nil, List.length_append] at hfuel
      rw [objectEnd, writeFields, List.nil_append, pairs_step hv (.closing outer (.inr rfl))
        (by omega) (by omega), afterGap_gap outer.before_gap, afterGap_solid (by decide)]
      rfl
  | cons field fields ih =>
    obtain _ | fuel := fuel
    · simp at hfuel
    · obtain ⟨next, value⟩ := field
      obtain ⟨gap, hgap, hbetween⟩ := inner.exists_between
      have hothers := (List.forall_mem_cons.1 hread).2
      simp only [writeFields, hbetween, List.length_append, List.length_cons] at hfuel
      have hlength : 2 * (literal next ++ write inner value ++ writeFields inner fields).length < fuel := by
        simp only [List.length_append]
        omega
      rw [objectEnd_cons hbetween, pairs_step hv .comma (by omega) (by omega),
        afterGap_solid (by decide)]
      simp only [afterGap_gap hgap, afterGap_literal, ih hothers hlength (hothers (next, value) (by simp))]
      rfl

/-- a brace opens an object, unless it is closed at once -/
theorem object_opens (hfirst : afterGap text = c :: more) (hc : c ≠ '\x7d') :
    value (room + 1) (fuel + 1) ('\x7b' :: text) = (do
      let (pairs, rest) ← pairs room fuel (afterGap text)
      return (.obj (Fields.ofPairs pairs), rest)) := by
  rw [value.eq_def]
  simp only [hfirst]
  split
  · contradiction
  · rename_i h _
    exact absurd (List.cons.inj h).1 hc
  · rename_i heq _
    cases heq
    rfl

/-! ### All values -/

theorem list_write (hitems : ∀ item ∈ others, Readable room item ∧ ReadBack room item) :
    ReadBack (room + 1) (.arr others) := by
  intro layout rest fuel _ hfuel
  obtain _ | fuel := fuel
  · cases others <;> simp [write] at hfuel
  · cases others with
    | nil => rfl
    | cons item others =>
      have hitem := (hitems item (by simp)).1
      have htext : write layout (.arr (item :: others)) ++ rest =
          '[' :: (layout.deeper.before ++ (write layout.deeper item ++ listEnd layout layout.deeper others rest)) := by
        simp [write, listEnd]
      have hgap := (afterGap_gap layout.deeper.before_gap _).trans
        (afterGap_write layout.deeper hitem (listEnd layout layout.deeper others rest))
      have hlength : 2 * (write layout.deeper item ++ writeItems layout.deeper others).length < fuel := by
        simp only [write, List.length_append, List.length_cons] at hfuel ⊢
        omega
      obtain ⟨c, more, hhead, -, hc, -⟩ := write_head layout.deeper hitem
      rw [htext, list_opens (hgap.trans (by rw [hhead]; rfl)) hc, hgap, items_write hitems hlength]
      rfl

theorem object_write (once : fields.keys.Nodup) (hfields : ∀ field ∈ fields, Readable room field.2 ∧ ReadBack room field.2) :
    ReadBack (room + 1) (.obj fields) := by
  intro layout rest fuel _ hfuel
  obtain _ | fuel := fuel
  · cases fields <;> simp [write] at hfuel
  · cases fields with
    | nil => rfl
    | cons field fields =>
      obtain ⟨key, v⟩ := field
      have htext : write layout (.obj ((key, v) :: fields)) ++ rest = '\x7b' :: (layout.deeper.before ++
          (literal key ++ ':' :: ' ' :: (write layout.deeper v ++ objectEnd layout layout.deeper fields rest))) := by
        simp [write, objectEnd]
      have hgap := (afterGap_gap layout.deeper.before_gap _).trans
        (afterGap_literal key (':' :: ' ' :: (write layout.deeper v ++ objectEnd layout layout.deeper fields rest)))
      have hlength : 2 * (literal key ++ write layout.deeper v ++ writeFields layout.deeper fields).length < fuel := by
        simp only [write, List.length_append, List.length_cons] at hfuel ⊢
        omega
      rw [htext, object_opens (c := '"') hgap (by decide), hgap, pairs_write hfields hlength]
      simp only [bind, Except.bind, pure, Except.pure, Fields.ofPairs_eq once]

/-- whatever is readable is read back -/
theorem value_write (h : Readable room v) : ReadBack room v := by
  induction h with
  | null =>
    intro layout rest fuel _ hfuel
    obtain _ | fuel := fuel
    · simp [write] at hfuel
    · rfl
  | bool b =>
    intro layout rest fuel _ hfuel
    obtain _ | fuel := fuel
    · cases b <;> simp [write] at hfuel
    · cases b <;> rfl
  | int hlimit =>
    intro layout rest fuel hrest hfuel
    have hlength := length_write_pos layout (.int hlimit : Readable 0 _)
    obtain _ | fuel := fuel
    · omega
    · rw [write]
      exact value_int _ _ hlimit hrest
  | str s =>
    intro layout rest fuel _ hfuel
    have hlength := length_literal s
    rw [write] at hfuel ⊢
    obtain _ | fuel := fuel
    · omega
    · exact value_literal _ _ s (by omega)
  | arr hitems ih => exact list_write fun item hitem => ⟨hitems item hitem, ih item hitem⟩
  | obj once hfields ih => exact object_write once fun field hfield => ⟨hfields field hfield, ih field hfield⟩

end Inside

/-- a readable value, laid out over lines or on one, is read as itself -/
theorem read_write {v : Json} (layout : Layout) (h : Readable depthLimit v) : read (write layout v) = .ok v := by
  have hv := value_write h layout [] (2 * (write layout v).length + 2) (by simp [NumberEnds]) (by omega)
  have hgap := afterGap_write layout h []
  rw [List.append_nil] at hv hgap
  unfold read
  split
  · rename_i hmark
    obtain ⟨c, more, hhead, -, -, hc⟩ := write_head layout h
    exact absurd (List.cons.inj (hhead.symm.trans hmark)).1 hc
  · simp only [hgap, hv, bind, Except.bind]
    rfl

end SketchPanel.Json

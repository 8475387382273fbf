/-
Digits of written numbers. A number is written in plain digits, without a nought in front unless it is nought, and its
digits spell it wherever digits of any script are read.

Results:
- `digitsNumber_toDigits`: written digits spell the number that they were written for.
- `unsignedDecimal?_digits`: digits alone are read as the floating number nearest to theirs.
- `head_toDigits`: no number but nought starts with a nought.
- `intText_eq`: a whole number is its digits, with a sign perhaps.
-/
import Mathlib.Data.List.TakeWhile
import Mathlib.Tactic
import SketchPanel.Number.Numeral

namespace SketchPanel.Number

open Text

theorem digitValue_plain {c : Char} (h : c.isDigit = true) : digitValue c = some (c.toNat - 48) := by
  have hbounds : 48 ≤ c.toNat ∧ c.toNat ≤ 57 := by
    simpa [Char.isDigit, UInt32.le_iff_toNat_le] using h
  rw [digitValue, zeros, digitAmong, if_neg (by omega), if_pos (by omega)]

theorem isDigit_plain {c : Char} (h : c.isDigit = true) : isDigit c = true := by
  rw [Text.isDigit, digitValue_plain h]
  rfl

theorem plain_toDigits {n : Nat} : ∀ d ∈ Nat.toDigits 10 n, d.isDigit = true := fun _ hd =>
  Nat.isDigit_of_mem_toDigits (by decide) (by decide) hd

/-- written digits spell the number that they were written for -/
theorem digitsNumber_toDigits (n : Nat) : digitsNumber (Nat.toDigits 10 n) = n := by
  have hfold : ∀ (digits : List Char) (start : Nat), (∀ d ∈ digits, d.isDigit = true) →
      digits.foldl (fun n c => n * 10 + (digitValue c).getD 0) start = Nat.ofDigitChars 10 digits start := by
    intro digits
    induction digits with
    | nil => exact fun _ _ => rfl
    | cons d digits ih =>
      intro start hdigits
      obtain ⟨hd, hdigits⟩ := List.forall_mem_cons.1 hdigits
      rw [List.foldl_cons, digitValue_plain hd, ih _ hdigits, Option.getD_some, Nat.mul_comm]
      rfl
  rw [digitsNumber, hfold _ _ plain_toDigits, Nat.ofDigitChars_ten_toDigits]

theorem isDigit_digitChar {d : Nat} (hd : d < 10) : isDigit (Nat.digitChar d) = true := by
  have hplain : ∀ d < 10, (Nat.digitChar d).isDigit = true := by decide
  exact isDigit_plain (hplain d hd)

/-- one digit more spells ten times the number and the digit -/
theorem digitsNumber_snoc (digits : List Char) {d : Nat} (hd : d < 10) :
    digitsNumber (digits ++ [Nat.digitChar d]) = digitsNumber digits * 10 + d := by
  have hplain : ∀ d < 10, (Nat.digitChar d).isDigit = true ∧ (Nat.digitChar d).toNat - 48 = d := by decide
  obtain ⟨hdigit, hvalue⟩ := hplain d hd
  rw [digitsNumber, List.foldl_append, List.foldl_cons, List.foldl_nil, digitValue_plain hdigit, hvalue]
  rfl

/-- what starts with a digit has no sign -/
theorem sign_of_isDigit {text : List Char} (h : ∀ c ∈ text.head?, isDigit c = true) : sign text = (false, text) := by
  unfold sign
  split
  · exact absurd (h '-' rfl) (by decide)
  · exact absurd (h '+' rfl) (by decide)
  · rfl

/-- no number but nought is written with a nought in front -/
theorem head_toDigits {n : Nat} (h : 0 < n) : ∀ d ∈ (Nat.toDigits 10 n).head?, d ≠ '0' := by
  induction n using Nat.strongRecOn with
  | ind n ih =>
    by_cases hsmall : n < 10
    · rw [Nat.toDigits_of_lt_base hsmall]
      have hdigit : ∀ k < 10, 0 < k → Nat.digitChar k ≠ '0' := by decide
      rintro d ⟨⟩
      exact hdigit n hsmall h
    · have hten : 10 ≤ n := Nat.le_of_not_lt hsmall
      rw [Nat.toDigits_of_base_le (by decide) hten, List.head?_append_of_ne_nil _ Nat.toDigits_ne_nil]
      exact ih (n / 10) (Nat.div_lt_self h (by decide)) (Nat.div_pos hten (by decide))

theorem toDigits_no_return (n : Nat) : '\r' ∉ Nat.toDigits 10 n := fun h => absurd (plain_toDigits _ h) (by decide)

/-- a whole number is written in digits, with a sign if it is below nought -/
theorem intText_eq (n : Int) :
    (toString n).toList = (if n < 0 then ['-'] else []) ++ Nat.toDigits 10 n.natAbs := by
  cases n with
  | ofNat n =>
    have h : toString (Int.ofNat n) = Nat.repr n := rfl
    have hsign : ¬ Int.ofNat n < 0 := Int.not_lt.2 (Int.zero_le_ofNat n)
    rw [h, Nat.toList_repr, if_neg hsign]
    rfl
  | negSucc n =>
    have h : toString (Int.negSucc n) = "-" ++ Nat.repr (n + 1) := rfl
    rw [h, String.toList_append, Nat.toList_repr, if_pos (Int.negSucc_lt_zero n)]
    rfl

/-- digits and nothing else are read as the floating number nearest to theirs -/
theorem unsignedDecimal?_digits (negative : Bool) {digits : List Char} (hne : digits ≠ [])
    (hdigits : ∀ d ∈ digits, isDigit d = true) :
    unsignedDecimal? negative digits = some (nearest negative (digitsNumber digits) 1) := by
  have htake : digits.takeWhile isDigit = digits := List.takeWhile_eq_self_iff.2 hdigits
  have hdrop : digits.dropWhile isDigit = [] := List.dropWhile_eq_nil_iff.2 hdigits
  have hplace : ¬ (digits.length : Int) < -400 := by omega
  unfold unsignedDecimal?
  simp only [htake, hdrop, hne, false_and, if_false]
  by_cases hzero : digitsNumber digits = 0
  · simp [hzero]
  · simp [hzero, hplace]

end SketchPanel.Number

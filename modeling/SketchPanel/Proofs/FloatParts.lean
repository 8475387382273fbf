/-
Floating numbers and their parts. The bits of a number that is not the undefined one are kept by the number made of them,
so what is put together from a mantissa and a power of two comes apart into these again. A whole number of at most 53
binary digits fits into a mantissa as it stands, whatever its sign: the floating number nearest to it is that number.

Results:
- `toBits_ofBits`: bits are kept unless they are of the undefined number.
- `parts_signed`: mantissa and exponent come apart as they were put together.
- `nearest?_whole`: the parts of the number nearest to a whole number of at most 53 binary digits.
- `ofWhole?_same`: that number compares the same as the whole one.
-/
import Mathlib
import SketchPanel.Number.Scalar

namespace SketchPanel.Number

/-! ## Bits -/

open Float.Model Float.Model.UnpackedFloat in
/-- bits are kept, unless they are of the undefined number -/
theorem toBits_ofBits {bits : UInt64} (h : bits.toNat / 2 ^ 52 % 2 ^ 11 ≠ 2047) : (Float.ofBits bits).toBits = bits := by
  have hdefined : @isNaNBits Format.binary64 bits.toBitVec = false := by
    rw [isNaNBits, decide_eq_false_iff_not]
    rintro ⟨hexponent, -⟩
    have hvalue := congrArg BitVec.toNat hexponent
    rw [unpackExponent_def, BitVec.extractLsb'_toNat, Nat.shiftRight_eq_div_pow] at hvalue
    exact h hvalue
  have hpacked := @pack_unpack Format.binary64 bits.toBitVec (by decide)
  rw [hdefined] at hpacked
  exact UInt64.toBitVec_inj.1 hpacked

/-- the bits of a magnitude with its sign -/
def signedBits (negative : Bool) (bits : Nat) : Nat := if negative then bits + Nat.pow 2 63 else bits

/-- what finite bits come apart into -/
theorem parts_signed (negative : Bool) {biased fraction : Nat} (hbiased : biased < 2047) (hfraction : fraction < 2 ^ 52) :
    parts (Float.ofBits (UInt64.ofNat (signedBits negative (biased * 2 ^ 52 + fraction)))) =
      if biased = 0 then .finite negative fraction (-1074)
      else .finite negative (fraction + 2 ^ 52) ((biased : Int) - 1075) := by
  have hfit : signedBits negative (biased * 2 ^ 52 + fraction) < 2 ^ 64 := by
    cases negative <;> simp [signedBits] <;> omega
  have hsign : decide (Nat.pow 2 63 ≤ signedBits negative (biased * 2 ^ 52 + fraction)) = negative := by
    cases negative <;> simp [signedBits]; omega
  have hexponent : signedBits negative (biased * 2 ^ 52 + fraction) / 2 ^ 52 % 2 ^ 11 = biased := by
    cases negative <;> simp [signedBits] <;> omega
  have hmantissa : signedBits negative (biased * 2 ^ 52 + fraction) % 2 ^ 52 = fraction := by
    cases negative <;> simp [signedBits] <;> omega
  have hvalue := UInt64.toNat_ofNat_of_lt' hfit
  have hbits := toBits_ofBits (show _ / 2 ^ 52 % 2 ^ 11 ≠ 2047 by rw [hvalue, hexponent]; omega)
  simp only [parts, hbits, hvalue, hsign]
  rw [show _ / Nat.pow 2 52 % Nat.pow 2 11 = biased from hexponent, show _ % Nat.pow 2 52 = fraction from hmantissa,
    if_neg (by omega)]
  rfl

/-! ## Whole numbers -/

theorem roundHalfEven_one (n : Nat) : roundHalfEven n 1 = n := by
  simp [roundHalfEven, Nat.mod_one]

theorem quantum_whole {n : Nat} (hn : n ≠ 0) : quantum n 1 = max (-1074) ((n.log2 : Int) - 52) := by
  have hone : Nat.log2 1 = 0 := by decide
  have hself : ¬ n < 2 ^ n.log2 := Nat.not_lt.2 (Nat.log2_self_le hn)
  simp [quantum, hone, hself]

/-- what is put together from a quantum and a mantissa with all its digits comes apart again -/
theorem parts_quanta (negative : Bool) {mantissa : Nat} {exponent : Int} (hlow : 2 ^ 52 ≤ mantissa)
    (hhigh : mantissa < 2 ^ 53) (hsmall : -1074 ≤ exponent) (hlarge : exponent ≤ 971) :
    parts (Float.ofBits (UInt64.ofNat (signedBits negative ((exponent + 1074).toNat * 2 ^ 52 + mantissa)))) =
      .finite negative mantissa exponent := by
  have hbits : (exponent + 1074).toNat * 2 ^ 52 + mantissa = (exponent + 1075).toNat * 2 ^ 52 + (mantissa - 2 ^ 52) := by
    omega
  rw [hbits, parts_signed negative (by omega) (by omega), if_neg (by omega), Nat.sub_add_cancel hlow,
    Int.toNat_of_nonneg (by omega), Int.add_sub_cancel]

/-- the number nearest to a whole one, if its mantissa has all its digits -/
theorem nearest?_quanta (negative : Bool) {n mantissa : Nat} {exponent : Int} (hn : n ≠ 0)
    (hquantum : quantum n 1 = exponent) (hlarge : exponent ≤ 971) (hhigh : mantissa < 2 ^ 53)
    (hround : (if 0 ≤ exponent then roundHalfEven n (1 * Nat.pow 2 exponent.toNat)
      else roundHalfEven (n * Nat.pow 2 (-exponent).toNat) 1) = mantissa) :
    nearest? negative n 1 =
      some (Float.ofBits (UInt64.ofNat (signedBits negative ((exponent + 1074).toNat * 2 ^ 52 + mantissa)))) := by
  have hfinite : (exponent + 1074).toNat * Nat.pow 2 52 + mantissa < 2047 * Nat.pow 2 52 := by
    simp only [Nat.pow_eq]
    omega
  simp only [nearest?, if_neg hn, hquantum, hround, if_pos hfinite]
  rfl

/-- the parts of the floating number nearest to a whole number of at most 53 binary digits make up that number -/
theorem nearest?_whole (negative : Bool) {n : Nat} (hn : n ≤ 2 ^ 53) :
    ∃ x mantissa exponent, nearest? negative n 1 = some x ∧ parts x = .finite negative mantissa exponent ∧
      (scaled mantissa exponent).1 = n * (scaled mantissa exponent).2 := by
  rcases eq_or_ne n 0 with rfl | hpos
  · have hzero := parts_signed negative (show 0 < 2047 by decide) (show 0 < 2 ^ 52 by decide)
    refine ⟨_, 0, -1074, rfl, hzero, ?_⟩
    rw [scaled, if_neg (by decide), Nat.zero_mul]
  have hself := Nat.log2_self_le hpos
  have hless := @Nat.lt_log2_self n
  have hquantum := quantum_whole hpos
  rcases Nat.lt_or_ge n.log2 53 with hsmall | hlarge
  · -- all digits fit, with noughts behind them
    obtain ⟨more, hmore⟩ : ∃ more, n.log2 + more = 52 := ⟨52 - n.log2, by omega⟩
    have hexponent : quantum n 1 = -(more : Int) := by omega
    have hlow : 2 ^ 52 ≤ n * 2 ^ more := by
      rw [← hmore, pow_add]
      exact Nat.mul_le_mul_right _ hself
    have hhigh : n * 2 ^ more < 2 ^ 53 := by
      rw [show 53 = n.log2 + 1 + more by omega, pow_add]
      exact Nat.mul_lt_mul_of_pos_right hless (by positivity)
    refine ⟨_, n * 2 ^ more, -(more : Int), nearest?_quanta negative hpos hexponent (by omega) hhigh ?_,
      parts_quanta negative hlow hhigh (by omega) (by omega), ?_⟩
    · rcases Nat.eq_zero_or_pos more with rfl | hmany
      · simp [roundHalfEven_one]
      · rw [if_neg (by omega), roundHalfEven_one, neg_neg, Int.toNat_natCast, Nat.pow_eq]
    · rcases Nat.eq_zero_or_pos more with rfl | hmany
      · simp [scaled]
      · rw [scaled, if_neg (by omega), neg_neg, Int.toNat_natCast, Nat.pow_eq]
  · -- only the power of two itself is left, whose last digit is a nought
    obtain rfl : n = 2 ^ 53 := by
      have hpow : 2 ^ 53 ≤ 2 ^ n.log2 := Nat.pow_le_pow_right (by decide) hlarge
      omega
    have hexponent : quantum (2 ^ 53) 1 = 1 := by
      rw [hquantum, Nat.log2_two_pow]
      rfl
    exact ⟨_, 2 ^ 52, 1, nearest?_quanta negative hpos hexponent (by decide) (by decide) (by decide),
      parts_quanta negative (by decide) (by decide) (by decide) (by decide), by decide⟩

/-- a whole number of at most 53 binary digits and the floating number nearest to it compare the same -/
theorem ofWhole?_same {n : Int} (hn : n.natAbs ≤ 2 ^ 53) :
    ∃ x, ofWhole? n = some x ∧ (Scalar.real x).same (.whole n) = true := by
  obtain ⟨x, mantissa, exponent, hx, hparts, hvalue⟩ := nearest?_whole (decide (n < 0)) hn
  refine ⟨x, hx, ?_⟩
  have hcompare : Scalar.compareParts (decide (n < 0)) mantissa exponent n = Ordering.eq := by
    simp only [Scalar.compareParts, hvalue]
    rw [Int.compare_eq_eq]
    rcases lt_or_ge n 0 with hneg | hpos
    · rw [decide_eq_true hneg, if_pos rfl, Nat.cast_mul, Int.ofNat_natAbs_of_nonpos hneg.le, neg_mul, neg_neg]
    · rw [decide_eq_false (not_lt.2 hpos), if_neg Bool.false_ne_true, Nat.cast_mul, Int.natAbs_of_nonneg hpos]
  simp only [Scalar.same, Scalar.order, Scalar.compareWhole, hparts, hcompare, beq_self_eq_true]

end SketchPanel.Number

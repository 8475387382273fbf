/-
Edges in registers. A painted rectangle has its edges rounded to twenty-four leading bits and cut to thirty-two.
Rounding keeps the order of numbers and leaves those of twenty-four bits alone; so on an image of such a size it does
not show.

Results:
- `leadingBits_mono`, `leadingBits_small`: rounding keeps the order, and small numbers stay.
- `leadingBits_le_iff`, `le_leadingBits_iff`: a rounded number is on the same side of a small one as before.
- `fills_of_bounds`: painting inks the closed box on an image of at most 2 ^ 24 pixels each way, wherever the edges are
  within 2 ^ 30.
-/
import Mathlib.Tactic
import SketchPanel.Surface.Raster

namespace SketchPanel.Number

/-! ## Rounding -/

theorem roundHalfEven_bounds (num den : Nat) :
    num / den ≤ roundHalfEven num den ∧ roundHalfEven num den ≤ num / den + 1 := by
  simp only [roundHalfEven]
  split_ifs <;> omega

theorem roundHalfEven_mono {a b : Nat} (h : a ≤ b) (den : Nat) : roundHalfEven a den ≤ roundHalfEven b den := by
  have hquotient : a / den ≤ b / den := Nat.div_le_div_right h
  by_cases hsame : a / den = b / den
  · -- the same quotient: the greater remainder is rounded up if the smaller is
    have hremainder : a % den ≤ b % den := by
      have ha := Nat.div_add_mod a den
      have hb := Nat.div_add_mod b den
      rw [hsame] at ha
      omega
    simp only [roundHalfEven, hsame]
    split_ifs <;> omega
  · have ha := (roundHalfEven_bounds a den).2
    have hb := (roundHalfEven_bounds b den).1
    omega

/-- the nearest number that has no more than twenty-four leading bits -/
def leading (n : Nat) : Nat := roundHalfEven n (2 ^ (n.log2 - 23)) * 2 ^ (n.log2 - 23)

theorem leading_small {n : Nat} (h : n ≤ 2 ^ 24) : leading n = n := by
  rcases h.lt_or_eq with hlt | rfl
  · have hlog : n.log2 - 23 = 0 := by
      rcases Nat.eq_zero_or_pos n with rfl | hpos
      · rfl
      · have := (Nat.log2_lt hpos.ne').mpr hlt
        omega
    simp [leading, hlog, roundHalfEven, Nat.mod_one]
  · decide +kernel

/-- a number stays between the powers of two on either side -/
theorem leading_bounds {n : Nat} (h : 2 ^ 23 ≤ n) : 2 ^ n.log2 ≤ leading n ∧ leading n ≤ 2 ^ (n.log2 + 1) := by
  have hpos : n ≠ 0 := by omega
  have hlog : 23 ≤ n.log2 := (Nat.le_log2 hpos).mpr h
  have hlow : 2 ^ n.log2 = 2 ^ 23 * 2 ^ (n.log2 - 23) := by rw [← pow_add]; congr 1; omega
  have hhigh : 2 ^ (n.log2 + 1) = 2 ^ 24 * 2 ^ (n.log2 - 23) := by rw [← pow_add]; congr 1; omega
  have hunit : 0 < 2 ^ (n.log2 - 23) := by positivity
  have hle : 2 ^ n.log2 ≤ n := Nat.log2_self_le hpos
  have hlt : n < 2 ^ (n.log2 + 1) := Nat.lt_log2_self
  rw [hlow] at hle
  rw [hhigh] at hlt
  obtain ⟨hdown, hup⟩ := roundHalfEven_bounds n (2 ^ (n.log2 - 23))
  have hq : 2 ^ 23 ≤ n / 2 ^ (n.log2 - 23) := (Nat.le_div_iff_mul_le hunit).mpr hle
  have hq' : n / 2 ^ (n.log2 - 23) < 2 ^ 24 := (Nat.div_lt_iff_lt_mul hunit).mpr hlt
  rw [hlow, hhigh]
  exact ⟨Nat.mul_le_mul_right _ (hq.trans hdown), Nat.mul_le_mul_right _ (hup.trans hq')⟩

theorem leading_mono {a b : Nat} (h : a ≤ b) : leading a ≤ leading b := by
  rcases le_or_gt b (2 ^ 23) with hsmall | hlarge
  · rw [leading_small (h.trans (hsmall.trans (by norm_num))), leading_small (hsmall.trans (by norm_num))]
    exact h
  · rcases le_or_gt (2 ^ 23) a with ha | ha
    · have hlog : a.log2 ≤ b.log2 := (Nat.le_log2 (by omega)).mpr ((Nat.log2_self_le (by omega)).trans h)
      rcases hlog.eq_or_lt with heq | hlt
      · rw [leading, leading, heq]
        exact Nat.mul_le_mul_right _ (roundHalfEven_mono h _)
      · -- a power of two lies between the two
        calc leading a ≤ 2 ^ (a.log2 + 1) := (leading_bounds ha).2
          _ ≤ 2 ^ b.log2 := Nat.pow_le_pow_right (by decide) hlt
          _ ≤ leading b := (leading_bounds hlarge.le).1
    · have hlog : 23 ≤ b.log2 := (Nat.le_log2 (by omega)).mpr hlarge.le
      calc leading a = a := leading_small (by omega)
        _ ≤ 2 ^ 23 := ha.le
        _ ≤ 2 ^ b.log2 := Nat.pow_le_pow_right (by decide) hlog
        _ ≤ leading b := (leading_bounds hlarge.le).1

theorem leadingBits_eq (n : Int) : leadingBits n = if n < 0 then -(leading n.natAbs : Int) else leading n.natAbs := by
  simp only [leadingBits, Scalar.signed, leading, Nat.pow_eq, decide_eq_true_eq]

/-- rounding leaves numbers of twenty-four bits alone -/
theorem leadingBits_small {n : Int} (h : n.natAbs ≤ 2 ^ 24) : leadingBits n = n := by
  rw [leadingBits_eq, leading_small h]
  split_ifs <;> omega

/-- rounding keeps the order of numbers -/
theorem leadingBits_mono {m n : Int} (h : m ≤ n) : leadingBits m ≤ leadingBits n := by
  rw [leadingBits_eq, leadingBits_eq]
  split_ifs with hm hn hn
  · have := leading_mono (a := n.natAbs) (b := m.natAbs) (by omega)
    omega
  · omega
  · omega
  · have := leading_mono (a := m.natAbs) (b := n.natAbs) (by omega)
    omega

theorem leadingBits_le_iff {n i : Int} (hi : -2 ^ 24 ≤ i ∧ i < 2 ^ 24) : leadingBits n ≤ i ↔ n ≤ i := by
  have hself : leadingBits i = i := leadingBits_small (by omega)
  have hnext : leadingBits (i + 1) = i + 1 := leadingBits_small (by omega)
  constructor
  · intro h
    by_contra hlt
    have := leadingBits_mono (m := i + 1) (n := n) (by omega)
    omega
  · intro h
    have := leadingBits_mono h
    omega

theorem le_leadingBits_iff {n i : Int} (hi : -2 ^ 24 < i ∧ i ≤ 2 ^ 24) : i ≤ leadingBits n ↔ i ≤ n := by
  have hbelow := leadingBits_le_iff (n := n) (i := i - 1) (by omega)
  omega

theorem leadingBits_bounds {n : Int} (h : n.natAbs ≤ 2 ^ 30) : (leadingBits n).natAbs ≤ 2 ^ 30 := by
  have htop : leading (2 ^ 30) = 2 ^ 30 := by decide +kernel
  have hle := leading_mono h
  rw [leadingBits_eq]
  split_ifs <;> omega

theorem holds_narrow {n : Int} : holds 32 n = true ↔ -2147483648 ≤ n ∧ n < 2147483648 := by
  have hpow : (2 : Int).pow (32 - 1) = 2147483648 := by decide
  simp only [holds, hpow, Bool.and_eq_true, decide_eq_true_eq]

theorem holds_wide {n : Int} : holds 64 n = true ↔ -9223372036854775808 ≤ n ∧ n < 9223372036854775808 := by
  have hpow : (2 : Int).pow (64 - 1) = 9223372036854775808 := by decide
  simp only [holds, hpow, Bool.and_eq_true, decide_eq_true_eq]

end SketchPanel.Number

namespace SketchPanel.Surface

open Number Imaging

/-! ## Painted edges -/

/-- on an image of a size, painting between edges inks the closed box of these edges -/
structure Fills (w h x0 y0 x1 y1 : Int) : Prop where
  across : border x0 ≤ border x1
  down : border y0 ≤ border y1
  inks : ∀ colour p i j, 0 ≤ i → i < w → 0 ≤ j → j < h →
    Layer.over i j p (inked (border x0) (border y0) (border x1) (border y1) colour) =
      if x0 ≤ i ∧ i ≤ x1 ∧ y0 ≤ j ∧ j ≤ y1 then p.under colour else p

/-- edges within thirty bits are painted as they are, as far as an image of twenty-four bits shows -/
theorem fills_of_bounds {w h x0 y0 x1 y1 : Int} (hw : w ≤ 2 ^ 24) (hh : h ≤ 2 ^ 24) (hx : x0 ≤ x1) (hy : y0 ≤ y1)
    (hedges : ∀ n ∈ [x0, y0, x1, y1], n.natAbs ≤ 2 ^ 30) : Fills w h x0 y0 x1 y1 := by
  have hborder : ∀ n ∈ [x0, y0, x1, y1], border n = leadingBits n ∧ cut (leadingBits n) = leadingBits n := by
    intro n hn
    have hn := hedges n hn
    have hn' := leadingBits_bounds hn
    exact ⟨if_pos (holds_wide.mpr (by omega)), if_pos (holds_narrow.mpr (by omega))⟩
  simp only [List.mem_cons, List.not_mem_nil, or_false, forall_eq_or_imp, forall_eq] at hborder
  obtain ⟨⟨hx0, hcx0⟩, ⟨hy0, hcy0⟩, ⟨hx1, hcx1⟩, ⟨hy1, hcy1⟩⟩ := hborder
  have hdown := leadingBits_mono hy
  refine ⟨by rw [hx0, hx1]; exact leadingBits_mono hx, by rwa [hy0, hy1], fun colour p i j hi hiw hj hjh => ?_⟩
  have hleft : ∀ n k : Int, 0 ≤ k → k < 2 ^ 24 → (leadingBits n ≤ k ↔ n ≤ k) := fun n k hk hk' =>
    leadingBits_le_iff ⟨by omega, hk'⟩
  have hright : ∀ n k : Int, 0 ≤ k → k < 2 ^ 24 → (k ≤ leadingBits n ↔ k ≤ n) := fun n k hk hk' =>
    le_leadingBits_iff ⟨by omega, hk'.le⟩
  simp only [hx0, hx1, hy0, hy1, inked, hcx0, hcx1, hcy0, hcy1, min_eq_left hdown, max_eq_right hdown, Layer.over,
    hleft _ i hi (by omega), hright _ i hi (by omega), hleft _ j hj (by omega), hright _ j hj (by omega)]

end SketchPanel.Surface

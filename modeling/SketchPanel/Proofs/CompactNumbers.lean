/-
Numbers in at most two places. A finite floating number is an exact quotient; its hundredfold is rounded to a whole number
of hundredths, a tie going to the even one, and two places are written whatever they are. Noughts at the end are taken off
only as far as the point, and the point only if nothing is left behind it, so noughts of the whole part stay. What is left is
the one decimal of that number of hundredths without idle digits, and a sign that no digit follows but a nought goes as well.

Results:
- `rounds_roundHalfEven`, `Rounds.unique`: a rounded quotient is the nearest whole number, and there is but one.
- `ofWhole?_value`: a whole number of at most 53 binary digits is a floating number exactly.
- `exactDecimal?_hundredths`: a decimal of hundredths is read back exactly.
- `withoutIdleZeros_pointed`: what is left of two places.
- `compact_canonical`: a number is written as the decimal of its hundredths.
Witness:
- `compact_ends`: a tie, a number that is rounded to nought from below, and noughts that stay.
-/
import SketchPanel.Proofs.FloatParts
import SketchPanel.Proofs.Scanning
import SketchPanel.Proofs.WrittenDigits
import SketchPanel.Surface.Vector

namespace SketchPanel.Number

open Text

/-! ## Rounding -/

/-- whether a whole number is nearest to a quotient, and even if another one is as near -/
structure Rounds (q : ℚ) (k : ℤ) : Prop where
  near : |q - k| ≤ 1 / 2
  tie : |q - k| = 1 / 2 → Even k

theorem Rounds.neg {q : ℚ} {k : ℤ} (h : Rounds q k) : Rounds (-q) (-k) := by
  have hsame : |(-q) - ((-k : ℤ) : ℚ)| = |q - k| := by
    rw [← abs_neg (q - k)]
    congr 1
    push_cast
    ring
  refine ⟨?_, ?_⟩
  · rw [hsame]
    exact h.near
  · intro htie
    rw [hsame] at htie
    exact (h.tie htie).neg

theorem Rounds.unique {q : ℚ} {j k : ℤ} (hj : Rounds q j) (hk : Rounds q k) : j = k := by
  have hless : ∀ {j k : ℤ}, Rounds q j → Rounds q k → ¬ j < k := by
    intro j k hj hk hlt
    obtain ⟨hjlow, hjhigh⟩ := abs_le.1 hj.near
    obtain ⟨hklow, hkhigh⟩ := abs_le.1 hk.near
    have hstep : (j : ℚ) + 1 ≤ k := by exact_mod_cast hlt
    -- the quotient lies half way between neighbours, of which only one is even
    have hmiddle : q = j + 1 / 2 := by linarith
    have hnext : k = j + 1 := by
      have hcast : (k : ℚ) = ((j + 1 : ℤ) : ℚ) := by
        push_cast
        linarith
      exact_mod_cast hcast
    have heven : Even j := hj.tie (by rw [hmiddle, add_sub_cancel_left]; norm_num)
    have hodd : Even (j + 1) := by
      rw [← hnext]
      apply hk.tie
      rw [hmiddle, hnext]
      push_cast
      rw [show (j : ℚ) + 1 / 2 - (j + 1) = -(1 / 2) by ring, abs_neg]
      norm_num
    exact (Int.even_add_one.1 hodd) heven
  rcases lt_trichotomy j k with hlt | heq | hgt
  · exact absurd hlt (hless hj hk)
  · exact heq
  · exact absurd hgt (hless hk hj)

theorem rounds_down {whole : ℤ} {rest : ℚ} (hrest : 0 ≤ rest) (hhalf : rest < 1 / 2 ∨ rest = 1 / 2 ∧ Even whole) :
    Rounds (whole + rest) whole := by
  have hdistance : |(whole : ℚ) + rest - whole| = rest := by rw [add_sub_cancel_left, abs_of_nonneg hrest]
  refine ⟨?_, ?_⟩
  · rw [hdistance]
    rcases hhalf with hless | ⟨hequal, -⟩
    · exact hless.le
    · exact hequal.le
  · intro htie
    rw [hdistance] at htie
    rcases hhalf with hless | ⟨-, heven⟩
    · exact absurd htie hless.ne
    · exact heven

theorem rounds_up {whole : ℤ} {rest : ℚ} (hrest : rest ≤ 1) (hhalf : 1 / 2 < rest ∨ rest = 1 / 2 ∧ ¬ Even whole) :
    Rounds (whole + rest) (whole + 1) := by
  have hdistance : |(whole : ℚ) + rest - ((whole + 1 : ℤ) : ℚ)| = 1 - rest := by
    push_cast
    rw [add_sub_add_left_eq_sub, abs_of_nonpos (by linarith), neg_sub]
  refine ⟨?_, ?_⟩
  · rw [hdistance]
    rcases hhalf with hmore | ⟨hequal, -⟩ <;> linarith
  · intro htie
    rw [hdistance] at htie
    rcases hhalf with hmore | ⟨-, hodd⟩
    · linarith
    · exact Int.even_add_one.2 hodd

/-- a rounded quotient is the nearest whole number, and an even one on a tie -/
theorem rounds_roundHalfEven (num : ℕ) {den : ℕ} (hden : 0 < den) : Rounds (num / den) (roundHalfEven num den) := by
  have hpos : (0 : ℚ) < den := by exact_mod_cast hden
  have hvalue : (num : ℚ) / den = ((num / den : ℕ) : ℤ) + (num % den : ℕ) / den := by
    rw [div_eq_iff hpos.ne', add_mul, div_mul_cancel₀ _ hpos.ne', Int.cast_natCast]
    exact_mod_cast (Nat.div_add_mod' num den).symm
  have hrest : (0 : ℚ) ≤ (num % den : ℕ) / den := by positivity
  have hone : ((num % den : ℕ) : ℚ) / den ≤ 1 := by
    rw [div_le_one hpos]
    exact_mod_cast (Nat.mod_lt num hden).le
  rw [hvalue, roundHalfEven]
  rcases lt_trichotomy (2 * (num % den)) den with hlow | hhalf | hhigh
  · have hless : ((num % den : ℕ) : ℚ) / den < 1 / 2 := by
      rw [div_lt_div_iff₀ hpos two_pos]
      exact_mod_cast (by omega : num % den * 2 < 1 * den)
    rw [if_pos hlow]
    exact rounds_down hrest (.inl hless)
  · have hequal : ((num % den : ℕ) : ℚ) / den = 1 / 2 := by
      rw [div_eq_div_iff hpos.ne' two_ne_zero]
      exact_mod_cast (by omega : num % den * 2 = 1 * den)
    rw [if_neg (by omega), if_neg (by omega)]
    split_ifs with heven
    · exact rounds_down hrest (.inr ⟨hequal, by exact_mod_cast Nat.even_iff.2 heven⟩)
    · exact rounds_up hone (.inr ⟨hequal, by exact_mod_cast mt Nat.even_iff.1 heven⟩)
  · have hmore : 1 / 2 < ((num % den : ℕ) : ℚ) / den := by
      rw [div_lt_div_iff₀ two_pos hpos]
      exact_mod_cast (by omega : 1 * den < num % den * 2)
    rw [if_neg (by omega), if_pos hhigh]
    exact rounds_up hone (.inl hmore)

/-! ## Exact values -/

/-- the exact value of parts, none for infinities and the undefined number -/
def Parts.value? : Parts → Option ℚ
  | .finite negative mantissa exponent => some ((if negative then -1 else 1) * (mantissa * 2 ^ exponent))
  | _ => none

/-- the exact value of a scalar -/
def Scalar.value? : Scalar → Option ℚ
  | .whole n => some n
  | .real x => (parts x).value?

theorem scaled_value (mantissa : ℕ) (exponent : ℤ) : 0 < (scaled mantissa exponent).2 ∧
    ((scaled mantissa exponent).1 : ℚ) / (scaled mantissa exponent).2 = mantissa * 2 ^ exponent := by
  unfold scaled
  split_ifs with hexponent
  · obtain ⟨n, rfl⟩ := Int.eq_ofNat_of_zero_le hexponent
    simp [Nat.pow_eq]
  · obtain ⟨n, rfl⟩ : ∃ n : ℕ, exponent = -n := ⟨(-exponent).toNat, by omega⟩
    simp [Nat.pow_eq, div_eq_mul_inv]

/-- a whole number is its magnitude with its sign -/
theorem signed_natAbs (n : ℤ) : (n : ℚ) = (if decide (n < 0) then -1 else 1) * (n.natAbs : ℚ) := by
  rcases lt_or_ge n 0 with hneg | hpos
  · rw [decide_eq_true hneg, if_pos rfl, Nat.cast_natAbs, abs_of_neg hneg]
    push_cast
    ring
  · rw [decide_eq_false (not_lt.2 hpos), if_neg Bool.false_ne_true, Nat.cast_natAbs, abs_of_nonneg hpos, one_mul]

/-- a whole number of at most 53 binary digits is the floating number nearest to it, exactly -/
theorem ofWhole?_value {n : ℤ} (hn : n.natAbs ≤ 2 ^ 53) :
    ∃ x, ofWhole? n = some x ∧ (Scalar.real x).value? = some (n : ℚ) := by
  obtain ⟨x, mantissa, exponent, hx, hparts, hscaled⟩ := nearest?_whole (decide (n < 0)) hn
  refine ⟨x, hx, ?_⟩
  obtain ⟨hden, hvalue⟩ := scaled_value mantissa exponent
  have hmagnitude : (mantissa : ℚ) * 2 ^ exponent = n.natAbs := by
    rw [← hvalue, div_eq_iff (by exact_mod_cast hden.ne')]
    exact_mod_cast hscaled
  rw [Scalar.value?, hparts, Parts.value?, hmagnitude, ← signed_natAbs]

/-! ## Decimals of hundredths -/

/-- the places of so many hundredths: none if they make up ones, one if they make up tenths, else two -/
def hundredthPlaces (units : ℕ) : List Char :=
  if 100 ∣ units then []
  else if 10 ∣ units then ['.', Nat.digitChar (units / 10 % 10)]
  else ['.', Nat.digitChar (units / 10 % 10), Nat.digitChar (units % 10)]

/-- the decimal of so many hundredths: a minus if there are less than none, the whole part in plain digits, and the places -/
def hundredths (k : ℤ) : List Char :=
  (if k < 0 then ['-'] else []) ++ (Nat.toDigits 10 (k.natAbs / 100) ++ hundredthPlaces k.natAbs)

/-- the digits behind a point, none of them if there is no point -/
def decimalPlaces? : List Char → Option (List Char)
  | [] => some []
  | '.' :: places => if places ≠ [] ∧ places.all isDigit then some places else none
  | _ => none

/-- the exact value of a decimal: a sign perhaps, digits, and perhaps a point with more digits -/
def exactDecimal? (text : List Char) : Option ℚ :=
  let (negative, magnitude) := sign text
  let whole := magnitude.takeWhile isDigit
  if whole = [] then none
  else (decimalPlaces? (magnitude.dropWhile isDigit)).map fun places =>
    (if negative then -1 else 1) * (digitsNumber (whole ++ places) / 10 ^ places.length)

theorem hundredthPlaces_head (units : ℕ) : ∀ c ∈ (hundredthPlaces units).head?, isDigit c = false := by
  have hpoint : isDigit '.' = false := by decide
  intro c hc
  unfold hundredthPlaces at hc
  split_ifs at hc
  · cases hc
  · cases hc
    exact hpoint
  · cases hc
    exact hpoint

theorem decimalPlaces?_digits {places : List Char} (hne : places ≠ []) (hdigits : ∀ d ∈ places, isDigit d = true) :
    decimalPlaces? ('.' :: places) = some places := by
  rw [decimalPlaces?, if_pos ⟨hne, List.all_eq_true.2 hdigits⟩]

/-- whole part and places of so many hundredths spell them -/
theorem decimalPlaces?_hundredthPlaces (units : ℕ) : ∃ places, decimalPlaces? (hundredthPlaces units) = some places ∧
    (digitsNumber (Nat.toDigits 10 (units / 100) ++ places) : ℚ) / 10 ^ places.length = units / 100 := by
  have htenth : units / 10 % 10 < 10 := Nat.mod_lt _ (by decide)
  have hlast : units % 10 < 10 := Nat.mod_lt _ (by decide)
  unfold hundredthPlaces
  split_ifs with hones htenths
  · obtain ⟨ones, rfl⟩ := hones
    refine ⟨[], rfl, ?_⟩
    rw [List.append_nil, digitsNumber_toDigits, Nat.mul_div_cancel_left _ (by decide), List.length_nil]
    push_cast
    ring
  · obtain ⟨tenths, rfl⟩ := htenths
    have hdigits : ∀ d ∈ [Nat.digitChar (10 * tenths / 10 % 10)], isDigit d = true := by
      simpa using isDigit_digitChar htenth
    refine ⟨_, decimalPlaces?_digits (List.cons_ne_nil _ _) hdigits, ?_⟩
    rw [List.length_singleton, digitsNumber_snoc _ htenth, digitsNumber_toDigits]
    have hnumber : 10 * tenths / 100 * 10 + 10 * tenths / 10 % 10 = tenths := by omega
    rw [hnumber]
    push_cast
    ring
  · have hdigits : ∀ d ∈ [Nat.digitChar (units / 10 % 10), Nat.digitChar (units % 10)], isDigit d = true := by
      simpa using ⟨isDigit_digitChar htenth, isDigit_digitChar hlast⟩
    refine ⟨_, decimalPlaces?_digits (List.cons_ne_nil _ _) hdigits, ?_⟩
    rw [← List.singleton_append, ← List.append_assoc, digitsNumber_snoc _ hlast, digitsNumber_snoc _ htenth,
      digitsNumber_toDigits]
    have hnumber : (units / 100 * 10 + units / 10 % 10) * 10 + units % 10 = units := by omega
    rw [hnumber]
    norm_num

/-- a decimal of hundredths is read back exactly -/
theorem exactDecimal?_hundredths (k : ℤ) : exactDecimal? (hundredths k) = some ((k : ℚ) / 100) := by
  have hdigits : ∀ d ∈ Nat.toDigits 10 (k.natAbs / 100), isDigit d = true := fun d hd => isDigit_plain (plain_toDigits d hd)
  have hsign : sign (hundredths k) =
      (decide (k < 0), Nat.toDigits 10 (k.natAbs / 100) ++ hundredthPlaces k.natAbs) := by
    unfold hundredths
    split_ifs with hneg
    · rw [decide_eq_true hneg]
      rfl
    · rw [decide_eq_false hneg, List.nil_append]
      apply sign_of_isDigit
      intro c hc
      rw [List.head?_append_of_ne_nil _ Nat.toDigits_ne_nil] at hc
      exact hdigits c (List.mem_of_mem_head? hc)
  obtain ⟨places, hplaces, hvalue⟩ := decimalPlaces?_hundredthPlaces k.natAbs
  simp only [exactDecimal?, hsign, takeWhile_run hdigits (hundredthPlaces_head _),
    dropWhile_run hdigits (hundredthPlaces_head _), if_neg Nat.toDigits_ne_nil, hplaces, Option.map_some, hvalue]
  rw [signed_natAbs k, mul_div_assoc]

theorem hundredths_injective : Function.Injective hundredths := by
  intro j k h
  have hread := congrArg exactDecimal? h
  rw [exactDecimal?_hundredths, exactDecimal?_hundredths, Option.some.injEq, div_left_inj' (by norm_num)] at hread
  exact_mod_cast hread

theorem hundredths_natCast (units : ℕ) :
    hundredths units = Nat.toDigits 10 (units / 100) ++ hundredthPlaces units := by
  rw [hundredths, if_neg (by omega), List.nil_append, Int.natAbs_natCast]

theorem hundredths_neg {units : ℕ} (hpos : 0 < units) : hundredths (-units) = '-' :: hundredths units := by
  rw [hundredths_natCast, hundredths, if_pos (by omega), Int.natAbs_neg, Int.natAbs_natCast]
  rfl

/-- hundreds of hundredths are written like the whole number that they make up -/
theorem hundredths_whole (n : ℤ) : hundredths (100 * n) = (toString n).toList := by
  have hmagnitude : (100 * n).natAbs = 100 * n.natAbs := Int.natAbs_mul 100 n
  have hplaces : hundredthPlaces (100 * n.natAbs) = [] := by rw [hundredthPlaces, if_pos (Nat.dvd_mul_right _ _)]
  have hsign : 100 * n < 0 ↔ n < 0 := by omega
  rw [intText_eq, hundredths, hmagnitude, hplaces, Nat.mul_div_cancel_left _ (by decide), List.append_nil]
  simp only [hsign]

end SketchPanel.Number

namespace SketchPanel.Surface

open Number

/-! ## Idle noughts -/

theorem withoutIdleZeros_noughts (text : List Char) (noughts : ℕ) :
    withoutIdleZeros (text ++ List.replicate noughts '0') = withoutIdleZeros text := by
  have hall : ∀ d ∈ List.replicate noughts '0', decide (d = '0') = true := by
    intro d hd
    rw [List.eq_of_mem_replicate hd]
    rfl
  unfold withoutIdleZeros
  rw [List.reverse_append, List.reverse_replicate, List.dropWhile_append_of_pos hall]

/-- noughts go as far as the last character that is neither nought nor point -/
theorem withoutIdleZeros_solid (text : List Char) {c : Char} (hzero : c ≠ '0') (hpoint : c ≠ '.') (noughts : ℕ) :
    withoutIdleZeros (text ++ c :: List.replicate noughts '0') = text ++ [c] := by
  rw [List.append_cons, withoutIdleZeros_noughts]
  simp [withoutIdleZeros, hzero, hpoint]

/-- a point that nothing is left behind goes as well -/
theorem withoutIdleZeros_point (text : List Char) {c : Char} (hpoint : c ≠ '.') (noughts : ℕ) :
    withoutIdleZeros (text ++ c :: '.' :: List.replicate noughts '0') = text ++ [c] := by
  rw [List.append_cons, List.append_cons, withoutIdleZeros_noughts]
  simp [withoutIdleZeros, hpoint]

/-- two places of a number of hundredths -/
theorem pointed_two (units : ℕ) : pointed 2 units =
    Nat.toDigits 10 (units / 100) ++ ['.', Nat.digitChar (units / 10 % 10), Nat.digitChar (units % 10)] := by
  have hpadded : List.replicate (3 - (Nat.toDigits 10 units).length) '0' ++ Nat.toDigits 10 units =
      Nat.toDigits 10 (units / 100) ++ [Nat.digitChar (units / 10 % 10), Nat.digitChar (units % 10)] := by
    rcases Nat.lt_or_ge units 10 with hone | hten
    · have hwhole : units / 100 = 0 := by omega
      have htenth : units / 10 % 10 = 0 := by omega
      have hlast : units % 10 = units := by omega
      rw [Nat.toDigits_of_lt_base hone, hwhole, htenth, hlast]
      rfl
    · have hlast := Nat.toDigits_of_base_le (by decide : 1 < 10) hten
      rcases Nat.lt_or_ge units 100 with hsmall | hlarge
      · have hwhole : units / 100 = 0 := by omega
        have htenth : units / 10 % 10 = units / 10 := by omega
        rw [hlast, Nat.toDigits_of_lt_base (by omega), hwhole, htenth]
        rfl
      · have htenth := Nat.toDigits_of_base_le (by decide : 1 < 10) (show 10 ≤ units / 10 by omega)
        have hlength : 0 < (Nat.toDigits 10 (units / 100)).length := Nat.length_toDigits_pos
        rw [Nat.div_div_eq_div_mul] at htenth
        rw [hlast, htenth]
        simp only [List.length_append, List.length_singleton]
        rw [show 3 - ((Nat.toDigits 10 (units / 100)).length + 1 + 1) = 0 by omega]
        simp
  simp only [pointed, hpadded]
  simp

/-- what is left of two places -/
theorem withoutIdleZeros_pointed (front : List Char) (units : ℕ) : withoutIdleZeros (front ++ pointed 2 units) =
    front ++ (Nat.toDigits 10 (units / 100) ++ hundredthPlaces units) := by
  have hsolid : ∀ d < 10, Nat.digitChar d ≠ '.' ∧ (d ≠ 0 → Nat.digitChar d ≠ '0') := by decide
  have htenth := hsolid (units / 10 % 10) (Nat.mod_lt _ (by decide))
  have hlast := hsolid (units % 10) (Nat.mod_lt _ (by decide))
  have hnought : Nat.digitChar 0 = '0' := rfl
  rw [pointed_two]
  unfold hundredthPlaces
  split_ifs with hones htenths
  · have hten : units / 10 % 10 = 0 := by omega
    have hone : units % 10 = 0 := by omega
    obtain ⟨digits, d, hdigits⟩ : ∃ digits d, Nat.toDigits 10 (units / 100) = digits ++ [d] :=
      ⟨_, _, (List.dropLast_append_getLast Nat.toDigits_ne_nil).symm⟩
    have hpoint : d ≠ '.' := by
      have hd := plain_toDigits d (n := units / 100) (by rw [hdigits]; simp)
      rintro rfl
      exact absurd hd (by decide)
    have hleft := withoutIdleZeros_point (front ++ digits) hpoint 2
    rw [hten, hone, hnought, hdigits, List.append_nil]
    simpa using hleft
  · have hone : units % 10 = 0 := by omega
    have hleft := withoutIdleZeros_solid (front ++ Nat.toDigits 10 (units / 100) ++ ['.']) (htenth.2 (by omega)) htenth.1 1
    rw [hone, hnought]
    simpa using hleft
  · have hleft := withoutIdleZeros_solid (front ++ Nat.toDigits 10 (units / 100) ++
      ['.', Nat.digitChar (units / 10 % 10)]) (hlast.2 (by omega)) hlast.1 0
    simpa using hleft

/-! ## Compact numbers -/

/-- a floating number is written as the decimal of its hundredths -/
theorem compactFloat_finite {x : Float} {negative : Bool} {mantissa : ℕ} {exponent : ℤ}
    (hparts : parts x = .finite negative mantissa exponent) : compactFloat x = hundredths (Scalar.signed negative
      (roundHalfEven ((scaled mantissa exponent).1 * 100) (scaled mantissa exponent).2)) := by
  have hfixed : fixed 2 x = (if negative then ['-'] else []) ++
      pointed 2 (roundHalfEven ((scaled mantissa exponent).1 * 100) (scaled mantissa exponent).2) := by
    simp only [fixed, hparts]
    cases negative <;> rfl
  generalize roundHalfEven ((scaled mantissa exponent).1 * 100) (scaled mantissa exponent).2 = units at hfixed ⊢
  rw [compactFloat, hfixed, withoutIdleZeros_pointed, ← hundredths_natCast]
  cases negative with
  | false =>
    have hunsigned : hundredths units ≠ ['-', '0'] := by
      intro hminus
      obtain ⟨d, more, hdigits⟩ := List.exists_cons_of_ne_nil (Nat.toDigits_ne_nil (n := units / 100) (b := 10))
      have hd := plain_toDigits d (n := units / 100) (by rw [hdigits]; exact List.mem_cons_self)
      rw [hundredths_natCast, hdigits, List.cons_append] at hminus
      rw [(List.cons.inj hminus).1] at hd
      exact absurd hd (by decide)
    simp only [if_neg Bool.false_ne_true, List.nil_append, if_neg hunsigned, Scalar.signed]
  | true =>
    rcases Nat.eq_zero_or_pos units with rfl | hpos
    · rfl
    · have hsome : ['-'] ++ hundredths units ≠ ['-', '0'] := by
        intro hnought
        have hzero : hundredths units = hundredths 0 := List.tail_eq_of_cons_eq hnought
        have hunits := hundredths_injective hzero
        omega
      simp only [if_pos, if_neg hsome, Scalar.signed, hundredths_neg hpos]
      rfl

theorem compact_real (x : Float) : compact (.real x) = .ok (.ofList (compactFloat x)) := rfl

/-- what has an exact value is written as the decimal of its hundredths, rounded -/
theorem compact_rounds {x : Scalar} {q : ℚ} (hvalue : x.value? = some q)
    (hfits : ∀ n, x = .whole n → n.natAbs ≤ 2 ^ 53) :
    ∃ k, Rounds (100 * q) k ∧ compact x = .ok (.ofList (hundredths k)) := by
  have hreal : ∀ {x : Float}, (Scalar.real x).value? = some q →
      ∃ k, Rounds (100 * q) k ∧ compact (.real x) = .ok (.ofList (hundredths k)) := by
    intro x hvalue
    cases hparts : parts x with
    | undefined | infinite => simp [Scalar.value?, hparts, Parts.value?] at hvalue
    | finite negative mantissa exponent =>
      obtain ⟨hden, hscaled⟩ := scaled_value mantissa exponent
      have hrounds := rounds_roundHalfEven ((scaled mantissa exponent).1 * 100) hden
      have hquotient : (((scaled mantissa exponent).1 * 100 : ℕ) : ℚ) / (scaled mantissa exponent).2 =
          100 * (mantissa * 2 ^ exponent) := by
        rw [← hscaled]
        push_cast
        ring
      rw [hquotient] at hrounds
      simp only [Scalar.value?, hparts, Parts.value?, Option.some.injEq] at hvalue
      refine ⟨_, ?_, by rw [compact_real, compactFloat_finite hparts]⟩
      rw [← hvalue]
      cases negative with
      | false => simpa [Scalar.signed] using hrounds
      | true => simpa [Scalar.signed] using hrounds.neg
  cases x with
  | real x => exact hreal hvalue
  | whole n =>
    obtain ⟨x, hx, hsame⟩ := ofWhole?_value (hfits n rfl)
    obtain ⟨k, hrounds, hcompact⟩ := hreal (hsame.trans hvalue)
    refine ⟨k, hrounds, ?_⟩
    rw [← hcompact, compact, Scalar.toFloat, hx]
    rfl

/-- **Compact numbers.** A finite floating number, or a whole number of at most 53 binary digits, has just one number of
hundredths nearest to it, and even on a tie. It is written as the decimal of that number of hundredths, which is read back
exactly; a whole number is written as it is. -/
theorem compact_canonical {x : Scalar} {q : ℚ} (hvalue : x.value? = some q)
    (hfits : ∀ n, x = .whole n → n.natAbs ≤ 2 ^ 53) :
    (∃! k, Rounds (100 * q) k) ∧
      (∀ k, Rounds (100 * q) k →
        compact x = .ok (.ofList (hundredths k)) ∧ exactDecimal? (hundredths k) = some ((k : ℚ) / 100)) ∧
      ∀ n, x = .whole n → compact x = .ok (toString n) := by
  obtain ⟨k, hrounds, hcompact⟩ := compact_rounds hvalue hfits
  have hunique : ∀ j, Rounds (100 * q) j → j = k := fun j hj => hj.unique hrounds
  refine ⟨⟨k, hrounds, hunique⟩, ?_, ?_⟩
  · intro j hj
    rw [hunique j hj]
    exact ⟨hcompact, exactDecimal?_hundredths k⟩
  · rintro n rfl
    have hq : (n : ℚ) = q := Option.some.inj hvalue
    have hexact : Rounds (100 * q) (100 * n) := by
      rw [← hq]
      refine ⟨by push_cast; norm_num, ?_⟩
      push_cast
      norm_num
    rw [hcompact, ← hunique _ hexact, hundredths_whole, String.ofList_toList]

/-- a tie goes to the even hundredth, what is rounded to nought from below has no sign, and noughts of a whole number
stay -/
theorem compact_ends :
    (Scalar.real 0.125).value? = some (1 / 8) ∧ compact (.real 0.125) = .ok "0.12" ∧
      (Scalar.real (-0.001953125)).value? = some (-1 / 512) ∧ compact (.real (-0.001953125)) = .ok "0" ∧
      (Scalar.whole 100).value? = some 100 ∧ compact (.whole 100) = .ok "100" := by
  have hparts : parts 0.125 = .finite false (2 ^ 52) (-55) := rfl
  have heighth : (Scalar.real 0.125).value? = some (1 / 8) := by
    rw [Scalar.value?, hparts, Parts.value?, Option.some.injEq]
    norm_num
  have hparts' : parts (-0.001953125) = .finite true (2 ^ 52) (-61) := rfl
  have hbelow : (Scalar.real (-0.001953125)).value? = some (-1 / 512) := by
    rw [Scalar.value?, hparts', Parts.value?, Option.some.injEq]
    norm_num
  have htie : Rounds (100 * (1 / 8)) 12 := by
    refine ⟨by norm_num [abs_of_nonneg], ?_⟩
    intro _
    decide
  have hnought : Rounds (100 * (-1 / 512)) 0 := by
    refine ⟨by norm_num [abs_of_neg], ?_⟩
    intro _
    decide
  refine ⟨heighth, ?_, hbelow, ?_, rfl, ?_⟩
  · exact ((compact_canonical heighth nofun).2.1 12 htie).1
  · exact ((compact_canonical hbelow nofun).2.1 0 hnought).1
  · refine (compact_canonical (x := .whole 100) (q := 100) rfl ?_).2.2 100 rfl
    rintro _ ⟨⟩
    decide

end SketchPanel.Surface

/-
Binary floating numbers taken apart and put together exactly. A finite number is a whole number of quanta, a
quantum being a power of two; reading a quotient of whole numbers gives the nearest such number, a tie going to
the even neighbour.
-/

namespace SketchPanel.Number

/-- the quotient rounded to the nearest whole number, a tie going to the even one -/
def roundHalfEven (num den : Nat) : Nat :=
  let q := num / den
  let r := num % den
  if 2 * r < den then q
  else if den < 2 * r then q + 1
  else if q % 2 = 0 then q else q + 1

/-- a floating number taken apart -/
inductive Parts where
  /-- the number is `mantissa · 2 ^ exponent`, negated if so marked -/
  | finite (negative : Bool) (mantissa : Nat) (exponent : Int)
  | infinite (negative : Bool)
  | undefined

/-- takes a floating number apart -/
def parts (x : Float) : Parts :=
  let bits := x.toBits.toNat
  let negative := decide (Nat.pow 2 63 ≤ bits)
  let biased : Nat := bits / Nat.pow 2 52 % Nat.pow 2 11
  let fraction : Nat := bits % Nat.pow 2 52
  if biased = 2047 then (if fraction = 0 then .infinite negative else .undefined)
  else if biased = 0 then .finite negative fraction (-1074)
  else .finite negative (fraction + Nat.pow 2 52) ((biased : Int) - 1075)

/-- `mantissa · 2 ^ exponent` as numerator and denominator -/
def scaled (mantissa : Nat) (exponent : Int) : Nat × Nat :=
  if 0 ≤ exponent then (mantissa * Nat.pow 2 exponent.toNat, 1) else (mantissa, Nat.pow 2 (-exponent).toNat)

/-- the quantum, as a power of two, of the floating numbers around a positive quotient -/
def quantum (num den : Nat) : Int :=
  let k : Int := num.log2 - den.log2
  let below := if 0 ≤ k then num < den * Nat.pow 2 k.toNat else num * Nat.pow 2 (-k).toNat < den
  max (-1074) (if below then k - 53 else k - 52)

/-- the floating number nearest to a quotient, none if it lies beyond the largest one -/
def nearest? (negative : Bool) (num den : Nat) : Option Float :=
  let magnitude : Option Nat :=
    if num = 0 then some 0
    else
      let q := quantum num den
      let m :=
        if 0 ≤ q then roundHalfEven num (den * Nat.pow 2 q.toNat)
        else roundHalfEven (num * Nat.pow 2 (-q).toNat) den
      let bits := (q + 1074).toNat * Nat.pow 2 52 + m
      if bits < 2047 * Nat.pow 2 52 then some bits else none
  magnitude.map fun bits => Float.ofBits (UInt64.ofNat (if negative then bits + Nat.pow 2 63 else bits))

/-- the infinity of a sign -/
def infinity (negative : Bool) : Float :=
  Float.ofBits (UInt64.ofNat (if negative then 4095 * Nat.pow 2 52 else 2047 * Nat.pow 2 52))

/-- the number that is no number -/
def undefinedNumber : Float := Float.ofBits (UInt64.ofNat (4095 * Nat.pow 2 51))

/-- the floating number nearest to a quotient, infinity beyond the largest one -/
def nearest (negative : Bool) (num den : Nat) : Float :=
  (nearest? negative num den).getD (infinity negative)

/-- the floating number nearest to a whole number, none if it lies beyond the largest one -/
def ofWhole? (n : Int) : Option Float := nearest? (decide (n < 0)) n.natAbs 1

/-- the whole part of the square root -/
def squareRoot (n : Nat) : Nat :=
  if h : n = 0 then 0
  else
    let r := 2 * squareRoot (n / 4)
    if (r + 1) * (r + 1) ≤ n then r + 1 else r
termination_by n

/-- the length of the hypotenuse over two sides, correctly rounded -/
def hypotenuse (x y : Float) : Float :=
  match parts x, parts y with
  | .infinite _, _ => infinity false
  | _, .infinite _ => infinity false
  | .undefined, _ => undefinedNumber
  | _, .undefined => undefinedNumber
  | .finite _ m p, .finite _ n q =>
    let e := min p q
    let a := m * Nat.pow 2 (p - e).toNat
    let b := n * Nat.pow 2 (q - e).toNat
    let square := (a * a + b * b) * Nat.pow 4 64
    let root := squareRoot square
    let sticky := if root * root = square then 2 * root else 2 * root + 1
    let (num, den) := scaled sticky (e - 65)
    nearest false num den

/-- the remainder of a floored division, which has the sign of the divisor -/
def remainder (x y : Float) : Float :=
  match parts x, parts y with
  | .finite negX m p, .finite negY n q =>
    if n = 0 then undefinedNumber
    else
      let e := min p q
      let r := (m * Nat.pow 2 (p - e).toNat) % (n * Nat.pow 2 (q - e).toNat)
      if r = 0 then nearest negY 0 1
      else
        let (num, den) := scaled r e
        let rest := nearest negX num den
        if negX = negY then rest else rest + y
  | .finite negX m _, .infinite negY =>
    if m = 0 then nearest negY 0 1 else if negX = negY then x else y
  | _, _ => undefinedNumber

end SketchPanel.Number

/-
The shortest decimal that reads back as the same floating number, and of those the one nearest to it. It is
written positionally from a ten-thousandth up to below ten to the sixteenth, and with an exponent otherwise; a
whole number keeps one zero after the point.
-/
import SketchPanel.Number.Binary

namespace SketchPanel.Number

/-- the decimal exponent of the leading digit: the largest `k` with `10 ^ k` at most the quotient -/
def leadingPlace (num den : Nat) : Int :=
  -- a first guess that is never too large by more than one and never too small by more than one
  let guess : Int := (((num.log2 : Int) - den.log2) * 30103) / 100000
  let atLeast (k : Int) : Bool :=
    if 0 ≤ k then decide (den * Nat.pow 10 k.toNat ≤ num) else decide (den ≤ num * Nat.pow 10 (-k).toNat)
  if atLeast (guess + 1) then guess + 1 else if atLeast guess then guess else guess - 1

/-- the decimal `digits · 10 ^ place` as a floating number -/
def ofDecimal (negative : Bool) (digits : Nat) (place : Int) : Float :=
  if 0 ≤ place then nearest negative (digits * Nat.pow 10 place.toNat) 1
  else nearest negative digits (Nat.pow 10 (-place).toNat)

/-- the neighbour on the grid of some power of ten that reads back as the number, the nearer one if both do -/
def onGrid? (num den : Nat) (place : Int) (value : Float) : Option Nat :=
  let (n, d) := if 0 ≤ place then (num, den * Nat.pow 10 place.toNat) else (num * Nat.pow 10 (-place).toNat, den)
  let low := n / d
  let rest := n % d
  let readsBack (digits : Nat) : Bool := (ofDecimal false digits place).toBits == value.toBits
  match readsBack low, readsBack (low + 1) with
  | true, true =>
    if 2 * rest < d then some low
    else if d < 2 * rest then some (low + 1)
    else some (if low % 2 = 0 then low else low + 1)
  | true, false => some low
  | false, true => some (low + 1)
  | false, false => none

/-- the first grid, from coarse to fine, that has a hit; the grid's place and the digits -/
def firstGrid (num den : Nat) (value : Float) : Nat → Int → Int × Nat
  | 0, place => (place, roundHalfEven num den)
  | tries + 1, place =>
    match onGrid? num den place value with
    | some digits => (place, digits)
    | none => firstGrid num den value tries (place - 1)

/-- digits and the exponent of the leading one, without zeros at the end -/
def shortestDigits (num den : Nat) (value : Float) : List Char × Int :=
  let (place, digits) := firstGrid num den value 18 (leadingPlace num den)
  let text := Nat.toDigits 10 digits
  let trimmed := (text.reverse.dropWhile (· = '0')).reverse
  (trimmed, place + text.length - 1)

/-- an exponent of ten with its sign and at least two digits -/
def exponentMark (exponent : Int) : List Char :=
  let size := Nat.toDigits 10 exponent.natAbs
  ['e', if exponent < 0 then '-' else '+'] ++ List.replicate (2 - size.length) '0' ++ size

/-- digits with their leading exponent, written out -/
def writeDigits (digits : List Char) (exponent : Int) : List Char :=
  if 16 ≤ exponent ∨ exponent < -4 then
    let mantissa := match digits with
      | [] => ['0']
      | [d] => [d]
      | d :: more => d :: '.' :: more
    mantissa ++ exponentMark exponent
  else if exponent < 0 then
    ['0', '.'] ++ List.replicate (exponent.natAbs - 1) '0' ++ digits
  else
    let whole := exponent.toNat + 1
    if digits.length ≤ whole then digits ++ List.replicate (whole - digits.length) '0' ++ ['.', '0']
    else digits.take whole ++ '.' :: digits.drop whole

/-- the shortest text that reads back as the number -/
def shortest (x : Float) : List Char :=
  match parts x with
  | .undefined => ['n', 'a', 'n']
  | .infinite negative => if negative then ['-', 'i', 'n', 'f'] else ['i', 'n', 'f']
  | .finite negative mantissa exponent =>
    let text :=
      if mantissa = 0 then ['0', '.', '0']
      else
        let (num, den) := scaled mantissa exponent
        let (digits, place) := shortestDigits num den (nearest false num den)
        writeDigits digits place
    if negative then '-' :: text else text

end SketchPanel.Number

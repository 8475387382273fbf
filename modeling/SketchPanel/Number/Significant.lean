/-
Numbers in significant digits. The exact binary value is rounded to so many digits from its leading one on, a tie going
to the even digit. Such a number is written with an exponent, or positionally if its exponent is neither small nor as
large as the number of digits.
-/
import SketchPanel.Number.Fixed
import SketchPanel.Number.Shortest

namespace SketchPanel.Number

/-- so many digits of a quotient from the leading one on, and the exponent of that; nought has noughts only -/
def significant (count num den : Nat) : List Char × Int :=
  if num = 0 then (List.replicate count '0', 0)
  else
    let leading := leadingPlace num den
    let place := leading - count + 1
    let units :=
      if 0 ≤ place then roundHalfEven num (den * Nat.pow 10 place.toNat)
      else roundHalfEven (num * Nat.pow 10 (-place).toNat) den
    if units = Nat.pow 10 count then (Nat.toDigits 10 (units / 10), leading + 1)
    else (Nat.toDigits 10 units, leading)

/-- digits with a point after the first so many; a point that nothing follows is only written if it is asked for -/
def withPoint (whole : Nat) (pointed : Bool) (digits : List Char) : List Char :=
  if digits.length ≤ whole && !pointed then digits else digits.take whole ++ '.' :: digits.drop whole

/-- a magnitude in fixed places -/
def fixedPlaces (places : Nat) (pointed : Bool) (num den : Nat) : List Char :=
  let text := Number.pointed places (roundHalfEven (num * Nat.pow 10 places) den)
  if places = 0 && pointed then text ++ ['.'] else text

/-- a magnitude with an exponent, and so many digits after the point -/
def exponential (places : Nat) (pointed : Bool) (num den : Nat) : List Char :=
  let (digits, exponent) := significant (places + 1) num den
  withPoint 1 pointed digits ++ exponentMark exponent

/-- without zeros at the end -/
def withoutLastZeros (digits : List Char) : List Char := (digits.reverse.dropWhile (· = '0')).reverse

/-- a magnitude in so many significant digits, in the shorter of the two forms; zeros at the end are only written if
they are asked for -/
def general (count : Nat) (full : Bool) (num den : Nat) : List Char :=
  let count := max 1 count
  let (digits, exponent) := significant count num den
  let kept (first : Nat) : List Char :=
    if full then digits else digits.take first ++ withoutLastZeros (digits.drop first)
  if exponent < -4 ∨ (count : Int) ≤ exponent then withPoint 1 full (kept 1) ++ exponentMark exponent
  else if exponent < 0 then
    ['0', '.'] ++ List.replicate (exponent.natAbs - 1) '0' ++ (if full then digits else withoutLastZeros digits)
  else withPoint (exponent.toNat + 1) full (kept (exponent.toNat + 1))

end SketchPanel.Number

/-
Numbers in fixed places. The exact binary value is rounded to the places, a tie going to the even digit, and a
negative sign stays even when every digit is zero.
-/
import SketchPanel.Number.Binary

namespace SketchPanel.Number

/-- a whole number of units of the last place, written with a point before the last places -/
def pointed (places units : Nat) : List Char :=
  let digits := Nat.toDigits 10 units
  let padded := List.replicate (places + 1 - digits.length) '0' ++ digits
  let whole := padded.take (padded.length - places)
  if places = 0 then whole else whole ++ '.' :: padded.drop (padded.length - places)

/-- a number in fixed places -/
def fixed (places : Nat) (x : Float) : List Char :=
  match parts x with
  | .undefined => ['n', 'a', 'n']
  | .infinite negative => if negative then ['-', 'i', 'n', 'f'] else ['i', 'n', 'f']
  | .finite negative mantissa exponent =>
    let (num, den) := scaled mantissa exponent
    let text := pointed places (roundHalfEven (num * Nat.pow 10 places) den)
    if negative then '-' :: text else text

end SketchPanel.Number

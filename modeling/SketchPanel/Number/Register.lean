/-
Whole numbers in a register: so many bits, one of them the sign. A number that does not fit is refused, wrapped, or cut
to the lowest one, as the place demands; and a register of floating numbers keeps the leading twenty-four bits.
-/
import SketchPanel.Number.Scalar

namespace SketchPanel.Number

/-- whether so many bits, one of them the sign, hold a number -/
def holds (bits : Nat) (n : Int) : Bool := -((2 : Int).pow (bits - 1)) ≤ n && n < (2 : Int).pow (bits - 1)

/-! ## Refused -/

/-- a number that does not fit -/
inductive Overflow where
  /-- sixty-four bits were there for it -/
  | wide
  /-- thirty-two bits were there for it, and not even sixty-four hold it -/
  | narrow
  | above
  | below
  deriving DecidableEq, Repr

/-- what is said of such a number -/
def Overflow.message : Overflow → String
  | .wide => "int too big to convert"
  | .narrow => "Python int too large to convert to C long"
  | .above => "signed integer is greater than maximum"
  | .below => "signed integer is less than minimum"

/-- a number in sixty-four bits -/
def wide (n : Int) : Except Overflow Int := if holds 64 n then .ok n else .error .wide

/-- a number in thirty-two bits -/
def narrow (n : Int) : Except Overflow Int :=
  if !holds 64 n then .error .narrow
  else if holds 32 n then .ok n
  else .error (if 0 < n then .above else .below)

/-! ## Wrapped and cut -/

/-- what thirty-two bits keep of a number -/
def wrapped (n : Int) : Int := n.bmod 0x100000000

/-- the lowest number in thirty-two bits -/
def lowest : Int := -0x80000000

/-- a number in thirty-two bits, the lowest if they do not hold it -/
def cut (n : Int) : Int := if holds 32 n then n else lowest

/-- the whole part of a number in thirty-two bits, the lowest if there is none that they hold -/
def cutPart (x : Float) : Int :=
  match (Scalar.real x).truncate with
  | .ok n => cut n
  | .error _ => lowest

/-- the nearest number whose leading twenty-four bits are all of it, a tie going to the even one -/
def leadingBits (n : Int) : Int :=
  let unit := Nat.pow 2 (n.natAbs.log2 - 23)
  Scalar.signed (decide (n < 0)) (roundHalfEven n.natAbs unit * unit)

end SketchPanel.Number

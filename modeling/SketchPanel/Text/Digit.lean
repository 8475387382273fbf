/-
Decimal digits of every script. Each script has its ten digits side by side, so a digit is known by the code
point of its script's zero.
-/

namespace SketchPanel.Text

/-- the code points of the zeros, in ascending order -/
def zeros : List Nat := [
  48, 1632, 1776, 1984, 2406, 2534, 2662, 2790, 2918, 3046, 3174, 3302, 3430, 3558, 3664, 3792, 3872, 4160,
  4240, 6112, 6160, 6470, 6608, 6784, 6800, 6992, 7088, 7232, 7248, 42528, 43216, 43264, 43472, 43504, 43600,
  44016, 65296, 66720, 68912, 69734, 69872, 69942, 70096, 70384, 70736, 70864, 71248, 71360, 71472, 71904,
  72016, 72784, 73040, 73120, 92768, 92864, 93008, 120782, 120792, 120802, 120812, 120822, 123200, 123632,
  125264, 130032]

/-- the value of the digit, given the zeros not yet passed -/
def digitAmong : List Nat → Nat → Option Nat
  | [], _ => none
  | origin :: rest, code =>
    if code < origin then none
    else if code < origin + 10 then some (code - origin)
    else digitAmong rest code

/-- what a decimal digit of any script counts, none for any other character -/
def digitValue (c : Char) : Option Nat := digitAmong zeros c.toNat

/-- a decimal digit of any script -/
def isDigit (c : Char) : Bool := (digitValue c).isSome

/-- what a hexadecimal digit counts; only the plain digits and letters are hexadecimal -/
def hexValue (c : Char) : Option Nat :=
  if '0' ≤ c ∧ c ≤ '9' then some (c.toNat - 48)
  else if 'a' ≤ c ∧ c ≤ 'f' then some (c.toNat - 87)
  else if 'A' ≤ c ∧ c ≤ 'F' then some (c.toNat - 55)
  else none

/-- a plain hexadecimal digit, of either case -/
def isHexDigit (c : Char) : Bool := (hexValue c).isSome

/-- the number that hexadecimal digits spell -/
def hexNumber (digits : List Char) : Nat :=
  digits.foldl (fun n c => n * 16 + (hexValue c).getD 0) 0

/-- the lower-case hexadecimal digit of a number below sixteen -/
def hexDigit (n : Nat) : Char := Nat.digitChar (n % 16)

/-- a number in lower-case hexadecimal digits, with leading zeros up to the given width -/
def hexPadded : Nat → Nat → List Char
  | 0, _ => []
  | width + 1, n => hexPadded width (n / 16) ++ [hexDigit n]

theorem length_hexPadded (width n : Nat) : (hexPadded width n).length = width := by
  induction width generalizing n with
  | zero => rfl
  | succ width ih => simp [hexPadded, ih]

end SketchPanel.Text

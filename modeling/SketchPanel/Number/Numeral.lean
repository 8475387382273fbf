/-
Reading numbers from text. A whole number is a run of decimal digits of any script, of at most 4300 digits; a longer
run is refused with its length, and a number that would take one is not written. A decimal number may have a point, an
exponent, and single underscores between digits, and the infinities and the undefined number have names.
-/
import SketchPanel.Number.Binary
import SketchPanel.Text.Digit
import SketchPanel.Text.Scan

namespace SketchPanel.Number

open SketchPanel.Text

/-- the longest run of digits that is read as a number -/
def digitLimit : Nat := 4300

/-- a run of digits that is too long to read -/
structure TooLong where
  digits : Nat
  deriving DecidableEq, Repr

/-- what is said of a run that is too long -/
def TooLong.message (fault : TooLong) : String :=
  s!"Exceeds the limit (4300 digits) for integer string conversion: value has {fault.digits} digits; "
    ++ "use sys.set_int_max_str_digits() to increase the limit"

/-- whether a number is written in so few digits that they could be read -/
def inDigitLimit (n : Int) : Bool := n.natAbs < Nat.pow 10 digitLimit

/-- what is said of a number that takes too many digits to write -/
def tooLongToWrite : String :=
  "Exceeds the limit (4300 digits) for integer string conversion; "
    ++ "use sys.set_int_max_str_digits() to increase the limit"

/-- the number that decimal digits spell, however many -/
def digitsNumber (digits : List Char) : Nat :=
  digits.foldl (fun n c => n * 10 + (digitValue c).getD 0) 0

/-- the number that a run of decimal digits spells -/
def readDigits (digits : List Char) : Except TooLong Nat :=
  if digitLimit < digits.length then .error ⟨digits.length⟩ else .ok (digitsNumber digits)

/-- an optional sign: whether it is a minus, and the rest -/
def sign : List Char → Bool × List Char
  | '-' :: rest => (true, rest)
  | '+' :: rest => (false, rest)
  | text => (false, text)

/-- a sign if there is one, and then digits and nothing else -/
def signedDigits (text : List Char) : Except TooLong (Option Int) :=
  let (negative, digits) := sign text
  if digits ≠ [] ∧ digits.all isDigit then
    (readDigits digits).map fun n => some (if negative then -(n : Int) else n)
  else .ok none

/-- the value of a text that is a whole number and nothing else, blanks around it apart -/
def wholeLiteral (text : List Char) : Except TooLong (Option Int) := signedDigits (trim text)

/-- whether the underscores of a text all stand alone between digits -/
def spacedByUnderscores : Option Char → List Char → Bool
  | before, [] => before != some '_'
  | before, c :: rest =>
    (if c = '_' then before.any isDigit else before != some '_' || isDigit c)
      && spacedByUnderscores (some c) rest

/-- a decimal number without a sign, its digits given as they stand -/
def unsignedDecimal? (negative : Bool) (text : List Char) : Option Float := do
  let whole := text.takeWhile isDigit
  let afterWhole := text.dropWhile isDigit
  let (part, afterPart) := match afterWhole with
    | '.' :: more => (more.takeWhile isDigit, more.dropWhile isDigit)
    | _ => ([], afterWhole)
  if whole = [] ∧ part = [] then none
  let power : Int ← match afterPart with
    | [] => some 0
    | e :: more =>
      if e = 'e' ∨ e = 'E' then
        let (below, digits) := sign more
        if digits ≠ [] ∧ digits.all isDigit then
          some (if below then -(digitsNumber digits : Int) else digitsNumber digits)
        else none
      else none
  let digits := digitsNumber (whole ++ part)
  let place := power - part.length
  -- far outside the range of the floating numbers the exponent need not be worked out
  let leading : Int := (whole ++ part).length + place
  if digits = 0 then some (nearest negative 0 1)
  else if leading < -400 then some (nearest negative 0 1)
  else if 0 ≤ place then
    if leading > 400 + (whole ++ part).length then some (infinity negative)
    else some (nearest negative (digits * Nat.pow 10 place.toNat) 1)
  else some (nearest negative digits (Nat.pow 10 (-place).toNat))

/-- blanks that may stand around a decimal number -/
def isDecimalBlank (c : Char) : Bool := isBlank c && !(28 ≤ c.toNat && c.toNat ≤ 31)

/-- a decimal number and nothing else, blanks around it apart -/
def decimalLiteral? (text : List Char) : Option Float := do
  let body := ((text.dropWhile isDecimalBlank).reverse.dropWhile isDecimalBlank).reverse
  if !spacedByUnderscores none body then none
  let (negative, magnitude) := sign (body.filter (· ≠ '_'))
  let name := magnitude.map fun c => if 'A' ≤ c ∧ c ≤ 'Z' then Char.ofNat (c.toNat + 32) else c
  if name = "inf".toList ∨ name = "infinity".toList then some (infinity negative)
  else if name = "nan".toList then some undefinedNumber
  else unsignedDecimal? negative magnitude

/-- a whole number given on its own, with single underscores between digits -/
def wholeArgument? (text : List Char) : Option Int := do
  let body := ((text.dropWhile isDecimalBlank).reverse.dropWhile isDecimalBlank).reverse
  if !spacedByUnderscores none body then none
  (signedDigits (body.filter (· ≠ '_'))).toOption.join

end SketchPanel.Number

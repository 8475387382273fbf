/-
Colour specifiers as the image library reads them (`ImageColor.getrgb`): a name; a hash and three, four, six or eight
hex digits; channels as numbers or as percentages; hue with saturation and lightness or value. Case does not count, and
a line end may follow.
-/
import SketchPanel.Colour.Hsl
import SketchPanel.Imaging.Names
import SketchPanel.Number.Numeral
import SketchPanel.Text.Case
import SketchPanel.Text.Quoted

namespace SketchPanel.Imaging

open Text Number Colour

/-- a specifier that names no colour -/
inductive SpecifierFault where
  | tooLong
  /-- the text in lower case -/
  | unknown (text : String)
  | number (fault : Scalar.Fault)
  deriving DecidableEq

/-- what is said of a specifier that names no colour -/
def SpecifierFault.message : SpecifierFault → String
  | .tooLong => "color specifier is too long"
  | .unknown text => "unknown color specifier: " ++ quoted text
  | .number fault => fault.message

/-- channels, and the opacity if it was given -/
structure Specified where
  rgb : Rgb
  alpha : Option Int
  deriving DecidableEq, Repr

/-- whether nothing but one line end is left -/
def atEnd : List Char → Bool
  | [] => true
  | ['\n'] => true
  | _ => false

/-- a whole number -/
def wholeField (text : List Char) : Option (Nat × List Char) :=
  (run? isDigit text).map fun (digits, rest) => (digitsNumber digits, rest)

/-- a whole number of per cent -/
def percentField (text : List Char) : Option (Nat × List Char) := do
  let (n, rest) ← wholeField text
  return (n, ← after? ['%'] rest)

/-- digits, which a point and more digits may follow -/
def decimalField (text : List Char) : Option (Float × List Char) := do
  let (digits, rest) ← run? isDigit text
  match rest with
  | '.' :: more =>
    let x ← unsignedDecimal? false (digits ++ '.' :: more.takeWhile isDigit)
    return (x, more.dropWhile isDigit)
  | _ => return (← unsignedDecimal? false digits, rest)

/-- such a number of per cent -/
def decimalPercentField (text : List Char) : Option (Float × List Char) := do
  let (x, rest) ← decimalField text
  return (x, ← after? ['%'] rest)

/-- fields between brackets with commas between them and blanks around each, up to the end of the text -/
def fields {α : Type} : List (List Char → Option (α × List Char)) → List Char → Option (List α)
  | [], _ => none
  | [field], text => do
    let (x, rest) ← field (trimStart text)
    let rest ← token? [')'] rest
    if atEnd rest then return [x] else none
  | field :: more, text => do
    let (x, rest) ← field (trimStart text)
    let rest ← token? [','] rest
    return x :: (← fields more rest)

/-- a hash and hex digits, each standing for itself or for a pair -/
def hashed? (text : List Char) : Option Specified :=
  match text with
  | '#' :: rest =>
    let digits := rest.takeWhile isHexDigit
    let pairs : Option (List Int) :=
      if digits.length = 3 ∨ digits.length = 4 then some (digits.map fun d => (hexNumber [d, d] : Int))
      else if digits.length = 6 ∨ digits.length = 8 then
        some ([0, 2, 4, 6].filterMap fun k =>
          if k < digits.length then some (hexNumber ((digits.drop k).take 2) : Int) else none)
      else none
    if atEnd (rest.dropWhile isHexDigit) then
      match pairs with
      | some [r, g, b] => some ⟨⟨r, g, b⟩, none⟩
      | some [r, g, b, a] => some ⟨⟨r, g, b⟩, some a⟩
      | _ => none
    else none
  | _ => none

/-- a channel from nought to one on the scale to 255, halves going up -/
def scaleUp (x : Float) : Except Scalar.Fault Int := (Scalar.real (x * 255 + 0.5)).truncate

/-- a percentage on the scale to 255, halves going up -/
def percentByte (n : Nat) : Except Scalar.Fault Int := do
  (Scalar.real ((← (Scalar.whole (n * 255 : Nat)).toFloat) / 100.0 + 0.5)).truncate

/-- the forms that look like calls; none if the text has none of them -/
def called? (text : List Char) : Option (Except Scalar.Fault Specified) :=
  match (after? "rgb(".toList text).bind (fields [wholeField, wholeField, wholeField]) with
  | some [r, g, b] => some (.ok ⟨⟨r, g, b⟩, none⟩)
  | _ =>
  match (after? "rgb(".toList text).bind (fields [percentField, percentField, percentField]) with
  | some [r, g, b] => some (do return ⟨⟨← percentByte r, ← percentByte g, ← percentByte b⟩, none⟩)
  | _ =>
  match (after? "hsl(".toList text).bind (fields [decimalField, decimalPercentField, decimalPercentField]) with
  | some [h, s, l] => some (do
      let (r, g, b) ← hslChannels (h / 360.0) (.real (l / 100.0)) (.real (s / 100.0))
      return ⟨⟨← scaleUp (← r.toFloat), ← scaleUp (← g.toFloat), ← scaleUp (← b.toFloat)⟩, none⟩)
  | _ =>
  match ((after? "hsb(".toList text).orElse fun _ => after? "hsv(".toList text).bind
      (fields [decimalField, decimalPercentField, decimalPercentField]) with
  | some [h, s, v] => some (do
      let (r, g, b) ← hsvChannels (h / 360.0) (s / 100.0) (v / 100.0)
      return ⟨⟨← scaleUp r, ← scaleUp g, ← scaleUp b⟩, none⟩)
  | _ =>
  match (after? "rgba(".toList text).bind (fields [wholeField, wholeField, wholeField, wholeField]) with
  | some [r, g, b, a] => some (.ok ⟨⟨r, g, b⟩, some a⟩)
  | _ => none

/-- reads a specifier -/
def specifier (text : String) : Except SpecifierFault Specified :=
  if 100 < text.length then .error .tooLong
  else
    let low := lower text
    match named? low with
    | some value => .ok ⟨⟨(value / 65536 : Nat), (value / 256 % 256 : Nat), (value % 256 : Nat)⟩, none⟩
    | none =>
      match hashed? low.toList with
      | some found => .ok found
      | none =>
        match called? low.toList with
        | some (.ok found) => .ok found
        | some (.error fault) => .error (.number fault)
        | none => .error (.unknown low)

end SketchPanel.Imaging

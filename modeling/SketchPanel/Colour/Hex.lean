/-
Colours written in hex (`hex_to_rgb`, `hex_to_packed`, `split_alpha`): six digits of either case, two more for the
opacity if wanted, a hash in front or not, and blanks around it all.
-/
import SketchPanel.Colour.Packed
import SketchPanel.Number.Scalar
import SketchPanel.Text.Scan
import SketchPanel.Text.Quoted

namespace SketchPanel.Colour

open SketchPanel.Text SketchPanel.Number

/-- a text that is no colour -/
inductive Fault where
  /-- it is not in hex -/
  | notHex (text : String)
  /-- it is neither in hex nor a known specifier -/
  | unknown (text : String)
  deriving DecidableEq, Repr

/-- what is said of a text that is no colour -/
def Fault.message : Fault → String
  | .notHex text => "Invalid hex color: " ++ quoted text
  | .unknown text => "Unknown color: " ++ quoted text

/-- a colour written in hex, its digits as they stand -/
structure HexText where
  digits : List Char
  /-- the digits of the opacity, none standing for opaque -/
  opacity : List Char
  deriving DecidableEq, Repr

/-- reads a colour in hex -/
def hexText? (text : List Char) : Option HexText :=
  let body := match trim text with
    | '#' :: rest => rest
    | other => other
  let digits := body.take 6
  let opacity := body.drop 6
  if digits.length = 6 ∧ (opacity.length = 0 ∨ opacity.length = 2) ∧ body.all isHexDigit then
    some ⟨digits, opacity⟩
  else none

namespace HexText

/-- the channels that six digits spell -/
def rgb (t : HexText) : Rgb :=
  let value := hexNumber t.digits
  ⟨(value / 65536 % 256 : Nat), (value / 256 % 256 : Nat), (value % 256 : Nat)⟩

/-- the opacity as a byte -/
def alpha (t : HexText) : Nat := if t.opacity = [] then 255 else hexNumber t.opacity

/-- the colour without its opacity, in lower case and with a hash -/
def opaqueText (t : HexText) : String :=
  .ofList ('#' :: t.digits.map fun d => hexDigit ((hexValue d).getD 0))

end HexText

/-- the channels of a colour in hex -/
def hexToRgb (text : String) : Except Fault Rgb :=
  match hexText? text.toList with
  | some t => .ok t.rgb
  | none => .error (.notHex text)

/-- the packed form of a colour in hex -/
def hexToPacked (text : String) : Except Fault Int := (hexToRgb text).map pack

/-- a colour in hex without its opacity, and the opacity as a byte -/
def splitAlpha (text : String) : Except Fault (String × Nat) :=
  match hexText? text.toList with
  | some t => .ok (t.opaqueText, t.alpha)
  | none => .error (.notHex text)

/-- a byte of opacity as a share of one -/
def opacityShare (alpha : Nat) : Float := Float.ofNat alpha / 255

end SketchPanel.Colour

/-
Colour arguments of a sketch (`resolve_color_expression`). A constant of the panel library is looked up by name; a call
gives three channels; a hexadecimal or decimal numeral is a packed colour. Anything else is black.
-/
import SketchPanel.Colour.Constant
import SketchPanel.Colour.Hex
import SketchPanel.Number.Numeral

namespace SketchPanel.Colour

open SketchPanel.Text SketchPanel.Number

/-- what a colour argument turned out to be -/
inductive Resolution where
  | colour (hex : String)
  /-- it looks like a constant but is none -/
  | unknownConstant (name : String)
  /-- it has no known form -/
  | unrecognised (text : String)
  deriving DecidableEq, Repr

/-- the colour that a resolution stands for -/
def Resolution.hex : Resolution → String
  | .colour hex => hex
  | _ => black

/-- three numerals in a call of `rgbToHex` -/
def channelCall (_ : Option Char) (text : List Char) : Option ((List Char × List Char × List Char) × List Char) := do
  let text ← after? "rgbToHex".toList text
  let text ← token? ['('] text
  let (r, text) ← run? isDigit (trimStart text)
  let text ← token? [','] text
  let (g, text) ← run? isDigit (trimStart text)
  let text ← token? [','] text
  let (b, text) ← run? isDigit (trimStart text)
  let text ← token? [')'] text
  return ((r, g, b), text)

/-- the digits of a numeral in base sixteen -/
def hexLiteral? : List Char → Option (List Char)
  | '0' :: x :: d :: digits =>
    if (x = 'x' ∨ x = 'X') ∧ (d :: digits).all isHexDigit then some (d :: digits) else none
  | _ => none

/-- what a colour argument stands for; a decimal run may be too long to read -/
def resolution (expression : List Char) : Except TooLong Resolution :=
  let text := trim expression
  if (after? "TFT_".toList text).isSome then
    match constant? (.ofList text) with
    | some code => .ok (.colour (packedToHex code))
    | none => .ok (.unknownConstant (.ofList text))
  else
    match search channelCall none text with
    | some ((r, g, b), _) => do
      let rgb : Rgb := ⟨← readDigits r, ← readDigits g, ← readDigits b⟩
      return .colour (toHex rgb)
    | none =>
      match hexLiteral? text with
      | some digits => .ok (.colour (packedToHex (hexNumber digits)))
      | none =>
        if text ≠ [] ∧ text.all isDigit then do
          return .colour (packedToHex (← readDigits text))
        else .ok (.unrecognised (.ofList text))

end SketchPanel.Colour

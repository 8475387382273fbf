/-
Drawing styles (`SurfaceState`, `parse_font`): paints, line, font and text placement, as the words a surface takes. A
paint may be any value; whether it is a colour is seen once something is painted with it.
-/
import SketchPanel.Json.Plain
import SketchPanel.Number.Numeral
import SketchPanel.Number.Scalar

namespace SketchPanel.Surface

open SketchPanel.Text SketchPanel.Number

/-- the part of a surface that is saved and restored -/
structure Style where
  fill : Json := .str "#000000"
  stroke : Json := .str "#000000"
  lineWidth : Scalar := .real 1.0
  lineDash : List Scalar := []
  font : String := "10px sans-serif"
  textAlign : String := "left"
  textBaseline : String := "alphabetic"

/-! ## Fonts -/

/-- size in pixels and family -/
structure Font where
  size : Float
  family : String

/-- the font where none can be read -/
def Font.fallback : Font := ⟨10.0, "sans-serif"⟩

/-- digits, with a point and more digits if both are there -/
def fontSize? (text : List Char) : Option (List Char × List Char) := do
  let (whole, rest) ← run? isDigit text
  match rest with
  | '.' :: more =>
    match run? isDigit more with
    | some (part, after) => return (whole ++ '.' :: part, after)
    | none => return (whole, rest)
  | _ => return (whole, rest)

/-- one line end less, if the text ends with one -/
def withoutLineEnd (text : List Char) : List Char :=
  match text.reverse with
  | '\n' :: rest => rest.reverse
  | _ => text

/-- size and family of a font text, the family as it stands -/
def fontParts? (text : List Char) : Option (List Char × List Char) := do
  let (size, rest) ← fontSize? (trimStart text)
  let family := withoutLineEnd (trimStart (← after? ['p', 'x'] rest))
  if family.contains '\n' then none else some (size, family)

/-- reads a font text such as `16px Arial, sans-serif` -/
def Font.read (text : String) : Font :=
  match fontParts? text.toList with
  | none => .fallback
  | some (size, family) =>
    ⟨(unsignedDecimal? false size).getD Font.fallback.size,
      if trim family = [] then Font.fallback.family else .ofList (trim family)⟩

/-- writes a font text -/
def Font.text (size family : Json) : String := size.plain ++ "px " ++ family.plain

end SketchPanel.Surface

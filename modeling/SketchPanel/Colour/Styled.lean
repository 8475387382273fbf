/-
Colours as styles name them (`color_to_hex`, `to_rgba`): in hex with blanks around it, or by a specifier.
-/
import SketchPanel.Colour.Hex
import SketchPanel.Imaging.Specifier

namespace SketchPanel.Colour

open Text Number Imaging

/-- the opaque hex form of a colour in hex or of a specifier, blanks around it apart -/
def opaqueHex (text : String) : Except Fault String :=
  match hexText? text.toList with
  | some t => .ok t.opaqueText
  | none =>
    match specifier (.ofList (trim text.toList)) with
    | .ok found => .ok (toHex found.rgb)
    | .error _ => .error (.unknown text)

/-- a share of one as a byte of opacity, rounded -/
def opacityByte (share : Float) : Except Scalar.Fault Int := (Scalar.real (share * 255)).round

/-- the colour and opacity that a style names: a colour in hex is parted from its opacity, and what is left of it is a
specifier; any other style is a specifier as it stands -/
def toRgba (style : String) : Except SpecifierFault Rgba :=
  match splitAlpha style with
  | .ok (colour, alpha) => do
    let found ← specifier colour
    return ⟨found.rgb, ← (opacityByte (opacityShare alpha)).mapError .number⟩
  | .error _ => do
    let found ← specifier style
    return ⟨found.rgb, found.alpha.getD 255⟩

end SketchPanel.Colour

/-
Colours by hue, saturation and lightness (`hsl_to_hex`), and by hue, saturation and value. The hue counts in turns; the
other two run from nought to one.
-/
import SketchPanel.Colour.Rgb
import SketchPanel.Number.Scalar

namespace SketchPanel.Colour

open SketchPanel.Number SketchPanel.Text

/-- one channel between two levels, by the hue that is its own peak -/
def hueChannel (low : Float) (high : Scalar) (hue : Float) : Except Scalar.Fault Scalar := do
  let h := remainder hue 1.0
  let top ← high.toFloat
  if h < 1.0 / 6.0 then return .real (low + (top - low) * h * 6.0)
  else if h < 0.5 then return high
  else if h < 2.0 / 3.0 then return .real (low + (top - low) * (2.0 / 3.0 - h) * 6.0)
  else return .real low

/-- the channels, from nought to one, of a hue in turns with lightness and saturation -/
def hslChannels (hue : Float) (lightness saturation : Scalar) : Except Scalar.Fault (Scalar × Scalar × Scalar) := do
  if saturation.same (.whole 0) then return (lightness, lightness, lightness)
  let high ←
    if lightness.le (.real 0.5) then lightness.mul (← (Scalar.real 1.0).add saturation)
    else (← lightness.add saturation).sub (← lightness.mul saturation)
  let low := 2.0 * (← lightness.toFloat) - (← high.toFloat)
  return (← hueChannel low high (hue + 1.0 / 3.0), ← hueChannel low high hue, ← hueChannel low high (hue - 1.0 / 3.0))

/-- the channels, from nought to one, of a hue in turns with saturation and value -/
def hsvChannels (hue saturation value : Float) : Except Scalar.Fault (Float × Float × Float) := do
  if saturation == 0.0 then return (value, value, value)
  let sector ← (Scalar.real (hue * 6.0)).truncate
  let f := hue * 6.0 - (← (Scalar.whole sector).toFloat)
  let p := value * (1.0 - saturation)
  let q := value * (1.0 - saturation * f)
  let t := value * (1.0 - saturation * (1.0 - f))
  return match sector % 6 with
    | 0 => (value, t, p)
    | 1 => (q, value, p)
    | 2 => (p, value, t)
    | 3 => (p, q, value)
    | 4 => (t, p, value)
    | _ => (value, p, q)

/-- a channel from nought to one on the scale to 255, rounded -/
def channelByte (c : Scalar) : Except Scalar.Fault Int := do (← c.mul (.whole 255)).round

/-- the hue in degrees as a turn from nought to below one -/
def degreesToTurn : Scalar → Except Scalar.Fault Float
  | .whole n => return (← (Scalar.whole (n % 360)).toFloat) / 360.0
  | .real x => return remainder x 360.0 / 360.0

/-- a share cut off at nought and one, on the scale to 255 -/
def shareByte (share : Scalar) : Except Scalar.Fault Int :=
  channelByte (Scalar.smaller (.real 1.0) (Scalar.larger (.real 0.0) share))

/-- hue in degrees, saturation and lightness in hex, with two digits of opacity if it is given -/
def hslToHex (hue saturation lightness : Scalar) (opacity : Option Scalar) : Except Scalar.Fault String := do
  let (r, g, b) ← hslChannels (← degreesToTurn hue) lightness saturation
  let colour := toHex ⟨← channelByte r, ← channelByte g, ← channelByte b⟩
  match opacity with
  | none => return colour
  | some share => return colour ++ .ofList (hexByte (← shareByte share))

end SketchPanel.Colour

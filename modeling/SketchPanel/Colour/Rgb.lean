/-
Colours by channel (`rgb_to_hex`). A channel is a whole number of any size; written as hex, it counts modulo 256.
-/
import SketchPanel.Text.Digit

namespace SketchPanel

/-- red, green and blue -/
structure Rgb where
  red : Int
  green : Int
  blue : Int
  deriving DecidableEq, Repr

/-- a colour with its opacity, 255 being opaque -/
structure Rgba where
  rgb : Rgb
  alpha : Int
  deriving DecidableEq, Repr

namespace Colour

open SketchPanel.Text

/-- a number modulo 256 -/
def byte (n : Int) : Nat := (n % 256).toNat

/-- two hexadecimal digits for a channel -/
def hexByte (n : Int) : List Char := hexPadded 2 (byte n)

/-- the six digits of a colour -/
def hexDigits (c : Rgb) : List Char := hexByte c.red ++ hexByte c.green ++ hexByte c.blue

/-- the colour in lower-case hex, after a hash -/
def toHex (c : Rgb) : String := .ofList ('#' :: hexDigits c)

/-- the colour of a cleared panel -/
def black : String := "#000000"

theorem byte_lt (n : Int) : byte n < 256 := by unfold byte; omega

end Colour

end SketchPanel

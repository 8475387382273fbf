/-
Packed colours (`packed_to_rgb`, `rgb_to_packed`): five bits of red, six of green and five of blue in one word.
Unpacking scales a field so that its largest value becomes 255, rounding to the nearest; packing drops the low bits.
-/
import SketchPanel.Colour.Rgb
import SketchPanel.Number.Binary

namespace SketchPanel.Colour

open SketchPanel.Number

/-- a field whose largest value is `top`, scaled to 0 .. 255 -/
def widen (top field : Nat) : Nat := roundHalfEven (field * 255) top

/-- the channels of a packed colour; bits above the sixteenth do not count -/
def unpack (code : Int) : Rgb :=
  let word := (code % 65536).toNat
  ⟨widen 31 (word / 2048 % 32), widen 63 (word / 32 % 64), widen 31 (word % 32)⟩

/-- the packed form of a colour, each channel without its low bits -/
def pack (c : Rgb) : Int :=
  c.red / 8 % 32 * 2048 + c.green / 4 % 64 * 32 + c.blue / 8 % 32

/-- a packed colour in hex -/
def packedToHex (code : Int) : String := toHex (unpack code)

end SketchPanel.Colour

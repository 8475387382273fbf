/-
The font of the image library (`ImageDraw.textlength`, `ImageDraw.textbbox`, `ImageFont.getmetrics`). How wide and how
high its texts are is known to the library alone: the measures are left open, and what is proved of frames holds for any.
They are an inferred argument, so that programs and runs need not pass them on.
-/
import SketchPanel.Imaging.Image

namespace SketchPanel.Imaging

open Number

/-- what the font tells of texts, by its size in pixels; it may refuse -/
class Metrics where
  /-- how far a text runs -/
  length (size : Int) (text : String) : Except Fault Float
  /-- the upper and the lower edge of a text that starts at the origin -/
  edges (size : Int) (text : String) : Except Fault (Scalar × Scalar)
  /-- how far the font rises over the line that its texts stand on -/
  ascent (size : Int) : Except Fault Scalar

/-- a font whose characters are half as wide as it is high; they begin a quarter of the height down, and stand on a line at
three quarters -/
@[reducible] def Metrics.halves : Metrics :=
  let measured (size : Int) : Except Fault Float :=
    (Scalar.whole size).toFloat.mapError fun fault => .unmeasured fault.kind fault.message
  { length := fun size text => do return 0.5 * (← measured size) * Float.ofNat text.length
    edges := fun size _ => do return (.real (0.25 * (← measured size)), .whole size)
    ascent := fun size => do return .real (0.75 * (← measured size)) }

end SketchPanel.Imaging

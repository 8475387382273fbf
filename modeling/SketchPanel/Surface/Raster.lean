/-
The raster sheet (`PillowSurface`). Rectangles are painted on an image of the image library. Polygons, lines and texts
are only written down, in the order in which they are drawn, together with the rectangles.
-/
import SketchPanel.Imaging.Metrics
import SketchPanel.Surface.Dash
import SketchPanel.Surface.Style

namespace SketchPanel.Surface

open SketchPanel.Number SketchPanel.Imaging

/-! ## Image -/

/-- a side of an image, one unless a larger number is asked for -/
def side (size : Json) : Except Json.Mismatch Scalar := do
  let n ← size.ordered ">"
  return if (1 : Scalar).lt n then n else 1

/-- a black image of a size that may be any value -/
def imageSized (width height : Json) : Except Fault Image := do
  let width ← (side width).mapError .mismatch
  let height ← (side height).mapError .mismatch
  (Image.create width height).mapError .imaging

/-! ## Records -/

/-- a place in floating numbers -/
abbrev Place := Float × Float

/-- what was drawn -/
inductive Stroke where
  | rectangle (x0 y0 x1 y1 : Int) (colour : Rgba)
  | polygon (points : List Place) (colour : Rgba)
  | line (points : List Place) (colour : Rgba) (width : Int)
  | text (anchor : Place) (content : String) (colour : Rgba) (size : Int)
  | resize (width height : Json)

/-- a point in floating numbers -/
def place (p : Point) : Except Fault Place := do return (← reckon p.1.toFloat, ← reckon p.2.toFloat)

/-! ## Drawing -/

/-- the filled rectangle of corner and extents, rounded to pixels: the ink, and what is written down of it. Its far
edges lie one pixel before those of the next rectangle. -/
def filledBox (style : Style) (x y width height : Scalar) : Except Fault (Layer × Except Fault Stroke) := do
  let x0 ← reckon x.round
  let y0 ← reckon y.round
  let x1 := (← reckon (do (← x.add width).round)) - 1
  let y1 := (← reckon (do (← y.add height).round)) - 1
  let colour ← inkOf style.fill
  let (ink, kept) ← (filled x0 y0 x1 y1 colour).mapError .imaging
  return (ink, (kept.mapError .imaging).map fun _ => .rectangle x0 y0 x1 y1 colour)

/-- the cleared rectangle of corner and extents, cut off at the image; none if nothing is left -/
def clearedBox (image : Image) (x y width height : Scalar) : Except Fault (Option Layer) := reckon do
  let x0 := max 0 (← x.truncate)
  let y0 := max 0 (← y.truncate)
  let x1 := min image.width (← (← x.add width).truncate)
  let y1 := min image.height (← (← y.add height).truncate)
  return if x0 < x1 ∧ y0 < y1 then some (.clear x0 y0 x1 y1) else none

/-- whether two coordinates are one; the undefined one is itself, but worked out anew it is like no other -/
def sameCoordinate (given : Bool) (a b : Scalar) : Bool := a.same b || (given && a.undefined && b.undefined)

/-- whether two points are one -/
def samePoint (given : Bool) (p q : Point) : Bool := sameCoordinate given p.1 q.1 && sameCoordinate given p.2 q.2

/-- a polyline that comes back to its start if it is closed -/
def rounded (s : SubPath) : List Point :=
  match s.points, s.points.getLast? with
  | first :: _, some last =>
    if s.closed && !samePoint (!s.arcFirst && !s.arcLast) first last then s.points ++ [first] else s.points
  | points, _ => points

/-- width of a line in pixels, at least one -/
def penWidth (style : Style) : Except Fault Int := do return max 1 (← reckon style.lineWidth.round)

/-- places of points -/
def places (points : List Point) : Except Fault (List Place) := points.mapM place

/-- the dashes of a polyline with ink and pen -/
def strokedDashes (style : Style) (s : SubPath) : Except Fault (List (List Point) × Rgba × Int) := do
  if s.points.length < 2 then return ([], ⟨⟨0, 0, 0⟩, 0⟩, 1)
  let colour ← inkOf style.stroke
  let width ← penWidth style
  return (← dashes (rounded s) style.lineDash, colour, width)

/-- size of a font in pixels, at least one -/
def fontPixels (style : Style) : Except Fault Int := do
  return max 1 (← reckon (Scalar.real (Font.read style.font).size).round)

/-! ## Texts -/

section

variable [Metrics]

/-- the width of a text -/
def glyphWidth (style : Style) (text : String) : Except Fault Float := do
  (Metrics.length (← fontPixels style) text).mapError .imaging

/-- how far a text is moved up so that its baseline comes to stand where it should -/
def rise (baseline : String) (size : Int) (top bottom : Scalar) : Except Fault Scalar :=
  if baseline = "top" then .ok top
  else if baseline = "middle" then reckon do (← top.add bottom).half
  else if baseline = "bottom" then .ok bottom
  else (Metrics.ascent size).mapError .imaging

/-- a text at its anchor, moved by its alignment and baseline -/
def placedText (style : Style) (text : String) (x y : Scalar) : Except Fault Stroke := do
  let size ← fontPixels style
  let (top, bottom) ← (Metrics.edges size text).mapError .imaging
  let width ← (Metrics.length size text).mapError .imaging
  let x ←
    if style.textAlign = "center" then reckon (x.sub (.real (width / 2)))
    else if style.textAlign = "right" ∨ style.textAlign = "end" then reckon (x.sub (.real width))
    else pure x
  let y ← reckon (y.sub (← rise style.textBaseline size top bottom))
  let colour ← inkOf style.fill
  return .text (← place (x, y)) text colour size

end

end SketchPanel.Surface

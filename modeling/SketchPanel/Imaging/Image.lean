/-
Images of the image library (`Image.new`, `Image.paste`, `Image.getpixel`, `ImageDraw.rectangle`): which sizes there
are, how a filled rectangle and a cleared one change a pixel, and what is read at an index. An image is the sequence of
what was laid on a black ground, and the colour of a pixel is found by laying the same things on that pixel. The library
holds numbers in registers, and what does not fit is refused, wrapped or cut, as each function has it.

The image library is not part of what is modelled. All that is assumed of it stands in `Imaging`:
- `Image.create`: a new image is black, its sides fit thirty-two bits, and none is wider than `widest`;
- `filled`: ink on a rectangle, its far edges included, blends into each pixel (`blend`); inverted corners, channels
  that do not fit (`inkable`) and corners that are lost (`border`) are refused, the last after the painting;
- `Layer.clear`: black laid on a rectangle, its far edges left out;
- `Image.read`: the pixel at an index, which may count from the end;
- `Imaging.Metrics`: texts have a length and edges, and a font an ascent. What these are is left open;
- `Imaging.specifier`, `Imaging.namedColours`: which texts name a colour;
- `Imaging.formFault?`: which endings of a path name a form that can be written.
Polygons, lines and glyphs leave no pixels here: a raster sheet writes down that they are drawn.
-/
import SketchPanel.Colour.Rgb
import SketchPanel.Json.Loose
import SketchPanel.Number.Register

namespace SketchPanel.Imaging

open Number

/-! ## Refusals -/

/-- reasons why the library refuses what it is asked -/
inductive Fault where
  /-- a rectangle whose far edge lies before its near edge, sideways or downwards -/
  | inverted (sideways : Bool)
  /-- a channel of an ink or a side of an image that does not fit -/
  | overflow (fault : Overflow)
  /-- a side that is no whole number -/
  | mismatch (fault : Json.Mismatch)
  /-- an image wider than any -/
  | tooWide
  /-- the corner of a rectangle that sixty-four bits do not hold; it shows after the painting -/
  | cornerLost
  /-- no pixel at an index -/
  | noPixel
  /-- the index of a pixel that sixty-four bits do not hold; it shows if there is a pixel all the same -/
  | indexLost
  /-- a text that is not measured, in the words of the font -/
  | unmeasured (kind message : String)

/-- the word for the kind of a refusal -/
def Fault.kind : Fault → String
  | .inverted _ => "ValueError"
  | .overflow _ => "OverflowError"
  | .mismatch fault => fault.kind
  | .tooWide => "MemoryError"
  | .cornerLost | .indexLost => "SystemError"
  | .noPixel => "IndexError"
  | .unmeasured kind _ => kind

/-- what is said of an operation that is over before its fault shows -/
def unanswered (operation owner : String) : String :=
  "<method '" ++ operation ++ "' of '" ++ owner ++ "' objects> returned a result with an exception set"

/-- what is said of a refusal -/
def Fault.message : Fault → String
  | .inverted true => "x1 must be greater than or equal to x0"
  | .inverted false => "y1 must be greater than or equal to y0"
  | .overflow fault => fault.message
  | .mismatch fault => fault.message
  | .tooWide => ""
  | .cornerLost => unanswered "draw_rectangle" "ImagingDraw"
  | .noPixel => "image index out of range"
  | .indexLost => unanswered "getpixel" "ImagingCore"
  | .unmeasured _ message => message

/-! ## Layers and pixels -/

/-- something laid on the image -/
inductive Layer where
  /-- ink on a rectangle, its far edges included -/
  | ink (x0 y0 x1 y1 : Int) (colour : Rgba)
  /-- black on a rectangle, its far edges left out -/
  | clear (x0 y0 x1 y1 : Int)
  deriving DecidableEq, Repr

/-- a channel cut off at nought and 255 -/
def clip (channel : Int) : Nat := (max 0 (min 255 channel)).toNat

/-- a channel of ink over an old one, by opacity -/
def blend (old new alpha : Nat) : Nat :=
  let t := old * (255 - alpha) + new * alpha + 128
  (t / 256 + t) / 256

/-- red, green and blue of one pixel -/
structure Pixel where
  red : Nat
  green : Nat
  blue : Nat
  deriving DecidableEq, Repr

/-- the pixel of a black image -/
def Pixel.black : Pixel := ⟨0, 0, 0⟩

/-- a pixel under ink -/
def Pixel.under (p : Pixel) (c : Rgba) : Pixel :=
  let alpha := clip c.alpha
  ⟨blend p.red (clip c.rgb.red) alpha, blend p.green (clip c.rgb.green) alpha, blend p.blue (clip c.rgb.blue) alpha⟩

/-- the pixel at a place after a layer was laid there -/
def Layer.over (x y : Int) (p : Pixel) : Layer → Pixel
  | .ink x0 y0 x1 y1 colour => if x0 ≤ x ∧ x ≤ x1 ∧ y0 ≤ y ∧ y ≤ y1 then p.under colour else p
  | .clear x0 y0 x1 y1 => if x0 ≤ x ∧ x < x1 ∧ y0 ≤ y ∧ y < y1 then .black else p

/-! ## Images -/

/-- an image at least one pixel wide and high -/
structure Image where
  width : Int
  height : Int
  layers : List Layer
  deriving DecidableEq, Repr

/-- a black image -/
def Image.blank (width height : Int) : Image := ⟨max 1 width, max 1 height, []⟩

/-- a side in pixels: a whole number of thirty-two bits -/
def pixels : Scalar → Except Fault Int
  | .whole n => (narrow n).mapError .overflow
  | .real x => .error (.mismatch (.count (Json.kind (.real x))))

/-- the widest image -/
def widest : Int := 0x1FFFFFFE

/-- a new black image; there are none of some sizes -/
def Image.create (width height : Scalar) : Except Fault Image := do
  let width ← pixels width
  let height ← pixels height
  if widest < width then throw .tooWide
  return .blank width height

/-- the pixel at a place of the image -/
def Image.pixel (image : Image) (x y : Int) : Pixel := image.layers.foldl (Layer.over x y) .black

/-- the image with one more layer on it -/
def Image.lay (image : Image) (layer : Layer) : Image := { image with layers := image.layers ++ [layer] }

/-! ## Filled rectangles -/

/-- whether an ink can hold the channels of a colour: the first has sixty-four bits, any further one thirty-two -/
def inkable (c : Rgba) : Except Overflow Unit := do
  let _ ← wide c.rgb.red
  let _ ← narrow c.rgb.green
  let _ ← narrow c.rgb.blue
  let _ ← narrow c.alpha

/-- an edge of a filled rectangle as painting counts it; one that is lost counts as just before the first -/
def border (n : Int) : Int := if holds 64 n then leadingBits n else -1

/-- ink between edges, in pixels of thirty-two bits; the lower edge may come first -/
def inked (x0 y0 x1 y1 : Int) (colour : Rgba) : Layer :=
  .ink (cut x0) (min (cut y0) (cut y1)) (cut x1) (max (cut y0) (cut y1)) colour

/-- a rectangle filled up to its far edges: the ink, and the fault that shows once it is there -/
def filled (x0 y0 x1 y1 : Int) (colour : Rgba) : Except Fault (Layer × Except Fault Unit) := do
  (inkable colour).mapError .overflow
  if border x1 < border x0 then throw (.inverted true)
  if border y1 < border y0 then throw (.inverted false)
  return (inked (border x0) (border y0) (border x1) (border y1) colour,
    if [x0, y0, x1, y1].all (holds 64) then .ok () else .error .cornerLost)

/-! ## Reading pixels -/

/-- the pixel at an index; an index below nought counts from the end -/
def Image.pixel? (image : Image) (x y : Int) : Option Pixel :=
  let x := if x < 0 then x + image.width else x
  let y := if y < 0 then y + image.height else y
  if 0 ≤ x ∧ x < image.width ∧ 0 ≤ y ∧ y < image.height then some (image.pixel x y) else none

/-- whether sixty-four bits hold an index, or its whole part -/
def kept : Scalar → Bool
  | .whole n => holds 64 n
  | .real _ => true

/-- an index as it is looked up, in thirty-two bits; one that is lost is looked up as the last -/
def lookedUp : Scalar → Int
  | .whole n => if holds 64 n then wrapped n else -1
  | .real x => cutPart x

/-- the pixel that is read at an index -/
def Image.read (image : Image) (x y : Scalar) : Except Fault Pixel :=
  match image.pixel? (lookedUp x) (lookedUp y) with
  | none => .error .noPixel
  | some p => if kept x && kept y then .ok p else .error .indexLost

end SketchPanel.Imaging

/-
Elements made of drawing calls (`parse_command`). A call gets the next number whether or not it can be drawn; the number
is the end of the element's id, and its start tells the shape.
-/
import SketchPanel.Colour.Expression
import SketchPanel.Json.Loose
import SketchPanel.Log.Record
import SketchPanel.Log.Traced
import SketchPanel.Scene.Outline
import SketchPanel.Sketch.Drawing
import SketchPanel.Text.Quoted

namespace SketchPanel.Sketch

open SketchPanel.Text SketchPanel.Number SketchPanel.Scene

/-- what a sketch is read with, as the settings have it -/
structure Options where
  width : Json
  height : Json
  /-- what the names of drawing functions start with -/
  drawPrefix : Json
  /-- what a statement that draws holds -/
  apiPrefix : Json
  requiredInclude : Json
  textColour : Json
  fontSize : Json
  /-- how many lines after a touch test its assignment is looked for -/
  actionWindow : Json
  /-- the rotation of a sketch that sets none; only asked for once the screens are built -/
  rotation : Option Json

/-- the colour of an argument, with a note if it has none -/
def colourOf (argument : Line) : Traced Log.Record TooLong String := do
  let resolution ← Traced.lift (Colour.resolution argument)
  match resolution with
  | .colour _ => pure ()
  | .unknownConstant name => Traced.tell (Log.note Log.debug .colour ("Unknown TFT color constant: " ++ name))
  | .unrecognised text =>
    Traced.tell (Log.note Log.debug .colour
      ("Unrecognized color expression " ++ quoted text ++ ", using " ++ Colour.black))
  return resolution.hex

/-- the colour of an argument that may be missing or empty -/
def colourOf? : Option Line → Traced Log.Record TooLong (Option String)
  | some (c :: cs) => do return some (← colourOf (c :: cs))
  | _ => pure none

/-- an element of a shape and a number at a corner -/
def element (start : String) (number : Int) (x y : Int) (shape : Shape) : Element :=
  { id := start ++ toString number, x, y, shape, zIndex := shape.defaultZ }

/-- an element of a shape and a number in a box -/
def boxElement (start : String) (number : Int) (box : Box) (shape : Shape) : Element :=
  { element start number box.x box.y shape with width := some (.int box.width), height := some (.int box.height) }

/-- the element of a drawing call -/
def Drawing.element (o : Options) (number : Int) : Drawing → Traced Log.Record TooLong Element
  | .fillScreen colour => do
    let c ← colourOf colour
    return { Sketch.element "bg_" number 0 0 .rectangle with
      width := o.width.given?, height := o.height.given?, colour := some c, background := some c
      zIndex := zBackground }
  | .fillRect box colour => do
    let c ← colourOf colour
    return { boxElement "rect_" number box .rectangle with colour := some c, background := some c }
  | .fillRoundRect box radius colour stroke => do
    let fill ← colourOf colour
    let edge ← colourOf? stroke
    return { boxElement "roundrect_" number box (.roundedRectangle (some radius)) with
      colour := some (.str (edge.getD fill)), background := some fill }
  | .drawString text x y =>
    return { Sketch.element "text_" number x y (.text (.ofList text) o.fontSize.given? none (some .center) none) with
      colour := o.textColour.given? }
  | .drawRect box colour => do
    let c ← colourOf colour
    return { boxElement "rect_" number box .rectangle with colour := some c }
  | .drawRoundRect box radius colour _ => do
    let c ← colourOf colour
    return { boxElement "roundrect_" number box (.roundedRectangle (some radius)) with colour := some c }
  | .circle cx cy radius colour filled => do
    let c ← colourOf colour
    return { boxElement "circle_" number ⟨cx - radius, cy - radius, radius * 2, radius * 2⟩ (.circle (some radius)) with
      colour := some c, background := if filled then some c else none }
  | .drawLine x1 y1 x2 y2 colour => do
    let c ← colourOf colour
    return { Sketch.element "line_" number x1 y1 (.line (some x2) (some y2) (some 1)) with colour := some c }
  | .bitmap box colour => do
    let c ← colourOf? colour
    return { boxElement "bitmap_" number box .bitmap with colour := c.map .str }

/-- the element of a statement, none if it draws nothing; the line number is for the note that says so -/
def command (o : Options) (statement : Line) (number lineNumber : Int) :
    Traced Log.Record TooLong (Option Element) := do
  match ← Traced.lift (drawing? statement) with
  | some drawing => return some (← drawing.element o number)
  | none =>
    Traced.tell (Log.note Log.debug .extraction
      (s!"Line {lineNumber}: no drawable primitive in " ++ quoted (.ofList statement)))
    return none

end SketchPanel.Sketch

/-
Elements of a screen (`UIElement`): what every element has, and what its shape adds. The `z` order puts backgrounds
below shapes and shapes below texts. What an element may have from the settings is taken as it is: the size of a
full-screen fill, and the colour and size of a text.
-/
import SketchPanel.Scene.Field
import SketchPanel.Scene.Word

namespace SketchPanel

namespace Scene

/-- how a text stands to its anchor, sideways -/
inductive Align where
  | left
  | center
  | right
  deriving DecidableEq, Repr

/-- how a text stands to its anchor, up and down -/
inductive Baseline where
  | top
  | middle
  | bottom
  deriving DecidableEq, Repr

/-- the word for an alignment -/
def Align.word : Align → String
  | .left => "left"
  | .center => "center"
  | .right => "right"

/-- the word for a baseline -/
def Baseline.word : Baseline → String
  | .top => "top"
  | .middle => "middle"
  | .bottom => "bottom"

/-- the alignment that a value is the word for -/
def Align.named : Json → Except NoWord Align := member "TextAlign" Align.word [.left, .center, .right]

/-- the baseline that a value is the word for -/
def Baseline.named : Json → Except NoWord Baseline := member "TextBaseline" Baseline.word [.top, .middle, .bottom]

/-- what a shape has of its own -/
inductive Shape where
  | rectangle
  | roundedRectangle (radius : Option Int)
  | circle (radius : Option Int)
  | text (content : String) (fontSize : Option Json) (font : Option String) (align : Option Align)
    (baseline : Option Baseline)
  /-- a picture, whose pixels are never read -/
  | bitmap
  | line (x2 y2 strokeWidth : Option Int)

/-- the word for a shape -/
def Shape.kind : Shape → String
  | .rectangle => "rectangle"
  | .roundedRectangle _ => "roundedRectangle"
  | .circle _ => "circle"
  | .text .. => "text"
  | .bitmap => "bitmap"
  | .line .. => "line"

def zBackground : Int := 0
def zShape : Int := 1
def zText : Int := 2

/-- where a shape stands in the `z` order unless said otherwise -/
def Shape.defaultZ : Shape → Int
  | .text .. => zText
  | _ => zShape

end Scene

/-- one drawable element -/
structure Element where
  id : String
  x : Int
  y : Int
  width : Option Json := none
  height : Option Json := none
  colour : Option Json := none
  background : Option String := none
  visible : Bool := true
  zIndex : Int := Scene.zShape
  shape : Scene.Shape

namespace Element

open Scene

/-- what the id of a full-screen fill starts with -/
def backgroundMark : List Char := ['b', 'g', '_']

/-- whether the element fills the whole screen -/
def isBackground (e : Element) : Bool := (Text.after? backgroundMark e.id.toList).isSome

/-- the colour of the first full-screen fill that has one -/
def firstFill? (elements : List Element) : Option String :=
  elements.findSome? fun e => if e.isBackground then e.background.filter (· ≠ "") else none

/-- the fields that a shape adds -/
def shapeFields : Shape → List (String × Option Json)
  | .rectangle => []
  | .bitmap => []
  | .roundedRectangle radius => [("radius", radius.map .int)]
  | .circle radius => [("radius", radius.map .int)]
  | .text content fontSize font align baseline => [
      ("text", some (.str content)), ("font_size", fontSize), ("font", font.map .str),
      ("text_align", align.map fun a => .str a.word), ("text_baseline", baseline.map fun b => .str b.word)]
  | .line x2 y2 strokeWidth => [
      ("x2", x2.map .int), ("y2", y2.map .int), ("stroke_width", strokeWidth.map .int)]

/-- the element in a document -/
def toJson (e : Element) : Json := .obj <| record ([
  ("id", some (.str e.id)), ("x", some (.int e.x)), ("y", some (.int e.y)),
  ("width", e.width), ("height", e.height), ("color", e.colour), ("background_color", e.background.map .str),
  ("visible", some (.bool e.visible)), ("z_index", some (.int e.zIndex))]
  ++ shapeFields e.shape ++ [("type", some (.str e.shape.kind))])

/-- the elements from the lowest to the highest, those of one height in their old order -/
def byHeight (elements : List Element) : List Element := elements.mergeSort fun a b => a.zIndex ≤ b.zIndex

end Element

end SketchPanel

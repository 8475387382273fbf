/-
How the shapes are drawn (`render_rectangle`, `render_rounded_rectangle`, `render_circle`, `render_text`,
`render_bitmap`, `render_line`). Each shape is a program for a surface: the fill first, then the outline if it has a
colour of its own. Sizes and colours may be any value; what counts as no counts as not given, and a size has to be a
number where it is first compared with nought.
-/
import SketchPanel.Scene.Element
import SketchPanel.Surface.Basic

namespace SketchPanel.Frame

open Number Surface Scene

/-- the word that stands for no fill -/
def noFill : String := "transparent"

/-- a text that is given and not empty -/
def given (text : Option String) : Option String := text.filter (· ≠ "")

/-- a value that is given and counts as yes -/
def meant (value : Option Json) : Option Json := value.filter (·.truthy)

/-- the colour of an outline: given, and other than the fill -/
def outlineColour (e : Element) : Option Json :=
  (meant e.colour).filter fun c => !(e.background.any fun fill => c.same fill)

/-- an operation whose numbers have to be worked out -/
def worked (op : Except Scalar.Fault Op) : Except Fault Op := reckon op

/-- fill and outline of a path -/
def painted (fill : Option String) (outline : Option Json) : Program :=
  (match fill with
    | some c => [.ok (.fillStyle c), .ok .fill]
    | none => [])
  ++ (match outline with
    | some c => [.ok (.strokeStyle c), .ok .stroke]
    | none => [])

/-- an extent, nought if missing -/
def extent (size : Option Json) : Json := (meant size).getD (.int 0)

/-- an operation on a rectangle of some size. The height is only looked at if the width leaves room for an inside. -/
def sized (op : Scalar → Scalar → Op) (width height : Json) : Except Fault Op :=
  match width.ordered "<=", height.ordered "<=" with
  | .ok w, .ok h => .ok (op w h)
  | .ok w, .error fault => if w.le 0 then .ok (op w 0) else .error (.mismatch fault)
  | .error fault, _ => .error (.mismatch fault)

/-- a rectangle -/
def rectangle (e : Element) : Program :=
  let box (op : Scalar → Scalar → Scalar → Scalar → Op) : Except Fault Op :=
    sized (op e.x e.y) (extent e.width) (extent e.height)
  (match given e.background with
    | some c => [.ok (.fillStyle c), box .fillRect]
    | none => [])
  ++ (match outlineColour e with
    | some c => [.ok (.strokeStyle c), box .strokeRect]
    | none => [])

/-- the radius of corners: at most half of each side, and nought for a box without an inside -/
def cornerRadius (radius : Int) (width height : Scalar) : Except Scalar.Fault Scalar := do
  if (0 : Scalar).lt width && (0 : Scalar).lt height then
    let halfWidth ← width.half
    let halfHeight ← height.half
    return Scalar.larger 0 (Scalar.smaller (Scalar.smaller radius halfWidth) halfHeight)
  else return 0

/-- the radius of corners unless given -/
def defaultRadius : Int := 5

/-- sides and corners of a rounded box, clockwise from the upper left corner -/
def roundedPath (left top right bottom r : Scalar) : Program :=
  let corner (cx cy : Except Scalar.Fault Scalar) (start stop : Scalar) : Except Fault Op := worked do
    return .arc (← cx) (← cy) r start stop false
  [ .ok .beginPath,
    worked do return .moveTo (← left.add r) top,
    worked do return .lineTo (← right.sub r) top,
    corner (right.sub r) (top.add r) (.real (-pi / 2)) 0,
    worked do return .lineTo right (← bottom.sub r),
    corner (right.sub r) (bottom.sub r) 0 (.real (pi / 2)),
    worked do return .lineTo (← left.add r) bottom,
    corner (left.add r) (bottom.sub r) (.real (pi / 2)) (.real pi),
    worked do return .lineTo left (← top.add r),
    corner (left.add r) (top.add r) (.real pi) (.real (3 * pi / 2)),
    .ok .closePath ]

/-- an extent as a number -/
def extentFor (sign : String) (size : Option Json) : Except Fault Scalar :=
  ((extent size).ordered sign).mapError .mismatch

/-- the outline of a rectangle with round corners -/
def roundedOutline (e : Element) (radius : Option Int) : Except Fault Program := do
  let width ← extentFor ">" e.width
  let height ← extentFor ">" e.height
  let r ← reckon (cornerRadius (radius.getD defaultRadius) width height)
  return roundedPath e.x e.y (← reckon ((Scalar.whole e.x).add width)) (← reckon ((Scalar.whole e.y).add height)) r

/-- a rectangle with round corners -/
def roundedRectangle (e : Element) (radius : Option Int) : Program :=
  match roundedOutline e radius with
  | .error fault => [.error fault]
  | .ok outline => outline ++ painted (given e.background) (outlineColour e)

/-- the radius of a circle: given and not nought, or half of the shorter side -/
def circleRadius (e : Element) (radius : Option Int) : Except Fault Scalar := do
  match radius.filter (· ≠ 0) with
  | some r => return .whole r
  | none => reckon (Scalar.smaller (← extentFor "<" e.width) (← extentFor "<" e.height)).half

/-- a circle in its box -/
def circle (e : Element) (radius : Option Int) : Program :=
  let outline : Except Fault Op := do
    let r ← circleRadius e radius
    return .arc (← reckon ((Scalar.whole e.x).add r)) (← reckon ((Scalar.whole e.y).add r)) r 0 (.real fullTurn) false
  match outline with
  | .error fault => [.error fault]
  | .ok arc =>
    [.ok .beginPath, .ok arc] ++ painted ((given e.background).filter (· ≠ noFill)) (outlineColour e)

/-- the size of a text unless given -/
def defaultFontSize : Json := .int 16

/-- the word a surface takes for an alignment -/
def alignWord (align : Option Align) : String := (align.getD .center).word

/-- the word a surface takes for a baseline -/
def baselineWord (baseline : Option Baseline) : String := (baseline.getD .middle).word

/-- the font of a text; the family is the renderer's unless given -/
def fontText (family : Json) (size : Option Json) (font : Option String) : String :=
  Font.text ((meant size).getD defaultFontSize) (((given font).map .str).getD family)

/-- a text at its anchor -/
def text (family : Json) (e : Element) (content : String) (size : Option Json) (font : Option String)
    (align : Option Align) (baseline : Option Baseline) : Program :=
  if content = "" then []
  else
    [.ok (.font (fontText family size font))]
    ++ (match meant e.colour with
      | some c => [.ok (.fillStyle c)]
      | none => [])
    ++ [.ok (.textAlign (alignWord align)), .ok (.textBaseline (baselineWord baseline)),
      .ok (.fillText content e.x e.y)]

/-- a side of a picture, 32 unless given and not nought -/
def bitmapSide (size : Option Json) : Json := (meant size).getD (.int 32)

/-- the middle between a coordinate and a number beyond it -/
def middle (start : Int) (size : Json) : Except Fault Scalar := do
  let n ← (size.ordered "<=").mapError .mismatch
  reckon do (Scalar.whole start).add (← n.half)

/-- a grey box with a caption in place of a picture -/
def bitmap (e : Element) : Program :=
  let width := bitmapSide e.width
  let height := bitmapSide e.height
  [ .ok (.fillStyle ((meant e.colour).getD "#cccccc")),
    sized (.fillRect e.x e.y) width height,
    .ok (.fillStyle "#666666"),
    .ok (.font "12px Arial"),
    .ok (.textAlign "center"),
    .ok (.textBaseline "middle"),
    do return .fillText "IMG" (← middle e.x width) (← middle e.y height) ]

/-- a line, if both of its ends are known -/
def line (e : Element) (x2 y2 strokeWidth : Option Int) : Program :=
  match x2, y2 with
  | some x2, some y2 =>
    [.ok .beginPath, .ok (.moveTo e.x e.y), .ok (.lineTo x2 y2)]
    ++ (match meant e.colour with
      | some c => [.ok (.strokeStyle c)]
      | none => [])
    ++ (match strokeWidth.filter (· ≠ 0) with
      | some width => [.ok (.lineWidth width)]
      | none => [])
    ++ [.ok .stroke]
  | _, _ => []

/-- the program of an element; the family is for texts that name no font -/
def program (family : Json) (e : Element) : Program :=
  match e.shape with
  | .rectangle => rectangle e
  | .roundedRectangle radius => roundedRectangle e radius
  | .circle radius => circle e radius
  | .text content size font align baseline => text family e content size font align baseline
  | .bitmap => bitmap e
  | .line x2 y2 strokeWidth => line e x2 y2 strokeWidth

end SketchPanel.Frame

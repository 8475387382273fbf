/-
The vector sheet (`SVGSurface`): what is drawn becomes marks of a picture in markup, in the order in which it is drawn.
Numbers have at most two places and no zeros that say nothing (`_fmt`).
-/
import SketchPanel.Number.Fixed
import SketchPanel.Surface.Path
import SketchPanel.Surface.Style

namespace SketchPanel.Surface

open SketchPanel.Number

/-! ## Attributes -/

/-- without zeros at the end, then without points at the end -/
def withoutIdleZeros (text : List Char) : List Char :=
  ((text.reverse.dropWhile (· = '0')).dropWhile (· = '.')).reverse

/-- a floating number in at most two places; there is no negative nought -/
def compactFloat (x : Float) : List Char :=
  let text := withoutIdleZeros (fixed 2 x)
  if text = ['-', '0'] then ['0'] else text

/-- a coordinate in at most two places -/
def compact (x : Scalar) : Except Fault String := do return .ofList (compactFloat (← reckon x.toFloat))

/-- names and values in the order in which they are written -/
abbrev Attributes := List (String × String)

/-- a paint by its text: the colour, and its opacity if it is not opaque; a text that is not in hex stays as it is -/
def paint (text name : String) : Attributes :=
  match Colour.splitAlpha text with
  | .error _ => [(name, text)]
  | .ok (colour, alpha) =>
    if Colour.opacityShare alpha < 1.0 then
      [(name, colour), (name ++ "-opacity", .ofList (compactFloat (Colour.opacityShare alpha)))]
    else [(name, colour)]

/-- the paint of a style, if it is a text -/
def painted (paint : Json) (name : String) : Except Fault Attributes := do return Surface.paint (← paintText paint) name

/-- the commands that draw one polyline -/
def subPathCommands (s : SubPath) : Except Fault (List String) := do
  match s.points with
  | [] => return []
  | first :: rest =>
    let command (letter : String) (p : Point) : Except Fault String := do
      let x ← compact p.1
      let y ← compact p.2
      return letter ++ x ++ " " ++ y
    let start ← command "M" first
    let lines ← rest.mapM (command "L")
    return start :: lines ++ (if s.closed then ["Z"] else [])

/-- the commands that draw a path -/
def pathData (path : Path) : Except Fault String := do
  return " ".intercalate (← path.mapM subPathCommands).flatten

/-! ## Marks -/

/-- one element of the picture -/
structure Mark where
  tag : String
  attributes : Attributes
  text : Option String := none
  deriving DecidableEq, Repr

/-- a character between tags -/
def textChar (c : Char) : String :=
  if c = '&' then "&amp;" else if c = '<' then "&lt;" else if c = '>' then "&gt;" else c.toString

/-- a character of an attribute -/
def attributeChar (c : Char) : String :=
  if c = '"' then "&quot;"
  else if c = '\r' then "&#13;"
  else if c = '\n' then "&#10;"
  else if c = '\t' then "&#09;"
  else textChar c

/-- a text with its special characters written out -/
def escape (one : Char → String) (text : String) : String := String.join (text.toList.map one)

/-- an opening tag, not yet ended -/
def openTag (tag : String) (attributes : Attributes) : String :=
  "<" ++ tag ++ String.join (attributes.map fun (name, value) =>
    " " ++ name ++ "=\"" ++ escape attributeChar value ++ "\"")

/-- the markup of a tag with what it holds -/
def tagged (tag : String) (attributes : Attributes) (inner : String) : String :=
  if inner.isEmpty then openTag tag attributes ++ " />"
  else openTag tag attributes ++ ">" ++ inner ++ "</" ++ tag ++ ">"

/-- the markup of a mark -/
def Mark.markup (m : Mark) : String := tagged m.tag m.attributes (escape textChar (m.text.getD ""))

/-- the picture of marks on a sheet of the given size -/
def picture (width height : Json) (marks : List Mark) : String :=
  tagged "svg" [("xmlns", "http://www.w3.org/2000/svg"), ("width", width.plain), ("height", height.plain),
    ("viewBox", "0 0 " ++ width.plain ++ " " ++ height.plain)] (String.join (marks.map Mark.markup))

/-! ## Drawing -/

/-- corner and extents as attributes -/
def boxAttributes (x y width height : Scalar) : Except Fault Attributes := do
  return [("x", ← compact x), ("y", ← compact y), ("width", ← compact width), ("height", ← compact height)]

/-- how a stroke is painted -/
def strokeAttributes (style : Style) : Except Fault Attributes := do
  let stroke ← painted style.stroke "stroke"
  let width ← compact style.lineWidth
  let dash ← style.lineDash.mapM compact
  return [("fill", "none")] ++ stroke ++ [("stroke-width", width)]
    ++ (if dash.isEmpty then [] else [("stroke-dasharray", " ".intercalate dash)])

/-- a cleared rectangle -/
def clearedMark (x y width height : Scalar) : Except Fault Mark := do
  return { tag := "rect", attributes := (← boxAttributes x y width height) ++ [("fill", "#000000")] }

/-- a filled rectangle -/
def filledMark (style : Style) (x y width height : Scalar) : Except Fault Mark := do
  return { tag := "rect", attributes := (← boxAttributes x y width height) ++ (← painted style.fill "fill") }

/-- an outlined rectangle -/
def outlinedMark (style : Style) (x y width height : Scalar) : Except Fault Mark := do
  return { tag := "rect", attributes := (← boxAttributes x y width height) ++ (← strokeAttributes style) }

/-- a filled path; a path without points leaves no mark -/
def filledPath (style : Style) (path : Path) : Except Fault (List Mark) := do
  let data ← pathData path
  if data.isEmpty then return []
  return [{ tag := "path", attributes := ("d", data) :: (← painted style.fill "fill") }]

/-- an outlined path; a path without points leaves no mark -/
def outlinedPath (style : Style) (path : Path) : Except Fault (List Mark) := do
  let data ← pathData path
  if data.isEmpty then return []
  return [{ tag := "path", attributes := ("d", data) :: (← strokeAttributes style) }]

/-- where a text's anchor stands, by the word for its alignment -/
def anchorWord (align : String) : String :=
  if align = "center" then "middle" else if align = "right" ∨ align = "end" then "end" else "start"

/-- the line a text stands on, by the word for its baseline -/
def baselineWord (baseline : String) : String :=
  if baseline = "top" then "text-before-edge"
  else if baseline = "middle" then "central"
  else if baseline = "bottom" then "text-after-edge"
  else "alphabetic"

/-- a text at its anchor -/
def textMark (style : Style) (text : String) (x y : Scalar) : Except Fault Mark := do
  let font := Font.read style.font
  return {
    tag := "text", text := some text
    attributes := [("x", ← compact x), ("y", ← compact y), ("font-size", ← compact (.real font.size)),
      ("font-family", font.family), ("text-anchor", anchorWord style.textAlign),
      ("dominant-baseline", baselineWord style.textBaseline)] ++ (← painted style.fill "fill") }

/-- the width of a text, each character counting three fifths of the font size -/
def estimatedWidth (style : Style) (text : String) : Float :=
  Float.ofNat text.length * (Font.read style.font).size * 0.6

end SketchPanel.Surface

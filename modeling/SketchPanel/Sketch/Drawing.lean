/-
Drawing calls (`recognize_fill_screen` to `recognize_bitmap`). Each form has a fixed number of arguments; coordinates
and extents are whole-number literals, colours stay as they are written. A line that calls the function with other
arguments has no drawing of that form.
-/
import SketchPanel.Number.Numeral
import SketchPanel.Sketch.Statement

namespace SketchPanel.Sketch

open SketchPanel.Text SketchPanel.Number

/-- corner and extents -/
structure Box where
  x : Int
  y : Int
  width : Int
  height : Int
  deriving DecidableEq, Repr

/-- a drawing call -/
inductive Drawing where
  | fillScreen (colour : Line)
  | fillRect (box : Box) (colour : Line)
  | drawRect (box : Box) (colour : Line)
  | fillRoundRect (box : Box) (radius : Int) (colour : Line) (stroke : Option Line)
  | drawRoundRect (box : Box) (radius : Int) (colour : Line) (stroke : Option Line)
  | drawString (text : Line) (x y : Int)
  | circle (cx cy radius : Int) (colour : Line) (filled : Bool)
  | drawLine (x1 y1 x2 y2 : Int) (colour : Line)
  | bitmap (box : Box) (colour : Option Line)
  deriving DecidableEq, Repr

/-- what a form makes of a line; a literal may be too long to read -/
abbrev Form := Line → Except TooLong (Option Drawing)

/-- the values of whole-number literals, none as soon as one is something else -/
def wholes : List Line → Except TooLong (Option (List Int))
  | [] => .ok (some [])
  | text :: texts => do
    match ← wholeLiteral text with
    | none => return none
    | some n => return (← wholes texts).map (n :: ·)

/-- a drawing made of the values of literals -/
def drawn (texts : List Line) (make : List Int → Option Drawing) : Except TooLong (Option Drawing) := do
  return (← wholes texts).bind make

/-- a drawing made of corner and extents -/
def boxed (texts : List Line) (make : Box → Drawing) : Except TooLong (Option Drawing) :=
  drawn texts fun
    | [x, y, width, height] => some (make ⟨x, y, width, height⟩)
    | _ => none

def fillScreen? : Form := fun line =>
  match arguments? line "fillScreen".toList with
  | some [colour] => .ok (some (.fillScreen colour))
  | _ => .ok none

/-- a rectangle under the given name -/
def rectangle? (name : String) (make : Box → Line → Drawing) : Form := fun line =>
  match arguments? line name.toList with
  | some [x, y, width, height, colour] => boxed [x, y, width, height] (make · colour)
  | _ => .ok none

def fillRect? : Form := rectangle? "fillRect" .fillRect

def drawRect? : Form := rectangle? "drawRect" .drawRect

/-- a rounded rectangle under the first of the names that is called -/
def roundRectangle? (make : Box → Int → Line → Option Line → Drawing) : List String → Form
  | [], _ => .ok none
  | name :: names, line =>
    let make' (texts : List Line) (colour : Line) (stroke : Option Line) :=
      drawn texts fun
        | [x, y, width, height, radius] => some (make ⟨x, y, width, height⟩ radius colour stroke)
        | _ => none
    match arguments? line name.toList with
    | none => roundRectangle? make names line
    | some [x, y, width, height, radius, colour] => make' [x, y, width, height, radius] colour none
    | some [x, y, width, height, radius, colour, stroke] => make' [x, y, width, height, radius] colour (some stroke)
    | some _ => .ok none

def fillRoundRect? : Form := roundRectangle? .fillRoundRect ["fillSmoothRoundRect", "fillRoundRect"]

def drawRoundRect? : Form := roundRectangle? .drawRoundRect ["drawSmoothRoundRect", "drawRoundRect"]

/-- a text literal that is not empty, with its anchor -/
def drawString? : Form := fun line =>
  let make (text x y : Line) : Except TooLong (Option Drawing) :=
    match textLiteral? text with
    | some (c :: cs) => drawn [x, y] fun
      | [x, y] => some (.drawString (c :: cs) x y)
      | _ => none
    | _ => .ok none
  match arguments? line "drawString".toList with
  | some [text, x, y] => make text x y
  | some [text, x, y, _] => make text x y
  | _ => .ok none

/-- a circle under the first of the names that is called, filled or not by the name -/
def circleNamed? : List (String × Bool) → Form
  | [], _ => .ok none
  | (name, filled) :: names, line =>
    let make (texts : List Line) (colour : Line) :=
      drawn texts fun
        | [cx, cy, radius] => some (.circle cx cy radius colour filled)
        | _ => none
    match arguments? line name.toList with
    | none => circleNamed? names line
    | some [cx, cy, radius, colour] => make [cx, cy, radius] colour
    | some [cx, cy, radius, colour, _] => make [cx, cy, radius] colour
    | some _ => .ok none

def circle? : Form := circleNamed? [("fillSmoothCircle", true), ("fillCircle", true), ("drawCircle", false)]

def drawLine? : Form := fun line =>
  match arguments? line "drawLine".toList with
  | some [x1, y1, x2, y2, colour] => drawn [x1, y1, x2, y2] fun
    | [x1, y1, x2, y2] => some (.drawLine x1 y1 x2 y2 colour)
    | _ => none
  | _ => .ok none

/-- a picture, of which only the place counts; its extents stand after the data or before it -/
def bitmap? : Form := fun line =>
  match arguments? line "drawBitmap".toList with
  | some (x :: y :: _ :: width :: height :: more) => boxed [x, y, width, height] (.bitmap · more.head?)
  | some _ => .ok none
  | none =>
    match arguments? line "pushImage".toList with
    | some (x :: y :: width :: height :: _ :: _) => boxed [x, y, width, height] (.bitmap · none)
    | _ => .ok none

/-- the forms in the order in which they are tried -/
def forms : List Form :=
  [fillScreen?, fillRect?, fillRoundRect?, drawString?, drawRect?, drawRoundRect?, circle?, drawLine?, bitmap?]

/-- the drawing of the first form that fits -/
def firstOf : List Form → Form
  | [], _ => .ok none
  | form :: others, line => do
    match ← form line with
    | some drawing => return some drawing
    | none => firstOf others line

/-- the drawing call on a line -/
def drawing? : Form := firstOf forms

end SketchPanel.Sketch

/-
The panel (`DisplayState`): the active slice and the rotation. What can be done to a panel either yields a panel or is
refused; what is refused changes nothing.
-/
import SketchPanel.Json.Loose
import SketchPanel.Json.Plain
import SketchPanel.Log.Record
import SketchPanel.Panel.Slice
import SketchPanel.Text.Quoted

namespace SketchPanel

/-- a simulated display -/
structure Panel where
  rotation : Json
  slice : Slice

namespace Panel

/-- reasons why something cannot be done to a panel -/
inductive Fault where
  | unknownScreen (id : String)
  | badDimensions (width height : Json)
  | badRotation (rotation : Json)
  | mismatch (fault : Json.Mismatch)

/-- what is said when something cannot be done -/
def Fault.message : Fault → String
  | .unknownScreen id => Text.quoted id
  | .badDimensions width height => "Invalid display dimensions: " ++ width.plain ++ "x" ++ height.plain
  | .badRotation rotation => "Invalid rotation: " ++ rotation.plain
  | .mismatch fault => fault.message

/-- the word for the kind of a fault -/
def Fault.kind : Fault → String
  | .unknownScreen _ => "KeyError"
  | .badDimensions .. | .badRotation _ => "ValueError"
  | .mismatch fault => fault.kind

/-- a panel that shows nothing; what is null stays what it is in a slice of its own, and the rotation a quarter -/
def new (width height rotation debug : Json) : Panel :=
  let slice : Slice := {}
  ⟨rotation.given?.getD (.int 1), {
    width := width.given?.getD slice.width, height := height.given?.getD slice.height
    debug := debug.given?.getD slice.debug }⟩

/-- shows a screen -/
def showScreen (p : Panel) (screen : Screen) : Panel := { p with slice := p.slice.showing screen }

/-- shows nothing -/
def clear (p : Panel) : Panel := { p with slice := p.slice.emptied }

/-- turns the debug mode on or off -/
def setDebug (p : Panel) (debug : Json) : Panel := { p with slice := { p.slice with debug } }

/-- a side of a panel, which may not be nought or less -/
def checkedSide (side : Json) (refusal : Fault) : Except Fault Unit := do
  let n ← (side.ordered "<=").mapError .mismatch
  if n.le 0 then throw refusal

/-- gives the panel another size, positive both ways -/
def setDimensions (p : Panel) (width height : Json) : Except Fault Panel := do
  checkedSide width (.badDimensions width height)
  checkedSide height (.badDimensions width height)
  return { p with slice := { p.slice with width, height } }

/-- the rotations: quarters, fewer than four -/
def rotations : List Json := [.int 0, .int 1, .int 2, .int 3]

/-- turns the panel -/
def setRotation (p : Panel) (rotation : Json) : Except Fault Panel :=
  if rotations.any (·.same rotation) then .ok { p with rotation } else .error (.badRotation rotation)

/-- the screen that a load shows: the one asked for, or the first if none is asked for -/
def screenToShow (o : Outline) (id : Option String) : Except Fault (Option Screen) :=
  match id with
  | none => .ok o.screens.head?
  | some id =>
    match o.screen? id with
    | some screen => .ok (some screen)
    | none => .error (.unknownScreen id)

/-- the note that a screen is shown -/
def showNote (screen : Screen) : Log.Record := Log.note Log.debug .panel ("Showing screen " ++ screen.id)

/-- shows a screen of an outline, with the outline's rotation -/
def load (p : Panel) (o : Outline) (id : Option String) : Except Fault Panel := do
  let screen ← screenToShow o id
  let p := { p with rotation := (o.geometry.map Scene.Geometry.rotation).getD p.rotation }
  return match screen with
    | some screen => p.showScreen screen
    | none => p.clear

/-- the notes of a load -/
def loadNotes (o : Outline) (id : Option String) : List Log.Record :=
  match screenToShow o id with
  | .ok (some screen) => [showNote screen]
  | _ => []

end Panel

end SketchPanel

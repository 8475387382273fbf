/-
Touches and the screens they lead to (`InteractionResolver`, `find_screen`, `target_for_action`, `hit_test`). The action
of a zone names a screen: by the screen's own id or name, or by the drawing function that a state of that name has by
convention. Case does not count.
-/
import SketchPanel.Panel.Basic
import SketchPanel.Scene.Field
import SketchPanel.Text.Case

namespace SketchPanel

open Text Number

/-! ## Targets -/

/-- actions with a screen of their own -/
def keywordScreens : List (String × String) := [
  ("home", "home"), ("config", "config"), ("configuration", "config"), ("back", "home"), ("menu", "menu"),
  ("settings", "settings")]

/-- the screen that a zone asks for: its explicit target, or else that of its action -/
def Zone.wanted (z : Zone) : String :=
  match z.target.filter (· ≠ "") with
  | some target => target
  | none => (keywordScreens.lookup (lower z.action)).getD z.action

/-- what the names of drawing functions start with -/
def defaultDrawPrefix : Json := .str "draw"

/-- the words of a state's name, capitalised and run together -/
def runTogether (target : String) : String :=
  .ofList (((pieces '_' target.toList).filter (· ≠ [])).flatMap upperFirst)

/-- the drawing function of a state by convention; only a text can stand in front of its name -/
def drawFunctionName (target : String) (start : Json) : Except Json.Mismatch String :=
  match start with
  | .str start => .ok (start ++ runTogether target)
  | other => .error (.sum other.kind (Json.kind (.str target)))

namespace Screen

/-- whether id or name of a screen in lower case is the given text -/
def answersTo (wanted : String) (s : Screen) : Bool := lower s.id == wanted || lower s.name == wanted

/-- the first screen with such an id or name -/
def named? (target : String) (screens : List Screen) : Option Screen := screens.find? (answersTo (lower target))

/-- the first screen drawn by the function of such a state -/
def drawnBy? (target : String) (screens : List Screen) (start : Json) : Except Json.Mismatch (Option Screen) :=
  return screens.find? (answersTo (lower (← drawFunctionName target start)))

/-- the screen that a target names -/
def find? (target : String) (screens : List Screen) (start : Json) : Except Json.Mismatch (Option Screen) :=
  match named? target screens with
  | some screen => .ok (some screen)
  | none => drawnBy? target screens start

end Screen

/-! ## Resolver -/

/-- the screens that touches may lead to, and the mark of their drawing functions -/
structure Resolver where
  screens : List Screen
  drawPrefix : Json := defaultDrawPrefix

namespace Resolver

/-- the screen that a zone's action leads to -/
def destination? (r : Resolver) (z : Zone) : Except Json.Mismatch (Option Screen) :=
  Screen.find? z.wanted r.screens r.drawPrefix

/-- the slice that shows another screen with its own fill behind it, or only has another name -/
def arrived (s : Slice) (wanted : String) : Option Screen → Slice
  | none => { s with current := wanted }
  | some screen =>
    { s with
      elements := screen.elements, zones := screen.zones, current := screen.id
      background := (Element.firstFill? screen.elements).getD s.background }

/-- carries out the action of a zone -/
def execute (r : Resolver) (p : Panel) (z : Zone) : Except Json.Mismatch Panel :=
  return { p with slice := arrived p.slice z.wanted (← r.destination? z) }

/-- the notes of carrying out an action -/
def executeNotes (r : Resolver) (z : Zone) : List Log.Record :=
  Log.note Log.info .resolver ("Touch action: " ++ z.action ++ " -> " ++ z.wanted) ::
    match r.destination? z with
    | .ok none => [Log.note Log.warning .resolver ("No screen matches '" ++ z.wanted ++ "'")]
    | _ => []

/-- what a touch hits, among the given zones or else those of the slice -/
def touched (p : Panel) (x y : Scalar) (zones : Option (List Zone)) : Touch :=
  Zone.hitTest (zones.getD p.slice.zones) x y

/-- touches the panel: what was hit, and the panel after its action -/
def touch (r : Resolver) (p : Panel) (x y : Scalar) (zones : Option (List Zone)) :
    Except Json.Mismatch (Touch × Panel) :=
  let hit := touched p x y zones
  match hit.zone with
  | some z => return (hit, ← r.execute p z)
  | none => return (hit, p)

/-- the notes of a touch -/
def touchNotes (r : Resolver) (p : Panel) (x y : Scalar) (zones : Option (List Zone)) : List Log.Record :=
  match (touched p x y zones).zone with
  | some z => r.executeNotes z
  | none => [Log.note Log.debug .resolver ("No touch zone at (" ++ x.text ++ ", " ++ y.text ++ ")")]

end Resolver

end SketchPanel

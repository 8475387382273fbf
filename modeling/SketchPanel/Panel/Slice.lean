/-
The active slice (`SceneSlice`): everything the panel shows right now, as one value. Showing another screen replaces
elements and zones together.
-/
import SketchPanel.Scene.Outline

namespace SketchPanel

/-- what the panel shows -/
structure Slice where
  elements : List Element := []
  zones : List Zone := []
  background : String := Colour.black
  current : String := ""
  width : Json := .int 380
  height : Json := .int 420
  debug : Json := .bool false

/-- the slice with a screen in it; size and debug mode stay -/
def Slice.showing (s : Slice) (screen : Screen) : Slice :=
  { s with
    elements := screen.elements, zones := screen.zones, background := screen.background, current := screen.id }

/-- the slice with nothing in it; size and debug mode stay -/
def Slice.emptied (s : Slice) : Slice :=
  { s with elements := [], zones := [], background := Colour.black, current := "" }

/-- the slice in a document -/
def Slice.toJson (s : Slice) : Json := .obj [
  ("elements", .arr (s.elements.map Element.toJson)), ("touchZones", .arr (s.zones.map Zone.toJson)),
  ("background", .str s.background), ("current", .str s.current), ("width", s.width), ("height", s.height),
  ("debug", s.debug)]

end SketchPanel

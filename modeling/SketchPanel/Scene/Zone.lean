/-
Touch zones (`TouchZone`, `find_zone_at`, `zones_in_area`, `zones_overlap`): closed rectangles that ask for an action
when touched. A zone with a negative extent holds no point.
-/
import SketchPanel.Number.Scalar
import SketchPanel.Scene.Field

namespace SketchPanel

/-- a rectangle that asks for an action -/
structure Zone where
  id : String
  x : Int
  y : Int
  width : Int
  height : Int
  action : String := "touch"
  target : Option String := none
  visible : Bool := true
  debugColour : Option String := none
  deriving DecidableEq, Repr

/-- what a touch hit, if anything -/
structure Touch where
  x : Number.Scalar
  y : Number.Scalar
  zone : Option Zone

namespace Zone

open Number

/-- the far edge, sideways -/
def x2 (z : Zone) : Int := z.x + z.width

/-- the far edge, downwards -/
def y2 (z : Zone) : Int := z.y + z.height

/-- whether the point lies in the zone, edges included -/
def contains (z : Zone) (x y : Scalar) : Bool :=
  (Scalar.whole z.x).le x && x.le (.whole z.x2) && (Scalar.whole z.y).le y && y.le (.whole z.y2)

/-- the first zone that contains the point -/
def at? (zones : List Zone) (x y : Scalar) : Option Zone := zones.find? (·.contains x y)

/-- what a touch at the point hits -/
def hitTest (zones : List Zone) (x y : Scalar) : Touch := ⟨x, y, at? zones x y⟩

/-- whether two zones share a point -/
def overlaps (a b : Zone) : Bool :=
  !(decide (a.x > b.x2) || decide (a.x2 < b.x) || decide (a.y > b.y2) || decide (a.y2 < b.y))

/-- the zones that share a point with a rectangle, edges included -/
def inArea (x y width height : Scalar) (zones : List Zone) : Except Scalar.Fault (List Zone) :=
  zones.filterM fun z => do
    let right ← x.add width
    if right.lt (.whole z.x) then return false
    if (Scalar.whole z.x2).lt x then return false
    let bottom ← y.add height
    return !(bottom.lt (.whole z.y) || (Scalar.whole z.y2).lt y)

/-- the middle of the zone -/
def center (z : Zone) : Except Scalar.Fault (Scalar × Scalar) := do
  return (← (Scalar.whole z.x).add (← (Scalar.whole z.width).half),
    ← (Scalar.whole z.y).add (← (Scalar.whole z.height).half))

/-- a visible zone for an action, outlined in red; its id comes from the caller's random digits -/
def create (digits : String) (x y width height : Int) (action : String) : Zone :=
  { id := "touch_" ++ digits, x, y, width, height, action, debugColour := some "#ff0000" }

/-- the zone in a document -/
def toJson (z : Zone) : Json := .obj <| Scene.record [
  ("id", some (.str z.id)), ("x", some (.int z.x)), ("y", some (.int z.y)),
  ("width", some (.int z.width)), ("height", some (.int z.height)), ("action", some (.str z.action)),
  ("target_state", z.target.map .str), ("visible", some (.bool z.visible)),
  ("debug_color", z.debugColour.map .str)]

end Zone

end SketchPanel

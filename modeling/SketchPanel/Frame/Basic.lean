/-
Frames (`DisplayRenderer.render`, `render_element`, `sort_by_z_index`). A frame is the cleared and filled background,
then the visible elements from the lowest to the highest, then in debug mode the touch zones. Each element and zone is
drawn between saving and restoring the style, and a fault in one is noted and goes no further; a fault in the background
ends the frame.
-/
import SketchPanel.Frame.Overlay
import SketchPanel.Panel.Slice

namespace SketchPanel.Frame

open Number Surface
open Imaging (Metrics)

variable [Metrics]

/-- the family of texts that name no font, unless the renderer has another -/
def defaultFamily : Json := .str "Arial, sans-serif"

/-- a program run between saving and restoring the style -/
def isolated (s : Surface) (p : Program) : Surface × Option Fault :=
  let (s, fault) := (s.apply .save).1.run p
  ((s.apply .restore).1, fault)

/-- the record of a fault in one part of the frame -/
def faultRecord (fault : Option Fault) (context : List (String × String)) : List Log.Record :=
  match fault with
  | none => []
  | some fault => [Log.failed Log.error Log.Source.frame.name fault.failure context]

/-- one element is drawn -/
def drawElement (family : Json) (s : Surface) (e : Element) : Surface × List Log.Record :=
  let (s, fault) := isolated s (program family e)
  (s, faultRecord fault [("element", e.id), ("type", e.shape.kind)])

/-- one zone is drawn, by its place among all zones -/
def drawZone (s : Surface) (z : Zone) (index : Nat) : Surface × List Log.Record :=
  let (s, fault) := isolated s (zoneProgram z index (labelWidth s z.action))
  (s, zoneWarnings z ++ faultRecord fault [("zone", z.id)])

/-- drawings done in turn, with the notes of all -/
def inTurn {α : Type} (draw : Surface → α → Surface × List Log.Record) (s : Surface) (parts : List α) :
    Surface × List Log.Record :=
  parts.foldl (fun (s, log) part => let (s, more) := draw s part; (s, log ++ more)) (s, [])

/-- whether a surface has the size of a scene -/
def fits (s : Surface) (scene : Slice) : Bool := s.width.same scene.width && s.height.same scene.height

/-- size, cleared ground and background colour -/
def groundProgram (s : Surface) (scene : Slice) : Program :=
  (if fits s scene then [] else [.ok (.resize scene.width scene.height)])
  ++ [sized (.clearRect 0 0) scene.width scene.height, .ok (.fillStyle scene.background),
    sized (.fillRect 0 0) scene.width scene.height]

/-- the surface before any element is drawn -/
def ground (s : Surface) (scene : Slice) : Surface × Option Fault := s.run (groundProgram s scene)

/-- the elements that are drawn, in the order in which they are -/
def drawnElements (scene : Slice) : List Element := (Element.byHeight scene.elements).filter (·.visible)

/-- the zones that are drawn, each with its place among all -/
def drawnZones (scene : Slice) : List (Zone × Nat) :=
  if scene.debug.truthy then scene.zones.zipIdx.filter (·.1.visible) else []

/-- draws a frame: the surface after it, the notes, and the fault if there is no frame -/
def render (family : Json) (s : Surface) (scene : Slice) : Surface × List Log.Record × Option Fault :=
  match ground s scene with
  | (s, some fault) => (s, [], some fault)
  | (s, none) =>
    let (s, log) := inTurn (drawElement family) s (drawnElements scene)
    let (s, more) := inTurn (fun s (z, index) => drawZone s z index) s (drawnZones scene)
    (s, log ++ more, none)

end SketchPanel.Frame

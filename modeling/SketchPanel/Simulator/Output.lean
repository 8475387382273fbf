/-
Frames of the simulator as files (`create_surface`, `render_to_file`). The format is given or follows from the ending of
the path; the notes of drawing are kept even if the frame is not saved in the end.
-/
import SketchPanel.Log.Traced
import SketchPanel.Simulator
import SketchPanel.Surface.Output

namespace SketchPanel.Simulator

/-- reasons why there is no file with a frame -/
inductive OutputFault where
  | refused (fault : Fault)
  | unsupported (format : String)
  | drawing (fault : Surface.Fault)
  | saving (fault : Surface.SaveFault)

/-- what is said when there is no file with a frame -/
def OutputFault.message : OutputFault → String
  | .refused fault => fault.message
  | .unsupported format => Simulator.unsupported format
  | .drawing fault => fault.message
  | .saving fault => fault.message

/-- the word for the kind of a fault -/
def OutputFault.kind : OutputFault → String
  | .refused fault => fault.kind
  | .unsupported _ => "ValueError"
  | .drawing fault => fault.kind
  | .saving fault => fault.kind

variable [Imaging.Metrics]

/-- a new surface with the active slice drawn on it -/
def framed (s : Simulator) (format : String) : Traced Log.Record OutputFault Surface := do
  let _ ← .lift (s.renderable.mapError .refused)
  match kindOf? format with
  | none => .lift (.error (.unsupported format))
  | some kind =>
    let surface ← .lift ((s.newSurface kind).mapError .drawing)
    let (surface, notes, fault) := s.drawOn surface
    ⟨notes, match fault with
      | none => .ok surface
      | some fault => .error (.drawing fault)⟩

/-- the format that a path asks for -/
def formatFor (path : Files.Path) : String := if Surface.asksForMarkup path then "svg" else "png"

variable {m : Type → Type} [Monad m]

/-- draws the active slice and saves it at a path -/
def saveFrame (files : Files m) (s : Simulator) (path : Files.Path) (format : Option String) :
    m (Traced Log.Record OutputFault Unit) := do
  let frame := s.framed (format.getD (formatFor path))
  match frame.result with
  | .error fault => return ⟨frame.notes, .error fault⟩
  | .ok surface =>
    match ← surface.save files path with
    | .error fault => return ⟨frame.notes, .error (.saving fault)⟩
    | .ok () => return ⟨frame.notes ++ [surface.savedNote path], .ok ()⟩

end SketchPanel.Simulator

/-
The simulator (`DisplaySimulator`): reads sketches, shows their screens on a panel, and passes touches on to it. A
sketch whose outline has an error is kept but not shown, and then nothing can be shown, touched or drawn.
-/
import SketchPanel.Frame.Basic
import SketchPanel.Panel.Resolver
import SketchPanel.Settings.Basic
import SketchPanel.Sketch.Extraction

namespace SketchPanel

open Number

/-- a panel that runs a sketch -/
structure Simulator where
  options : Sketch.Options
  /-- the family of texts that name no font -/
  family : Json
  panel : Panel
  outline : Option Outline := none
  resolver : Option Resolver := none

namespace Simulator

/-! ## Faults -/

/-- what the simulator refuses -/
inductive Fault where
  | nothingLoaded
  | notRenderable (findings : List String)
  | unknownScreen (id : String) (available : List String)
  /-- a touch for which there is no resolver -/
  | unresolved
  /-- a touch whose screen cannot be told -/
  | mismatch (fault : Json.Mismatch)
  deriving DecidableEq, Repr

/-- what is said when the simulator refuses -/
def Fault.message : Fault → String
  | .nothingLoaded => "No sketch loaded"
  | .notRenderable findings =>
    let all := "; ".intercalate findings
    "Sketch cannot be rendered: " ++ (if all.isEmpty then "no screens" else all)
  | .unknownScreen id available =>
    "Unknown screen '" ++ id ++ "'. Available: " ++ ", ".intercalate available
  | .unresolved => "'NoneType' object has no attribute 'hit_test'"
  | .mismatch fault => fault.message

/-- the word for the kind of a fault -/
def Fault.kind : Fault → String
  | .unresolved => "AttributeError"
  | .mismatch fault => fault.kind
  | .nothingLoaded | .notRenderable _ | .unknownScreen .. => "SimulatorError"

/-! ## Running a sketch -/

/-- a simulator with settings; the size may be given apart from them -/
def new (settings : Settings) (width height : Option Json) : Except Settings.Fault Simulator := do
  let options ← settings.readingOptions width height
  let family ← settings.value "default_font"
  let rotation ← settings.value "rotation"
  let debug ← settings.value "debug_mode"
  return { options, family, panel := .new options.width options.height rotation debug }

/-- the outline that can be shown -/
def renderable (s : Simulator) : Except Fault Outline :=
  match s.outline with
  | none => .error .nothingLoaded
  | some o => if o.isRenderable then .ok o else .error (.notRenderable (o.diagnostics.map (·.message)))

/-- shows a screen of the sketch, the first if none is asked for -/
def showScreen (s : Simulator) (id : Option String) : Except Fault Simulator := do
  let o ← s.renderable
  match s.panel.load o id with
  | .ok panel => return { s with panel }
  | .error _ => throw (.unknownScreen (id.getD "") (o.screens.map (·.id)))

/-- the notes of showing a screen -/
def showNotes (s : Simulator) (id : Option String) : List Log.Record :=
  match s.renderable with
  | .ok o => Panel.loadNotes o id
  | .error _ => []

/-- the simulator with a sketch read but not shown -/
def reading (s : Simulator) (o : Outline) : Simulator :=
  if o.isRenderable then
    { s with outline := some o, resolver := some ⟨o.screens, s.options.drawPrefix⟩ }
  else { s with outline := some o, resolver := none, panel := s.panel.clear }

/-- reads a sketch and shows one of its screens; the sketch stays read even if the screen is not there -/
def load (s : Simulator) (source : String) (id : Option String) : Simulator × Option Fault :=
  let o := (Sketch.extract s.options source).1
  let s := s.reading o
  if o.isRenderable then
    match s.showScreen id with
    | .ok s => (s, none)
    | .error fault => (s, some fault)
  else (s, none)

/-- the note of a finding -/
def findingNote (d : Scene.Diagnostic) : Log.Record :=
  Log.note (if d.severity = .error then Log.error else Log.warning) .simulator s!"Line {d.line}: {d.message}"

/-- the notes of a load -/
def loadNotes (s : Simulator) (source : String) (id : Option String) : List Log.Record :=
  let (o, log) := Sketch.extract s.options source
  log ++ o.diagnostics.map findingNote ++ (if o.isRenderable then (s.reading o).showNotes id else [])

/-- touches the panel -/
def touch (s : Simulator) (x y : Scalar) : Except Fault (Touch × Simulator) := do
  let _ ← s.renderable
  match s.resolver with
  | none => throw .unresolved
  | some r =>
    let (hit, panel) ← (r.touch s.panel x y none).mapError .mismatch
    return (hit, { s with panel })

/-- the notes of a touch -/
def touchNotes (s : Simulator) (x y : Scalar) : List Log.Record :=
  match s.renderable, s.resolver with
  | .ok _, some r => r.touchNotes s.panel x y none
  | _, _ => []

/-- turns the debug mode on or off -/
def setDebug (s : Simulator) (debug : Json) : Simulator := { s with panel := s.panel.setDebug debug }

/-! ## Drawing -/

/-- the kind of surface that a format asks for -/
def kindOf? (format : String) : Option Surface.Kind :=
  if format = "png" then some .raster else if format = "svg" then some .vector else none

/-- what is said of a format that there is no surface for -/
def unsupported (format : String) : String := "Unsupported output format: " ++ format

/-- a new surface of the panel's size -/
def newSurface (s : Simulator) (kind : Surface.Kind) : Except Surface.Fault Surface :=
  Surface.new kind s.panel.slice.width s.panel.slice.height

variable [Imaging.Metrics]

/-- draws the active slice on a surface -/
def drawOn (s : Simulator) (surface : Surface) : Surface × List Log.Record × Option Surface.Fault :=
  Frame.render s.family surface s.panel.slice

/-- draws the active slice of a sketch that can be shown on a given surface -/
def renderOn (s : Simulator) (surface : Surface) :
    Except Fault (Surface × List Log.Record × Option Surface.Fault) := do
  let _ ← s.renderable
  return s.drawOn surface

end Simulator

end SketchPanel

/-
The two commands (`main`, `run_parse`, `run_render`). Settings are read first and say where the log goes; then a sketch
is read from a file or from the samples (`read_sketch`), and its outline is written out, or a screen of it is touched,
drawn and saved. Sketches with errors end in a code of their own, and every failure on the way ends in one record and
another code.
-/
import SketchPanel.CommandLine.Arguments
import SketchPanel.Log.Setup
import SketchPanel.Samples
import SketchPanel.Settings.Store
import SketchPanel.Simulator.Output

namespace SketchPanel.CommandLine

open Number

/-! ## Reports -/

/-- how a command ended, what it printed, and the records it left -/
structure Report where
  code : Nat
  printed : String := ""
  records : List Log.Record := []

/-- the code of a command that did what was asked -/
def done : Nat := 0

/-- the code of a command that failed -/
def failed : Nat := 1

/-- the code of a command whose sketch has errors -/
def sketchErrors : Nat := 2

/-- reasons why a command fails -/
inductive Failure where
  | files (fault : Files.Fault)
  | sample (name : String)
  | settings (fault : Settings.Fault)
  | frame (fault : Simulator.OutputFault)
  /-- a number of the outline takes too many digits -/
  | unwritable
  | mismatch (fault : Json.Mismatch)
  /-- a touch without a point -/
  | noPoint

/-- what is said of a failure -/
def Failure.message : Failure → String
  | .files fault => fault.message
  | .sample name => Text.quoted (Samples.unknown name)
  | .settings fault => fault.message
  | .frame fault => fault.message
  | .unwritable => tooLongToWrite
  | .mismatch fault => fault.message
  | .noPoint => "not enough values to unpack (expected 2, got 0)"

/-- the word for the kind of a failure -/
def Failure.kind : Failure → String
  | .files fault => fault.kind
  | .sample _ => "KeyError"
  | .settings fault => fault.kind
  | .frame fault => fault.kind
  | .unwritable | .noPoint => "ValueError"
  | .mismatch fault => fault.kind

/-- kinds of failure that users run into -/
def usualKinds : List String := [
  "OSError", "FileNotFoundError", "FileExistsError", "NotADirectoryError", "IsADirectoryError", "KeyError",
  "SimulatorError"]

/-- the failure as the log shows it below the message, unless users run into it -/
def Failure.shown (failure : Failure) : Option Log.Failure :=
  if usualKinds.contains failure.kind then none else some ⟨failure.kind, failure.message⟩

/-- a record of the command line -/
def note (level : Log.Level) (message : String) : Log.Record := Log.note level .commandLine message

/-- the last record of a command that failed -/
def failureRecord (command : String) (failure : Failure) : Log.Record :=
  { note Log.error (command ++ " failed: " ++ failure.message) with failure := failure.shown }

/-- what comes of a command once its steps are over -/
def report (command : String) (steps : Traced Log.Record Failure (Nat × String)) : Report :=
  match steps.result with
  | .ok (code, printed) => ⟨code, printed, steps.notes⟩
  | .error failure => ⟨failed, "", steps.notes ++ [failureRecord command failure]⟩

/-! ## Steps -/

/-- what the names of samples are marked with -/
def sampleMark : List Char := "sample:".toList

variable {m : Type → Type} [Monad m]

/-- steps that use files and leave records -/
abbrev Steps (m : Type → Type) := TracedT m Log.Record Failure

/-- the text of a sketch, from a file or from the samples -/
def readSketch (files : Files m) (sketch : String) : Steps m String :=
  match Text.after? sampleMark sketch.toList with
  | some name =>
    let name := String.ofList name
    .still (.lift (match Samples.find? name with
      | some source => .ok source
      | none => .error (.sample name)))
  | none => .act .files (files.readText sketch)

/-- a value that was given and counts as yes -/
def given (value : Option Json) : Option Json := value.filter Json.truthy

/-- the simulator with a sketch loaded -/
def loaded (s : Simulator) (source : String) : Traced Log.Record Failure Simulator :=
  let (after, fault) := s.load source none
  ⟨s.loadNotes source none, match fault with
    | none => .ok after
    | some fault => .error (.frame (.refused fault))⟩

/-- whether the sketch of a simulator has errors -/
def hasErrors (s : Simulator) : Bool := (s.outline.map (·.hasErrors)).getD false

/-- what is said of a touch -/
def touchMessage (x y : Float) (hit : Option Zone) (current : String) : String :=
  "Touch (" ++ (Scalar.real x).text ++ ", " ++ (Scalar.real y).text ++ "): " ++ match hit with
    | some z => "hit " ++ z.id ++ " -> " ++ current
    | none => "miss"

/-- the simulator after one touch -/
def touched (s : Simulator) (x y : Float) : Traced Log.Record Failure Simulator :=
  let notes := s.touchNotes (.real x) (.real y)
  match s.touch (.real x) (.real y) with
  | .error fault => ⟨notes, .error (.frame (.refused fault))⟩
  | .ok (hit, after) => ⟨notes ++ [note Log.info (touchMessage x y hit.zone after.panel.slice.current)], .ok after⟩

/-- the simulator after touches, from first to last -/
def touchedAll (s : Simulator) : List (Option (Float × Float)) → Traced Log.Record Failure Simulator
  | [] => pure s
  | none :: _ => .lift (.error .noPoint)
  | some (x, y) :: rest => do touchedAll (← touched s x y) rest

/-- the simulator as it is drawn: another screen, debug mode and touches as asked for; none if the sketch has errors -/
def prepared (s : Simulator) (r : RenderRequest) (source : String) :
    Traced Log.Record Failure (Option Simulator) := do
  let s ← loaded s source
  if hasErrors s then
    let _ ← .tell (note Log.error "Sketch has parse errors; nothing rendered")
    return none
  let s ← match given r.screen with
    | none => pure s
    | some id =>
      let id := some id.plain
      ⟨s.showNotes id, (s.showScreen id).mapError fun fault => .frame (.refused fault)⟩
  return some (← touchedAll (if r.debug then s.setDebug true else s) r.touches)

/-- the simulator that settings and size ask for -/
def simulator (settings : Settings) (width height : Option Json) : Steps m Simulator :=
  .still (.lift ((Simulator.new settings width height).mapError .settings))

/-- the path that a value spells -/
def pathOf (value : Json) : Steps m Files.Path := .still (.lift ((Files.Path.ofValue value).mapError .mismatch))

/-- a value laid out over lines, if it can be written -/
def written (value : Json) : Except Failure String :=
  if value.writable then .ok value.pretty else .error .unwritable

/-- the outline of a sketch is written out -/
def parse (files : Files m) (settings : Settings) (r : ParseRequest) : Steps m (Nat × String) := do
  let s ← simulator settings r.width r.height
  let source ← readSketch files r.sketch
  let s ← .still (loaded s source)
  let text ← .still (.lift (written (s.outline.getD {}).toJson))
  let code := if hasErrors s then sketchErrors else done
  match given r.output with
  | none => return (code, text ++ "\n")
  | some path =>
    let path ← pathOf path
    .act .files (files.makeFolders path.parent)
    .act .files (files.write path.text (.text text))
    .still (.tell (note Log.info ("Parse result saved to " ++ path.text)))
    return (code, "")

variable [Imaging.Metrics]

/-- a screen of a sketch is touched, drawn and saved -/
def render (files : Files m) (settings : Settings) (r : RenderRequest) : Steps m (Nat × String) := do
  let s ← simulator settings r.width r.height
  let source ← readSketch files r.sketch
  match ← .still (prepared s r source) with
  | none => return (sketchErrors, "")
  | some s =>
    let path ← pathOf r.output
    .ofTraced .frame (s.saveFrame files path (r.format.map Json.plain))
    .still (.tell (note Log.info ("Rendered " ++ s.panel.slice.current ++ " to " ++ path.text)))
    return (done, "")

/-- what a request comes to -/
def perform (files : Files m) (settings : Settings) : Request → m Report
  | .parse r => do return report "parse" (← (parse files settings r).run)
  | .render r => do return report "render" (← (render files settings r).run)

/-! ## The whole run -/

/-- a whole run: the records from before there was a log, the log, and the report -/
structure Session where
  early : List Log.Record
  setup : Log.Setup
  report : Report

/-- reasons why a run ends before there is a log -/
inductive StartFault where
  | log (fault : Log.SetupFault)
  | files (fault : Files.Fault)

/-- the word for the kind of such a reason -/
def StartFault.kind : StartFault → String
  | .log fault => fault.kind
  | .files fault => fault.kind

/-- what is said of such a reason -/
def StartFault.message : StartFault → String
  | .log fault => fault.message
  | .files fault => fault.message

/-- the level that options ask for -/
def verboseLevel (c : Common) : Option Json := if c.verbose then some (.str "DEBUG") else none

/-- the log that options and settings ask for -/
def logSetup (c : Common) (settings : Settings) (outside : Option String) : Except Log.SetupFault Log.Setup :=
  let setting (key : String) : Json := .ofOption (settings.get? key)
  Log.setup ((verboseLevel c).getD (setting "log_level")) outside
    ((given c.logFile).getD (setting "log_file")) (c.logJson || (setting "log_json").truthy)

/-- opens the files of a log, in folders made for them -/
def openLog (files : Files m) : List Log.Outlet → m (Except Files.Fault Unit)
  | [] => return .ok ()
  | .console :: rest => openLog files rest
  | .file path :: rest => do
    let folder := Files.Path.folderText path.toList
    let made ← if folder.isEmpty then pure (.ok ()) else files.makeNamed folder
    match made with
    | .error fault => return .error fault
    | .ok () =>
      match ← files.openToAdd path with
      | .error fault => return .error fault
      | .ok () => openLog files rest

/-- a run whose settings are not there -/
def unsettled (c : Common) (outside : Option String) (early : List Log.Record) (fault : Settings.StoreFault) :
    Except StartFault Session :=
  match Log.setup ((verboseLevel c).getD .null) outside .null false with
  | .error fault => .error (.log fault)
  | .ok setup =>
    .ok ⟨early, setup, ⟨failed, "", [note Log.error ("Failed to load configuration: " ++ fault.message)]⟩⟩

/-- does what is asked; the level of the log may come from outside, and a log that cannot be opened ends the run -/
def run (files : Files m) (outside : Option String) (i : Invocation) : m (Except StartFault Session) := do
  let (found, early) ← Settings.load files (Settings.defaults (outside.getD "INFO")) i.common.config
  match found with
  | .error fault => return unsettled i.common outside early fault
  | .ok settings =>
    match logSetup i.common settings outside with
    | .error fault => return .error (.log fault)
    | .ok setup =>
      match ← openLog files setup.outlets with
      | .error fault => return .error (.files fault)
      | .ok () => return .ok ⟨early, setup, ← perform files settings i.request⟩

end SketchPanel.CommandLine

/-
Settings in files (`load_config`, `save_config`): an object laid over the defaults when read, laid out over lines when
written.
-/
import SketchPanel.Files.Making
import SketchPanel.Json.Reader
import SketchPanel.Json.Writer
import SketchPanel.Settings.Basic

namespace SketchPanel.Settings

/-- reasons why settings are not read or written -/
inductive StoreFault where
  | notFound (path : String)
  | unreadable (path reason : String)
  | notAnObject (path : String)
  /-- lists and objects stand too deep in one another -/
  | tooDeep (reason : String)
  | unwritable (path reason : String)
  /-- the path cannot even be looked at -/
  | files (fault : Files.Fault)
  /-- the path is none -/
  | mismatch (fault : Json.Mismatch)
  deriving DecidableEq, Repr

/-- what is said of settings that are not read or written -/
def StoreFault.message : StoreFault → String
  | .notFound path => "Configuration file not found: " ++ path
  | .unreadable path reason => "Could not read configuration " ++ path ++ ": " ++ reason
  | .notAnObject path => "Configuration " ++ path ++ " must contain a JSON object"
  | .tooDeep reason => reason
  | .unwritable path reason => "Could not write configuration " ++ path ++ ": " ++ reason
  | .files fault => fault.message
  | .mismatch fault => fault.message

/-- the word for the kind of such a reason -/
def StoreFault.kind : StoreFault → String
  | .files fault => fault.kind
  | .mismatch fault => fault.kind
  | .tooDeep _ => "RecursionError"
  | _ => "ConfigError"

/-- settings spelled by a text, laid over others -/
def readOver (under : Settings) (path text : String) : Except StoreFault Settings :=
  match Json.read text.toList with
  | .error fault =>
    let reason := fault.message text.toList
    .error (match fault with
      | .tooDeep _ => .tooDeep reason
      | _ => .unreadable path reason)
  | .ok value =>
    match value.fields? with
    | none => .error (.notAnObject path)
    | some fields => .ok (merge under fields)

/-- the notes of reading settings from a path -/
def readNotes (path : String) : Except StoreFault Settings → List Log.Record
  | .ok _ => [Log.note Log.info .settings ("Loaded configuration from " ++ path)]
  | .error (.unreadable path reason) =>
    [Log.note Log.error .settings ("Error loading configuration from " ++ path ++ ": " ++ reason)]
  | .error _ => []

/-- the text that settings are written as -/
def document (s : Settings) : String := Json.pretty (.obj s)

variable {m : Type → Type} [Monad m]

/-- settings from the file at a path, laid over others -/
def loadFrom (files : Files m) (under : Settings) (path : String) :
    m (Except StoreFault Settings × List Log.Record) := do
  match ← files.present path with
  | .error fault => return (.error (.files fault), [])
  | .ok false => return (.error (.notFound path), [])
  | .ok true =>
    let found := match ← files.readText path with
      | .error fault => .error (.unreadable path fault.message)
      | .ok text => readOver under path text
    return (found, readNotes path found)

/-- settings from a file laid over others, which stay as they are if no file is given -/
def load (files : Files m) (under : Settings) (path : Option Json) :
    m (Except StoreFault Settings × List Log.Record) := do
  match path.map Files.Path.ofValue with
  | none => return (.ok under, [])
  | some (.error fault) => return (.error (.mismatch fault), [])
  | some (.ok path) => loadFrom files under path.text

/-- a fault of writing settings to a path -/
def writeFault (path : String) (fault : Files.Fault) : StoreFault :=
  if fault.trouble = .badPath then .files fault else .unwritable path fault.message

/-- the notes of writing settings to a path -/
def writeNotes (path : String) : Except StoreFault Unit → List Log.Record
  | .ok () => [Log.note Log.info .settings ("Configuration saved to: " ++ path)]
  | .error (.unwritable path reason) =>
    [Log.note Log.error .settings ("Error saving configuration to " ++ path ++ ": " ++ reason)]
  | .error _ => []

/-- settings saved to a file, in a folder that is made if need be -/
def save (files : Files m) (s : Settings) (path : String) (makeFolders : Bool) :
    m (Except StoreFault Unit × List Log.Record) := do
  let path := Files.Path.read path
  let made ← if makeFolders then files.makeFolders path.parent else pure (.ok ())
  match made with
  | .error fault => return (.error (.files fault), [])
  | .ok () =>
    let written := (← files.write path.text (.text s.document)).mapError (writeFault path.text)
    return (written, writeNotes path.text written)

end SketchPanel.Settings

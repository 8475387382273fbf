/-
Where the log goes (`setup_logger`): always to the console, and to a file if one is named, from one level on and in one
form; and what is kept of it while it is captured (`LogCapture`).
-/
import SketchPanel.Json.Loose
import SketchPanel.Log.Record
import SketchPanel.Text.Case
import SketchPanel.Text.Quoted

namespace SketchPanel.Log

/-- where records go -/
inductive Outlet where
  | console
  | file (path : String)
  deriving DecidableEq, Repr

/-- level, form and outlets of a log -/
structure Setup where
  level : Level
  structured : Bool
  outlets : List Outlet
  deriving DecidableEq, Repr

/-- names that levels go by -/
def levelNames : List (String × Level) := [
  ("CRITICAL", critical), ("FATAL", critical), ("ERROR", error), ("WARN", warning), ("WARNING", warning),
  ("INFO", info), ("DEBUG", debug), ("NOTSET", 0)]

/-- reasons why there is no log -/
inductive SetupFault where
  | noLevelName (kind : String)
  | noFileName (kind : String)
  /-- a name that stands for a layout of lines -/
  | layout (text : String)
  /-- the name that stands for all layouts -/
  | layouts
  deriving DecidableEq, Repr

/-- the word for the kind of such a reason -/
def SetupFault.kind : SetupFault → String
  | .noLevelName _ => "AttributeError"
  | .noFileName _ | .layouts => "TypeError"
  | .layout _ => "ValueError"

/-- the layouts of lines, as they are shown -/
def layoutsShown : String :=
  "\x7b'%': (<class 'logging.PercentStyle'>, '%(levelname)s:%(name)s:%(message)s'), "
  ++ "'\x7b': (<class 'logging.StrFormatStyle'>, '\x7blevelname\x7d:\x7bname\x7d:\x7bmessage\x7d'), "
  ++ "'$': (<class 'logging.StringTemplateStyle'>, '$\x7blevelname\x7d:$\x7bname\x7d:$\x7bmessage\x7d')\x7d"

/-- what is said when there is no log -/
def SetupFault.message : SetupFault → String
  | .noLevelName kind => "'" ++ kind ++ "' object has no attribute 'upper'"
  | .noFileName kind => "expected str, bytes or os.PathLike object, not " ++ kind
  | .layout text => "Unknown level: " ++ Text.quoted text
  | .layouts => "Level not an integer or a valid string: " ++ layoutsShown

/-- names that stand for something else than a level -/
def layoutNames : List (String × SetupFault) := [
  ("BASIC_FORMAT", .layout "%(levelname)s:%(name)s:%(message)s"), ("_STYLES", .layouts)]

/-- the level of a name in any case; `info` if it names none -/
def levelNamed (name : String) : Except SetupFault Level :=
  let name := Text.upper name
  match layoutNames.lookup name with
  | some fault => .error fault
  | none => .ok ((levelNames.lookup name).getD info)

/-- a text that is given and not empty -/
def nonEmpty (text : Option String) : Option String := text.filter (· ≠ "")

/-- the level of a name, or else of the name from outside; `info` where neither is given -/
def levelOf (name : Json) (outside : Option String) : Except SetupFault Level :=
  if name.truthy then
    match name with
    | .str text => levelNamed text
    | other => .error (.noLevelName other.kind)
  else
    match nonEmpty outside with
    | some text => levelNamed text
    | none => .ok info

/-- the file of a name, if one is given -/
def fileOf (name : Json) : Except SetupFault (Option Outlet) :=
  if name.truthy then
    match name with
    | .str path => .ok (some (.file path))
    | other => .error (.noFileName other.kind)
  else .ok none

/-- a log with console and perhaps a file -/
def setup (name : Json) (outside : Option String) (file : Json) (structured : Bool) : Except SetupFault Setup := do
  let level := levelOf name outside
  if let .error (.noLevelName kind) := level then throw (.noLevelName kind)
  let file ← fileOf file
  return { level := ← level, structured, outlets := .console :: file.toList }

/-- the records that a log lets through -/
def Setup.kept (s : Setup) (records : List Record) : List Record := records.filter (·.passes s.level)

/-! ## Capture -/

/-- the level of one logger while its records are captured from a level on: lowered if it would hold some back -/
def captureLevel (own root start : Level) : Level :=
  if start < (if own = 0 then root else own) then start else own

/-- the records that are captured -/
def captured (own root start : Level) (records : List Record) : List Record :=
  let level := captureLevel own root start
  records.filter fun r => r.passes (if level = 0 then root else level) && start ≤ r.level

end SketchPanel.Log

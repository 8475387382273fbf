/-
Log records (`log_exception`): how grave, from which part of the library, what was said, and the failure behind it if
there was one.
-/

namespace SketchPanel.Log

/-! ## Levels -/

/-- how grave a record is; the named levels are ten apart -/
abbrev Level := Int

def debug : Level := 10
def info : Level := 20
def warning : Level := 30
def error : Level := 40
def critical : Level := 50

/-- the name of a level -/
def levelName (level : Level) : String :=
  if level = 0 then "NOTSET"
  else if level = debug then "DEBUG"
  else if level = info then "INFO"
  else if level = warning then "WARNING"
  else if level = error then "ERROR"
  else if level = critical then "CRITICAL"
  else s!"Level {level}"

/-! ## Records -/

/-- the parts of the library that keep a log -/
inductive Source where
  | colour
  | extraction
  | panel
  | resolver
  | frame
  | vectorSheet
  | rasterSheet
  | simulator
  | settings
  | commandLine
  deriving DecidableEq, Repr

/-- the name a part logs under -/
def Source.name : Source → String
  | .colour => "tft_simulator.models.color"
  | .extraction => "tft_simulator.parsing.extractor"
  | .panel => "tft_simulator.state"
  | .resolver => "tft_simulator.interaction.resolver"
  | .frame => "tft_simulator.rendering.renderer"
  | .vectorSheet => "tft_simulator.rendering.svg_surface"
  | .rasterSheet => "tft_simulator.rendering.pillow_surface"
  | .simulator => "tft_simulator.simulator"
  | .settings => "tft_simulator.config"
  | .commandLine => "tft_simulator.cli"

/-- a failure as a log shows it: its kind and its text -/
structure Failure where
  kind : String
  text : String
  deriving DecidableEq, Repr

/-- kind and text on one line -/
def Failure.line (f : Failure) : String := if f.text.isEmpty then f.kind else f.kind ++ ": " ++ f.text

/-- one record -/
structure Record where
  level : Level
  logger : String
  message : String
  failure : Option Failure := none
  deriving DecidableEq, Repr

/-- a record of a part of the library -/
def note (level : Level) (source : Source) (message : String) : Record := { level, logger := source.name, message }

/-- whether a record passes a threshold; a level of nought or below never does -/
def Record.passes (threshold : Level) (r : Record) : Bool := 0 < r.level && threshold ≤ r.level

/-- the line that tells of a failure, with where it happened if that is known -/
def failureMessage (f : Failure) (context : List (String × String)) : String :=
  let places := ", ".intercalate (context.map fun (key, value) => key ++ "=" ++ value)
  "Exception: " ++ f.kind ++ ": " ++ f.text ++ (if context.isEmpty then "" else " [Context: " ++ places ++ "]")

/-- a record of a failure -/
def failed (level : Level) (logger : String) (f : Failure) (context : List (String × String)) : Record :=
  { level, logger, message := failureMessage f context, failure := some f }

end SketchPanel.Log

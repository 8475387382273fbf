/-
Arguments of the two commands (`build_parser`, `parse_point`). `read` makes an invocation of a command line, or says
that only help was asked for or that the line makes no sense. What stands first on the line counts first: help before a
mistake is help. A divider as the value of an option is taken away, unread, and an empty list is left in its place.
-/
import SketchPanel.CommandLine.Words
import SketchPanel.Json.Basic

namespace SketchPanel.CommandLine

open Text Number

/-! ## What is asked for -/

/-- what both commands are given: settings and the log -/
structure Common where
  config : Option Json := none
  verbose : Bool := false
  logFile : Option Json := none
  logJson : Bool := false

/-- an outline is asked for -/
structure ParseRequest where
  sketch : String
  width : Option Json := none
  height : Option Json := none
  output : Option Json := none

/-- a frame is asked for -/
structure RenderRequest where
  sketch : String
  output : Json
  screen : Option Json := none
  /-- points, or nothing for one that was taken away -/
  touches : List (Option (Float × Float)) := []
  debug : Bool := false
  format : Option Json := none
  width : Option Json := none
  height : Option Json := none

/-- what is asked for -/
inductive Request where
  | parse (request : ParseRequest)
  | render (request : RenderRequest)

/-- a whole command line -/
structure Invocation where
  common : Common
  request : Request

/-- reasons why nothing is done -/
inductive Refusal where
  | help
  | misuse
  deriving DecidableEq, Repr

/-- the exit code of a line for which nothing is done -/
def Refusal.code : Refusal → Nat
  | .help => 0
  | .misuse => 2

/-! ## Points -/

/-- a point that cannot be read -/
structure BadPoint where
  text : String
  deriving DecidableEq, Repr

/-- what is said of a point that cannot be read -/
def BadPoint.message (fault : BadPoint) : String := "Expected X,Y but got '" ++ fault.text ++ "'"

/-- two decimal numbers with a comma between them -/
def readPoint (text : String) : Except BadPoint (Float × Float) :=
  match (pieces ',' text.toList).map decimalLiteral? with
  | [some x, some y] => .ok (x, y)
  | _ => .error ⟨text⟩

/-! ## Options -/

/-- options that stand before the command -/
inductive CommonOption where
  | config
  | verbose
  | logFile
  | logJson
  | help
  deriving DecidableEq, Repr

/-- options that stand after the command -/
inductive RequestOption where
  | width
  | height
  | output
  | screen
  | touch
  | debug
  | format
  | help
  deriving DecidableEq, Repr

/-- an option with a value, by all its names -/
def withValue {κ : Type} (which : κ) (names : List String) : Grammar κ := names.map (·.toList, ⟨which, true⟩)

/-- an option without a value, by all its names -/
def withoutValue {κ : Type} (which : κ) (names : List String) : Grammar κ := names.map (·.toList, ⟨which, false⟩)

def commonGrammar : Grammar CommonOption :=
  withoutValue .help ["-h", "--help"] ++ withValue .config ["--config", "-c"]
  ++ withoutValue .verbose ["--verbose", "-v"] ++ withValue .logFile ["--log-file"]
  ++ withoutValue .logJson ["--log-json"]

def parseGrammar : Grammar RequestOption :=
  withoutValue .help ["-h", "--help"] ++ withValue .width ["--width"] ++ withValue .height ["--height"]
  ++ withValue .output ["--output", "-o"]

def renderGrammar : Grammar RequestOption :=
  withoutValue .help ["-h", "--help"] ++ withValue .output ["--output", "-o"] ++ withValue .screen ["--screen", "-s"]
  ++ withValue .touch ["--touch", "-t"] ++ withoutValue .debug ["--debug"] ++ withValue .format ["--format", "-f"]
  ++ withValue .width ["--width"] ++ withValue .height ["--height"]

/-- how to use the program -/
def usage : String :=
  "usage: tft-sim [-h] [--config CONFIG] [--verbose] [--log-file LOG_FILE] [--log-json] \x7bparse,render\x7d ..."

/-! ## Reading -/

/-- the text in the place of a value that is taken away -/
def divider : String := "--"

/-- what is left of the text of a value -/
def kept (text : String) : Json := if text = divider then .arr [] else .str text

/-- the common part with one option taken in -/
def Common.take (c : Common) (which : CommonOption) (value : Option String) : Except Refusal Common :=
  match which with
  | .config => .ok { c with config := value.map kept }
  | .verbose => .ok { c with verbose := true }
  | .logFile => .ok { c with logFile := value.map kept }
  | .logJson => .ok { c with logJson := true }
  | .help => .error .help

/-- what has been read of a request -/
structure Draft where
  sketch : Option String := none
  width : Option Json := none
  height : Option Json := none
  output : Option Json := none
  screen : Option Json := none
  touches : List (Option (Float × Float)) := []
  debug : Bool := false
  format : Option Json := none
  /-- whether there was a word that nothing asks for -/
  strays : Bool := false

/-- a whole number as the value of an option -/
def readSize (text : String) : Except Refusal Json :=
  if text = divider then .ok (kept text)
  else match wholeArgument? text.toList with
    | some n => .ok (.int n)
    | none => .error .misuse

/-- a point as the value of an option -/
def readTouch (text : String) : Except Refusal (Option (Float × Float)) :=
  if text = divider then .ok none
  else match readPoint text with
    | .ok point => .ok (some point)
    | .error _ => .error .misuse

/-- one of the two formats as the value of an option -/
def readFormat (text : String) : Except Refusal Json :=
  if text = "png" ∨ text = "svg" ∨ text = divider then .ok (kept text) else .error .misuse

/-- the draft with one option taken in -/
def Draft.take (d : Draft) (which : RequestOption) (value : Option String) : Except Refusal Draft :=
  let text := value.getD ""
  match which with
  | .width => return { d with width := some (← readSize text) }
  | .height => return { d with height := some (← readSize text) }
  | .output => return { d with output := some (kept text) }
  | .screen => return { d with screen := some (kept text) }
  | .touch => return { d with touches := d.touches ++ [← readTouch text] }
  | .debug => return { d with debug := true }
  | .format => return { d with format := some (← readFormat text) }
  | .help => throw .help

/-- the draft of what is said after the command; the first plain word names the sketch, and so does the first after a
divider if none came before -/
def Draft.read (d : Draft) : List (Event RequestOption) → Except Refusal Draft
  | [] => .ok d
  | .wrong :: _ => .error .misuse
  | .unknown :: rest => read { d with strays := true } rest
  | .chosen which value :: rest => do read (← d.take which value) rest
  | .plain text _ :: .divider :: rest =>
    if d.sketch.isNone then read { d with sketch := some text } rest
    else read { d with strays := true } rest
  | .divider :: .plain text _ :: rest =>
    if d.sketch.isNone then read { d with sketch := some text } rest
    else read { d with strays := true } rest
  | .divider :: rest => read { d with strays := true } rest
  | .plain text _ :: rest =>
    if d.sketch.isNone then read { d with sketch := some text } rest
    else read { d with strays := true } rest

/-- the events of words, unless one of them may mean several options -/
def eventsOf {κ : Type} (g : Grammar κ) (texts : List String) : Except Refusal (List (Event κ)) :=
  match classifyAll g texts with
  | some words => .ok (events g words)
  | none => .error .misuse

/-- a part of a request that must be there -/
def needed {α : Type} : Option α → Except Refusal α
  | some a => .ok a
  | none => .error .misuse

/-- what a command is asked, and whether there were words that nothing asks for -/
def readRequest (command : String) (texts : List String) : Except Refusal (Request × Bool) := do
  if command = "parse" then
    let d ← Draft.read {} (← eventsOf parseGrammar texts)
    return (.parse { sketch := ← needed d.sketch, width := d.width, height := d.height, output := d.output }, d.strays)
  else if command = "render" then
    let d ← Draft.read {} (← eventsOf renderGrammar texts)
    return (.render {
      sketch := ← needed d.sketch, output := ← needed d.output, screen := d.screen, touches := d.touches
      debug := d.debug, format := d.format, width := d.width, height := d.height }, d.strays)
  else throw .misuse

/-- what is said up to the command, and what the command is asked -/
def readCommon (c : Common) (strays : Bool) : List (Event CommonOption) → Except Refusal Invocation
  | .plain command after :: _ => do
    let (request, more) ← readRequest command after
    if strays || more then throw .misuse
    return ⟨c, request⟩
  | .chosen which value :: rest => do readCommon (← c.take which value) strays rest
  | .unknown :: rest => readCommon c true rest
  | _ => .error .misuse

/-- the invocation that a command line asks for -/
def read (texts : List String) : Except Refusal Invocation := do readCommon {} false (← eventsOf commonGrammar texts)

end SketchPanel.CommandLine

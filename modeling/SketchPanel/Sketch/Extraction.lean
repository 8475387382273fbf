/-
The outline of a sketch (`SceneExtractor`, `parse_source`). Declarations are read line by line. Every function whose
name has the drawing mark in front becomes a screen, made of the drawing calls and touch tests between the braces of its
body; a sketch without such a function becomes one screen of all its lines. Reading a number may fail, and so may the
use of a setting that is not there or is not of the right kind; what was found before stays, and the failure becomes the
only error.
-/
import SketchPanel.Json.Loose
import SketchPanel.Json.Plain
import SketchPanel.Sketch.Body
import SketchPanel.Sketch.Command
import SketchPanel.Sketch.Declaration
import SketchPanel.Sketch.TouchTest

namespace SketchPanel.Sketch

open SketchPanel.Text SketchPanel.Number SketchPanel.Scene

/-! ## Failures and notes -/

/-- what can stop the reading of a sketch -/
inductive Fault where
  | tooLong (fault : TooLong)
  | missingSetting (key : String)
  | mismatch (fault : Json.Mismatch)
  /-- no line at an index -/
  | noLine
  deriving DecidableEq, Repr

/-- what is said of it -/
def Fault.message : Fault → String
  | .tooLong fault => fault.message
  | .missingSetting key => quoted key
  | .mismatch fault => fault.message
  | .noLine => "list index out of range"

/-- the word for the kind of a failure -/
def Fault.kind : Fault → String
  | .tooLong _ => "ValueError"
  | .missingSetting _ => "KeyError"
  | .mismatch fault => fault.kind
  | .noLine => "IndexError"

/-- the failure as a log shows it -/
def Fault.failure (fault : Fault) : Log.Failure := ⟨fault.kind, fault.message⟩

/-- the reading of numbers as part of the reading of a sketch -/
def reading {ν α : Type} (x : Traced ν TooLong α) : Traced ν Fault α := x.map id .tooLong

/-- what reading leaves behind: log records and findings -/
inductive Note where
  | log (record : Log.Record)
  | finding (diagnostic : Diagnostic)

/-- the log record, if the note is one -/
def Note.record? : Note → Option Log.Record
  | .log record => some record
  | .finding _ => none

/-- the finding, if the note is one -/
def Note.finding? : Note → Option Diagnostic
  | .log _ => none
  | .finding diagnostic => some diagnostic

/-! ## Declarations -/

/-- the headers that are included -/
def includesOf (lines : List Line) : List String :=
  lines.filterMap fun line => (include? line).map fun (target, _) => .ofList target

/-- the states that a line declares: members of an enumeration, then a state binding -/
def statesOn (line : Line) : List State :=
  (match enumeration? line with
    | some (e, _) => e.members.map fun (name, value) => ⟨.ofList name, .ofList value, .enumeration, []⟩
    | none => [])
  ++ (match stateBinding? line with
    | some (b, _) => [⟨.ofList b.name, .ofList b.value, .variable, []⟩]
    | none => [])

/-- the states that are declared -/
def statesOf (lines : List Line) : List State := lines.flatMap statesOn

/-- the variables that are declared, with their lines counted from one -/
def variablesOf (lines : List Line) : List Variable :=
  lines.zipIdx.filterMap fun (line, index) => (variableHeader? line).map fun (v, _) =>
    { name := .ofList v.name, type := .ofList v.type, line := (index : Int) + 1 }

/-- the functions whose headers are found, with their lines counted from one -/
def functionsOf (lines : List Line) : List Function :=
  lines.zipIdx.filterMap fun (line, index) => (function? line).map fun (f, _) =>
    ⟨.ofList f.name, .ofList f.returnType, f.parameters.map .ofList, (index : Int) + 1⟩

/-- functions without those whose name came before -/
def firstOfEach (functions : List Function) : List Function :=
  functions.foldl (fun kept f => if kept.any (·.name == f.name) then kept else kept ++ [f]) []

/-- the first function of each name that draws a screen; only a text can be what a name starts with -/
def drawFunctions (o : Options) (functions : List Function) : Except Fault (List Function) :=
  match o.drawPrefix, functions with
  | .str start, _ => .ok (firstOfEach (functions.filter fun f => (after? start.toList f.name.toList).isSome))
  | _, [] => .ok []
  | other, _ => .error (.mismatch (.start other.kind))

/-! ## Screens -/

/-- the statements of a line that speak to the panel; only a text can be looked for in a statement -/
def calls (o : Options) (line : Line) : Except Fault (List Line) :=
  match o.apiPrefix, statements (trim line) with
  | .str mark, found => .ok (found.filter (occurs mark.toList))
  | _, [] => .ok []
  | other, _ => .error (.mismatch (.part other.kind))

/-- the elements of statements, numbered from the given number on -/
def elementsOf (o : Options) (lineNumber : Int) : Int → List Line → Traced Log.Record TooLong (List Element)
  | _, [] => pure []
  | number, statement :: rest => do
    let here ← command o statement number lineNumber
    let others ← elementsOf o lineNumber (number + 1) rest
    return here.toList ++ others

/-- the lines after the one at an index in which an action is looked for. A floating number of lines will do as long as
it reaches beyond the last. -/
def window (o : Options) (index : Int) (following : List Line) : Except Fault (List Line) :=
  match o.actionWindow.whole?, o.actionWindow with
  | some count, _ => .ok (following.take count.toNat)
  | none, .real count =>
    if (Scalar.whole (index + 1 + following.length)).lt (.real (Float.ofInt (index + 1) + count)) then .ok following
    else .error (.mismatch (.count o.actionWindow.kind))
  | none, other => .error (.mismatch (.sum (Json.kind (.int index)) other.kind))

/-- the value of the first assignment on any of the lines -/
def assigned? (lines : List Line) : Option Line := (lines.findSome? assignment?).map fun ((_, value), _) => value

/-- the action of a touch test: the assignment in the rest of its line, or else in the lines that follow -/
def actionOf (o : Options) (rest : Line) (index : Int) (following : List Line) : Except Fault String := do
  match assigned? [rest] with
  | some value => return .ofList value
  | none => return ((assigned? ((← window o index following).map trim)).map String.ofList).getD "touch"

/-- the zone of a touch test, named for the index of its line -/
def zoneOf (o : Options) (line : Line) (index : Int) (following : List Line) : Except Fault (Option Zone) := do
  match ← (touchTest? line).mapError .tooLong with
  | none => return none
  | some (b, rest) =>
    return some {
      id := s!"touch_{index}", x := b.x1, y := b.y1, width := b.x2 - b.x1, height := b.y2 - b.y1
      action := ← actionOf o rest index following }

/-- the line at an index with the lines after it; an index below nought counts from the end, and then the first line
comes after the last -/
def around? (lines : List Line) (index : Int) : Option (Line × List Line) :=
  let place := if index < 0 then index + lines.length else index
  if place < 0 then none
  else match lines.drop place.toNat with
    | [] => none
    | line :: following => some (line, if index < 0 then following ++ lines else following)

/-- the zone of the touch test on the line at an index -/
def zoneAt (o : Options) (lines : List Line) (index : Int) : Except Fault (Option Zone) :=
  match around? lines index with
  | none => .error .noLine
  | some (line, following) => zoneOf o (trim line) index following

/-- whether a line is worth reading as a touch test -/
def maybeTouch (line : Line) : Bool :=
  occurs "getTouch".toList line || (occurs ['>', '='] line && occurs ['<', '='] line)

/-- elements and zones of so many lines from an index on -/
def contents (o : Options) : Nat → Nat → List Line → Int → Traced Log.Record Fault (List Element × List Zone)
  | 0, _, _, _ => pure ([], [])
  | _, _, [], _ => pure ([], [])
  | count + 1, index, line :: following, number => do
    let drawn ← Traced.lift (calls o line)
    let elements ← reading (elementsOf o ((index : Int) + 1) number drawn)
    let zone ← if maybeTouch (trim line) then Traced.lift (zoneOf o (trim line) index following) else pure none
    let (others, zones) ← contents o count (index + 1) following (number + drawn.length)
    return (elements ++ others, zone.toList ++ zones)

/-- how many statements of so many lines speak to the panel, as far as that can be told -/
def callCount (o : Options) (count : Nat) (lines : List Line) : Nat :=
  ((lines.take count).flatMap fun line => (calls o line).toOption.getD []).length

/-- a screen of elements and zones, with the colour of its first full-screen fill behind them -/
def screenOf (id name : String) (elements : List Element) (zones : List Zone) : Screen :=
  { id, name, elements, zones, background := (Element.firstFill? elements).getD Colour.black }

/-- the body of a function that draws, looked for from its header on -/
def drawnBody (lines : List Line) (f : Function) : Body := body lines f.name.toList (f.line - 1)

/-- what is said of a body that nothing closes -/
def unclosed (f : Function) : Diagnostic :=
  { message := s!"Body of {f.name} is never closed; read to end of file", line := f.line, severity := .warning }

/-- the screens of functions, their calls numbered from the given number on -/
def screensOf (o : Options) (lines : List Line) : List Function → Int → Traced Note Fault (List Screen)
  | [], _ => pure []
  | f :: functions, number => do
    let b := drawnBody lines f
    if !b.isEmpty && !b.closed then Traced.tell (.finding (unclosed f))
    let inside := lines.drop b.first
    let (elements, zones) ← (contents o (b.stop - b.first) b.first inside number).map .log id
    let others ← screensOf o lines functions (number + callCount o (b.stop - b.first) inside)
    return screenOf f.name f.name elements zones :: others

/-- the screens of a sketch; without a function that draws, one of all its lines -/
def screens (o : Options) (lines : List Line) (functions : List Function) : Traced Note Fault (List Screen) := do
  match ← Traced.lift (drawFunctions o functions) with
  | [] =>
    let (elements, zones) ← (contents o lines.length 0 lines 0).map .log id
    return [screenOf "main" "Main Screen" elements zones]
  | draws => screensOf o lines draws 0

/-! ## The whole sketch -/

/-- the rotation of the first line that sets one -/
def firstRotation : List Line → Except TooLong (Option Int)
  | [] => .ok none
  | line :: rest => do
    match ← rotation? line with
    | some (n, _) => return some n
    | none => firstRotation rest

/-- the geometry of a sketch -/
def geometryOf (o : Options) (lines : List Line) : Except Fault Geometry := do
  match o.rotation with
  | none => .error (.missingSetting "rotation")
  | some rotation =>
    let set ← (firstRotation lines).mapError .tooLong
    return ⟨(set.map .int).getD rotation, o.width, o.height⟩

/-- advice about an outline: no screens, or no include of the panel's library -/
def advice (o : Options) (screens : List Screen) (includes : List String) : List Diagnostic :=
  (if screens.isEmpty then
    [{ message := "No screens found. Make sure your code includes drawing functions.", severity := .warning }]
  else [])
  ++ (if includes.any fun target => (Json.str target).same o.requiredInclude then []
  else
    [{ message := o.requiredInclude.plain ++ " not found in includes. Make sure to include the library.",
       severity := .warning }])

/-- what is said of a failure -/
def failureFinding (fault : Fault) : Diagnostic := { message := "Parse error: " ++ fault.message }

/-- the outline of a sketch, and the log of its reading -/
def extract (o : Options) (source : String) : Outline × List Log.Record :=
  let lines := Text.lines source.toList
  let found : Outline := {
    includes := includesOf lines, states := statesOf lines, declarations := variablesOf lines
    functions := functionsOf lines }
  let built := screens o lines found.functions
  let findings := built.notes.filterMap Note.finding?
  let log := built.notes.filterMap Note.record?
  let failed (outline : Outline) (fault : Fault) : Outline × List Log.Record :=
    ({ outline with diagnostics := findings ++ [failureFinding fault] },
      log ++ [{ Log.note Log.error .extraction "Sketch extraction failed" with failure := some fault.failure }])
  match built.result with
  | .error fault => failed found fault
  | .ok screens =>
    match geometryOf o lines with
    | .error fault => failed { found with screens } fault
    | .ok geometry =>
      ({ found with
          screens, geometry := some geometry
          diagnostics := findings ++ advice o screens found.includes },
        log ++ [Log.note Log.debug .extraction
          (s!"Extracted {screens.length} screens, {found.functions.length} functions, "
            ++ s!"{found.states.length} states from {lines.length} lines")])

end SketchPanel.Sketch

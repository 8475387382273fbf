/-
Log lines (`LOG_FORMAT`, `JsonFormatter`). A plain line has the time, the logger, the level and the message; a
structured line is an object with these and whatever else the record carries. The time is counted in seconds and shown
by the calendar.
-/
import SketchPanel.Json.Writer
import SketchPanel.Log.Record
import SketchPanel.Log.Template

namespace SketchPanel.Log

open Number Text

/-! ## Time -/

/-- a number with leading zeros up to a width -/
def padded (width n : Nat) : String :=
  let digits := Nat.toDigits 10 n
  .ofList (List.replicate (width - digits.length) '0' ++ digits)

/-- year, month and day of a day counted from the first of 1970 -/
def civilDate (days : Int) : Int × Nat × Nat :=
  let shifted := days + 719468
  let era := shifted / 146097
  let dayOfEra := (shifted % 146097).toNat
  let yearOfEra := (dayOfEra - dayOfEra / 1460 + dayOfEra / 36524 - dayOfEra / 146096) / 365
  let dayOfYear := dayOfEra - (365 * yearOfEra + yearOfEra / 4 - yearOfEra / 100)
  let fromMarch := (5 * dayOfYear + 2) / 153
  let day := dayOfYear - (153 * fromMarch + 2) / 5 + 1
  let month := if fromMarch < 10 then fromMarch + 3 else fromMarch - 9
  ((yearOfEra : Int) + era * 400 + (if month ≤ 2 then 1 else 0), month, day)

/-- day and time of day, with something between them -/
def dayAndTime (between : String) (seconds : Int) : String :=
  let (year, month, day) := civilDate (seconds / 86400)
  let clock := (seconds % 86400).toNat
  padded 4 year.toNat ++ "-" ++ padded 2 month ++ "-" ++ padded 2 day ++ between ++ padded 2 (clock / 3600) ++ ":"
    ++ padded 2 (clock / 60 % 60) ++ ":" ++ padded 2 (clock % 60)

/-- a moment in a structured line; the parts of a second only if there are any -/
def timestamp (seconds : Int) (micros : Nat) : String :=
  dayAndTime "T" seconds ++ (if micros = 0 then "" else "." ++ padded 6 micros)

/-- a moment in a plain line, to the thousandth of a second -/
def plainTime (millis : Nat) : String := dayAndTime " " (millis / 1000) ++ "," ++ padded 3 (millis % 1000)

/-- reasons why a moment is not shown -/
inductive TimeFault where
  | notANumber (kind : String)
  | undefined
  /-- it cannot be counted in seconds -/
  | outOfRange
  /-- its year cannot be counted -/
  | tooLarge
  /-- the calendar has no such year -/
  | noYear (year : Int)
  deriving DecidableEq, Repr

/-- the word for the kind of a fault -/
def TimeFault.kind : TimeFault → String
  | .notANumber _ => "TypeError"
  | .undefined | .noYear _ => "ValueError"
  | .outOfRange => "OverflowError"
  | .tooLarge => "OSError"

/-- what is said of a moment that is not shown -/
def TimeFault.message : TimeFault → String
  | .notANumber kind => "'" ++ kind ++ "' object cannot be interpreted as an integer"
  | .undefined => "Invalid value NaN (not a number)"
  | .outOfRange => "timestamp out of range for platform time_t"
  | .tooLarge => "[Errno 75] Value too large for defined data type"
  | .noYear year => s!"year {year} is out of range"

/-- whether seconds can be counted in sixty-four bits -/
def countable (seconds : Int) : Bool := -0x8000000000000000 ≤ seconds && seconds < 0x8000000000000000

/-- the millionths of a second in what a floating number has beyond its whole part -/
def microsBeyond (x : Float) (whole : Int) : Except Scalar.Fault Int := do
  (Scalar.real ((x - (← (Scalar.whole whole).toFloat)) * 1000000)).round

/-- seconds and millionths of a moment -/
def counted (created : Json) : Except TimeFault (Int × Nat) :=
  match created.whole?, created with
  | some n, _ => if countable n then .ok (n, 0) else .error .outOfRange
  | none, .real x =>
    match (Scalar.real x).truncate with
    | .error .undefinedPart => .error .undefined
    | .error _ => .error .outOfRange
    | .ok seconds =>
      match microsBeyond x seconds with
      | .error _ => .error .outOfRange
      | .ok micros =>
        let total := seconds * 1000000 + micros
        if countable seconds then .ok (total / 1000000, (total % 1000000).toNat) else .error .outOfRange
  | none, other => .error (.notANumber other.kind)

/-- the year of a moment, if it can be counted at all -/
def yearOf (seconds : Int) : Except TimeFault Int :=
  let year := (civilDate (seconds / 86400)).1
  if year - 1900 < -0x80000000 ∨ 0x7FFFFFFF < year - 1900 then .error .tooLarge else .ok year

/-- a year between the first and the last of the calendar -/
def checkedYear (seconds : Int) : Except TimeFault Unit := do
  let year ← yearOf seconds
  if year < 1 ∨ 9999 < year then throw (.noYear year)

/-- seconds and millionths of a moment that the calendar shows; the day before it is looked at as well -/
def moment (created : Json) : Except TimeFault (Int × Nat) := do
  let (seconds, micros) ← counted created
  checkedYear seconds
  checkedYear (seconds - 86400)
  return (seconds, micros)

/-! ## Lines -/

/-- a plain line but for its time -/
def Record.line (r : Record) : String := r.logger ++ " - " ++ levelName r.level ++ " - " ++ r.message

/-- a plain line but for its time, with the failure on a line below -/
def Record.lines (r : Record) : String :=
  match r.failure with
  | none => r.line
  | some f => r.line ++ (if r.line.endsWith "\n" then "" else "\n") ++ f.line

/-- kind and text of a failure in a structured line -/
def Failure.core (f : Failure) : Json.Fields := [("type", .str f.kind), ("message", .str f.text)]

/-- a failure in a structured line -/
def Failure.toJson (f : Failure) : Json := .obj (f.core ++ [("traceback", .arr [.str (f.line ++ "\n")])])

/-- the attributes that every record has; others came from outside -/
def ownAttributes : List String := [
  "name", "msg", "args", "levelname", "levelno", "pathname", "filename", "module", "exc_info", "exc_text",
  "stack_info", "lineno", "funcName", "created", "msecs", "relativeCreated", "thread", "threadName", "processName",
  "process", "message", "asctime"]

/-- reasons why what came in the stead of a failure is none -/
inductive CauseFault where
  | noParts (kind : String)
  | tooFew (count : Nat)
  | tooMany
  /-- its first part is no kind of failure -/
  | noKind (kind : String)
  deriving DecidableEq

/-- the word for the kind of such a reason -/
def CauseFault.kind : CauseFault → String
  | .noParts _ => "TypeError"
  | .tooFew _ | .tooMany => "ValueError"
  | .noKind _ => "AttributeError"

/-- what is said of it -/
def CauseFault.message : CauseFault → String
  | .noParts kind => "cannot unpack non-iterable " ++ kind ++ " object"
  | .tooFew count => s!"not enough values to unpack (expected 3, got {count})"
  | .tooMany => "too many values to unpack (expected 3)"
  | .noKind kind => "'" ++ kind ++ "' object has no attribute '__name__'"

/-- what a record has of its failure: the failure if there is one, or whatever else came in its stead -/
inductive Cause where
  | own (failure : Option Failure)
  | other (value : Json)

/-- the kinds of the parts of a value, if it has parts -/
def partKinds? : Json → Option (List String)
  | .str s => some (s.toList.map fun _ => Json.kind (.str ""))
  | .arr items => some (items.map Json.kind)
  | .obj fields => some (fields.map fun (key, _) => Json.kind (.str key))
  | _ => none

/-- the failure of a record; nothing in its stead is one, but nought and whatever is empty say that there is none -/
def Cause.failure? : Cause → Except CauseFault (Option Failure)
  | .own failure => .ok failure
  | .other value =>
    if !value.truthy then .ok none
    else match partKinds? value with
      | none => .error (.noParts value.kind)
      | some [kind, _, _] => .error (.noKind kind)
      | some kinds => .error (if kinds.length < 3 then .tooFew kinds.length else .tooMany)

/-- reasons why a record has no structured line -/
inductive FormatFault where
  | fill (fault : FillFault)
  | time (fault : TimeFault)
  | cause (fault : CauseFault)
  deriving DecidableEq

/-- the word for the kind of such a reason -/
def FormatFault.kind : FormatFault → String
  | .fill fault => fault.kind
  | .time fault => fault.kind
  | .cause fault => fault.kind

/-- what is said of a record without a structured line -/
def FormatFault.message : FormatFault → String
  | .fill fault => fault.message
  | .time fault => fault.message
  | .cause fault => fault.message

/-- the values of a record: its own list holds several, and whatever else came in its stead is one -/
inductive Values where
  | own (values : List Json)
  | other (value : Json)

/-- the message of attributes: the text alone if it has no values -/
def messageOf (attributes : Json.Fields) (values : Values) : Except FillFault String :=
  let text := ((attributes.get? "msg").getD (.str "")).plain
  match values with
  | .own [] => .ok text
  | .own values => fill text (.several values)
  | .other value => if value.truthy then fill text (.single value) else .ok text

/-- the object of a structured line, from the attributes of a record -/
def payload (attributes : Json.Fields) (values : Values) (cause : Cause) : Except FormatFault Json := do
  let own (name : String) : Json := .ofOption (attributes.get? name)
  let (seconds, micros) ← (moment ((attributes.get? "created").getD (.int 0))).mapError .time
  let message ← (messageOf attributes values).mapError .fill
  let fields : Json.Fields := [
    ("timestamp", .str (timestamp seconds micros)), ("level", own "levelname"), ("name", own "name"),
    ("message", .str message), ("module", own "module"), ("line", own "lineno")]
  let fields := (attributes.filter fun (key, _) => !ownAttributes.contains key).foldl
    (fun fields (key, value) => fields.put key value) fields
  return .obj (match ← cause.failure?.mapError .cause with
    | none => fields
    | some f => fields.put "exception" f.toJson)

/-- the fields of a structured line for a record, but for its time, its place and the way to its failure -/
def Record.coreFields (r : Record) : Json.Fields :=
  [("level", .str (levelName r.level)), ("name", .str r.logger), ("message", .str r.message)]
  ++ match r.failure with
    | none => []
    | some f => [("exception", .obj f.core)]

/-- these fields as an object -/
def Record.core (r : Record) : Json := .obj r.coreFields

/-- a whole line of the log, said at a moment -/
def Record.written (structured : Bool) (millis : Nat) (r : Record) : String :=
  if structured then
    Json.compact (.obj (("timestamp", .str (timestamp (millis / 1000) (millis % 1000 * 1000))) :: r.coreFields))
  else plainTime millis ++ " - " ++ r.lines

end SketchPanel.Log

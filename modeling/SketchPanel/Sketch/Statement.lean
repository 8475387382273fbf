/-
Statements of a line and arguments of a call (`split_statements`, `call_arguments`). Both are split at characters that
stand outside text literals; a literal runs from one double quote to the next, and a backslash in it takes the next
character with it.
-/
import SketchPanel.Text.Scan

namespace SketchPanel.Sketch

open SketchPanel.Text

/-- a line of a sketch, or a part of one -/
abbrev Line := List Char

/-! ## Text literals -/

/-- whether the next character stands in a text literal -/
inductive Quoting where
  | outside
  | inside
  /-- inside, and taken along by a backslash -/
  | escaped
  deriving DecidableEq, Repr

/-- where a character leaves the scan -/
def Quoting.step : Quoting → Char → Quoting
  | .outside, c => if c = '"' then .inside else .outside
  | .inside, c => if c = '\\' then .escaped else if c = '"' then .outside else .inside
  | .escaped, _ => .inside

/-- a character put in front of the first piece -/
def onFirst (c : Char) : List Line → List Line
  | [] => [[c]]
  | piece :: pieces => (c :: piece) :: pieces

/-- what a text literal holds, escapes as they stand, given the text after its opening quote. Nothing may follow the
closing quote, and a backslash takes no line end. -/
def literalBody? : Line → Option Line
  | [] => none
  | '"' :: rest => if rest = [] then some [] else none
  | '\\' :: [] => none
  | '\\' :: c :: rest => if c = '\n' then none else (literalBody? rest).map fun body => '\\' :: c :: body
  | c :: rest => (literalBody? rest).map fun body => c :: body

/-- what a text literal holds, if the text is one and nothing else, blanks around it apart -/
def textLiteral? (text : Line) : Option Line :=
  match trim text with
  | '"' :: rest => literalBody? rest
  | _ => none

/-! ## Statements -/

/-- the segments between semicolons that stand outside literals -/
def segments : Quoting → Line → List Line
  | _, [] => [[]]
  | q, c :: rest =>
    if q = .outside ∧ c = ';' then [] :: segments .outside rest
    else onFirst c (segments (q.step c) rest)

/-- the statements of a line: its segments without blanks at the ends, empty ones left out -/
def statements (line : Line) : List Line := ((segments .outside line).map trim).filter (· ≠ [])

/-! ## Calls -/

/-- the raw arguments up to the bracket that closes the call, none if nothing closes it. Commas in inner brackets
and in literals do not separate. -/
def rawArguments : Quoting → Nat → Line → Option (List Line)
  | _, _, [] => none
  | q, depth, c :: rest =>
    if q ≠ .outside then (rawArguments (q.step c) depth rest).map (onFirst c)
    else if c = '(' then (rawArguments q (depth + 1) rest).map (onFirst c)
    else if c = ')' then
      match depth with
      | 0 => some [[]]
      | outer + 1 => (rawArguments q outer rest).map (onFirst c)
    else if c = ',' ∧ depth = 0 then (rawArguments q depth rest).map ([] :: ·)
    else (rawArguments (q.step c) depth rest).map (onFirst c)

/-- a name that starts where a word starts or ends, and its opening bracket -/
def callOpening (name : Line) (before : Option Char) (text : Line) : Option (Unit × Line) := do
  if !wordEdge before text.head? then none
  let text ← after? name text
  let text ← token? ['('] text
  return ((), text)

/-- the arguments of the first call of a function on the line, without blanks at their ends -/
def arguments? (line name : Line) : Option (List Line) := do
  let (_, rest) ← search (callOpening name) none line
  let arguments := (← rawArguments .outside 0 rest).map trim
  return if arguments = [[]] then [] else arguments

end SketchPanel.Sketch

/-
Touch tests (`recognize_touch_predicate`, `recognize_assignment`): a condition that holds a point between two bounds
each way, and the assignment that follows it.
-/
import SketchPanel.Number.Numeral
import SketchPanel.Sketch.Statement

namespace SketchPanel.Sketch

open SketchPanel.Text SketchPanel.Number

/-- the bounds of a touch test, as numerals or as numbers -/
structure Bounds (α : Type) where
  x1 : α
  x2 : α
  y1 : α
  y2 : α
  deriving DecidableEq, Repr

/-- a variable, a comparison sign and a numeral -/
def comparison (name : Char) (operator : Line) (text : Line) : Option (Line × Line) := do
  let text ← after? [name] text
  let text ← token? operator text
  run? isDigit (trimStart text)

/-- the text after a conjunction and the blanks around it, following a numeral. The word must stand apart from what
is before and after it. -/
def conjoined? (text : Line) : Option Line :=
  match trimStart text with
  | '&' :: '&' :: rest => some (trimStart rest)
  | other => do
    let rest ← after? "and".toList other
    if text.head?.any isBlank && !rest.head?.any isWord then some (trimStart rest) else none

/-- a touch test: lower and upper bound sideways, then downwards -/
def touchTestAt (_ : Option Char) (text : Line) : Option (Bounds Line × Line) := do
  let (x1, text) ← comparison 'x' ['>', '='] text
  let (x2, text) ← comparison 'x' ['<', '='] (← conjoined? text)
  let (y1, text) ← comparison 'y' ['>', '='] (← conjoined? text)
  let (y2, text) ← comparison 'y' ['<', '='] (← conjoined? text)
  return (⟨x1, x2, y1, y2⟩, text)

/-- the touch test on a line -/
def touchTest? (line : Line) : Except TooLong (Option (Bounds Int × Line)) :=
  match search touchTestAt none line with
  | none => .ok none
  | some (digits, rest) => do
    let x1 ← readDigits digits.x1
    let x2 ← readDigits digits.x2
    let y1 ← readDigits digits.y1
    let y2 ← readDigits digits.y2
    return some (⟨x1, x2, y1, y2⟩, rest)

/-- an assignment of one word to another; a comparison is none -/
def assignmentAt (before : Option Char) (text : Line) : Option ((Line × Line) × Line) := do
  if before.any isWord then none
  let (target, text) ← run? isWord text
  let text ← token? ['='] text
  if text.head? = some '=' then none
  let (value, rest) ← run? isWord (trimStart text)
  return ((target, value), rest)

/-- the first assignment on a line: target and value -/
def assignment? (line : Line) : Option ((Line × Line) × Line) := search assignmentAt none line

end SketchPanel.Sketch

/-
Bodies of functions, found by counting braces (`find_function_body`, `extract_body`). A body starts after the first line
that holds the name with its bracket and an opening brace, at depth one, and ends before the line on which the depth
falls to nought.
-/
import SketchPanel.Sketch.Statement

namespace SketchPanel.Sketch

open SketchPanel.Text

/-- lines from `first` up to but not including `stop`, and whether the braces were balanced there -/
structure Body where
  first : Nat
  stop : Nat
  closed : Bool
  deriving DecidableEq, Repr

/-- a body without lines -/
def Body.isEmpty (b : Body) : Bool := decide (b.stop ≤ b.first)

/-- how many braces a line opens beyond those it closes -/
def balance (line : Line) : Int := (line.count '{' : Int) - line.count '}'

/-- whether a line may open the body of a function -/
def opens (name line : Line) : Bool := occurs (name ++ ['(']) (trim line) && (trim line).contains '{'

/-- the index at which lines, read from the given depth, have closed, and whether they have -/
def closing (depth : Int) (index : Nat) : List Line → Nat × Bool
  | [] => (index, false)
  | line :: rest => if depth + balance line ≤ 0 then (index, true) else closing (depth + balance line) (index + 1) rest

/-- the body that opens on the first line that may open it -/
def bodyFrom (name : Line) (index : Nat) : List Line → Body
  | [] => ⟨0, 0, true⟩
  | line :: rest =>
    if opens name line then
      let (stop, closed) := closing 1 (index + 1) rest
      ⟨index + 1, stop, closed⟩
    else bodyFrom name (index + 1) rest

/-- the body of a function, looked for from a line on -/
def body (lines : List Line) (name : Line) (searchFrom : Int) : Body :=
  bodyFrom name searchFrom.toNat (lines.drop searchFrom.toNat)

end SketchPanel.Sketch

/-
Paths: what a path starts from and its steps. Empty steps and steps that stay in place are dropped; a path without
steps is the place itself.
-/
import SketchPanel.Json.Loose
import SketchPanel.Text.Scan

namespace SketchPanel.Files

open Text

/-- a path: the slashes it starts with and its steps -/
structure Path where
  root : List Char
  steps : List (List Char)
  deriving DecidableEq, Repr

namespace Path

/-- what a path starts with: two slashes are a root of their own, any other number of slashes is one -/
def rootOf (text : List Char) : List Char :=
  match text.takeWhile (· = '/') with
  | [] => []
  | ['/', '/'] => ['/', '/']
  | _ => ['/']

/-- whether a step goes anywhere -/
def moves (step : List Char) : Bool := step != [] && step != ['.']

/-- the path that a text spells -/
def read (text : String) : Path := ⟨rootOf text.toList, (pieces '/' text.toList).filter moves⟩

/-- the path that a value spells, if it is a text -/
def ofValue : Json → Except Json.Mismatch Path
  | .str text => .ok (read text)
  | other => .error (.path other.kind)

/-- the path as a text -/
def text (p : Path) : String :=
  if p.root = [] ∧ p.steps = [] then "." else .ofList (p.root ++ join ['/'] p.steps)

/-- the path one step back -/
def parent (p : Path) : Path := { p with steps := p.steps.dropLast }

/-- the last step -/
def name (p : Path) : List Char := p.steps.getLast?.getD []

/-- a name cut before its last dot, if it has one -/
def cutAtDot (name : List Char) : Option (List Char × List Char) :=
  match name.reverse.takeWhile (· ≠ '.'), name.reverse.dropWhile (· ≠ '.') with
  | _, [] => none
  | after, _ :: before => some (before.reverse, '.' :: after.reverse)

/-- the ending of a name from its last dot on, if there is something on either side of the dot -/
def suffix (name : List Char) : List Char :=
  match cutAtDot name with
  | some (_ :: _, '.' :: c :: more) => '.' :: c :: more
  | _ => []

/-- the ending of a name from its last dot on, if there is something besides dots before it -/
def extension (name : List Char) : List Char :=
  match cutAtDot name with
  | some (before, ending) => if before.all (· = '.') then [] else ending
  | none => []

/-- the path before the last slash of a text, without slashes at its end; a text of slashes alone stays -/
def folderText (text : List Char) : List Char :=
  let before := (text.reverse.dropWhile (· ≠ '/')).reverse
  if before.all (· = '/') then before else (before.reverse.dropWhile (· = '/')).reverse

/-- what follows the last slash of a text -/
def lastPart (text : List Char) : List Char := (text.reverse.takeWhile (· ≠ '/')).reverse

/-- a text parted before its last step; slashes at its end do not count -/
def split (text : List Char) : List Char × List Char :=
  let before := folderText text
  if lastPart text = [] then (folderText before, lastPart before) else (before, lastPart text)

end Path

end SketchPanel.Files

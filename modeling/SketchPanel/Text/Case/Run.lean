/-
Case tables. A table lists runs of letters that move by one shift, and apart from them the letters that become
several characters.
-/
import SketchPanel.Text.Ranges

namespace SketchPanel.Text.Case

/-- letters from first to last, every one or every second, that all move by the shift -/
structure Run where
  first : Nat
  last : Nat
  stride : Nat
  shift : Int

/-- the code point that a run list, in ascending order, sends a code point to -/
def shifted : List Run → Nat → Option Nat
  | [], _ => none
  | run :: rest, code =>
    if code < run.first then none
    else if code ≤ run.last && (code - run.first) % run.stride == 0 then some (code + run.shift).toNat
    else shifted rest code

/-- the other case of a character, by a table: a letter of no run and no wide entry keeps its form -/
def mapped (runs : List Run) (wide : List (Nat × List Nat)) (c : Char) : List Char :=
  match shifted runs c.toNat with
  | some code => [Char.ofNat code]
  | none =>
    if c.toNat < 128 then [c]
    else match wide.lookup c.toNat with
      | some codes => codes.map Char.ofNat
      | none => [c]

end SketchPanel.Text.Case

/-
Sets of characters given as ranges of code points. A character class of a script standard is one such set, with
its ranges in ascending order, so that a look-up stops as soon as it has passed the character.
-/

namespace SketchPanel.Text

/-- first and last code points of ranges, in ascending order -/
abbrev Ranges := List (Nat × Nat)

/-- whether a code point lies in one of the ranges -/
def Ranges.covers : Ranges → Nat → Bool
  | [], _ => false
  | (first, last) :: rest, code =>
    if code < first then false
    else if code ≤ last then true
    else Ranges.covers rest code

/-- whether a character lies in one of the ranges -/
def Ranges.has (ranges : Ranges) (c : Char) : Bool := ranges.covers c.toNat

end SketchPanel.Text

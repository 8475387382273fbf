/-
Dashes (`dash_segments`): a polyline cut by a pattern of lengths, drawn and left out in turn. The pattern runs on across
the corners. Lengths below nought take back what others have used up, so no count of cuts follows from the pattern
alone.
-/
import SketchPanel.Surface.Path

namespace SketchPanel.Surface

open SketchPanel.Number

/-- how far the cutting has got -/
structure Cut where
  /-- the dash under construction, or where the gap stands -/
  current : List Point
  drawing : Bool
  /-- which length of the pattern is being used up, and what is left of it -/
  index : Nat
  remaining : Scalar
  /-- finished dashes, the last one first -/
  dashes : List (List Point)

/-- one edge of a polyline -/
structure Edge where
  start : Point
  stop : Point
  length : Float

/-- the edge between two points -/
def edge (p q : Point) : Except Scalar.Fault Edge := do
  let dx ← (← q.1.sub p.1).toFloat
  let dy ← (← q.2.sub p.2).toFloat
  return ⟨p, q, hypotenuse dx dy⟩

/-- the point of an edge at a distance from its start -/
def Edge.at (e : Edge) (distance : Float) : Except Scalar.Fault Point := do
  if e.length == 0.0 then throw .dividedByZero
  let t := distance / e.length
  let along (a b : Scalar) : Except Scalar.Fault Scalar := do a.add (← (← b.sub a).mul (.real t))
  return (← along e.start.1 e.stop.1, ← along e.start.2 e.stop.2)

/-- ends the current dash or gap at a point, and turns to the next length of the pattern -/
def Cut.turn (cut : Cut) (pattern : List Scalar) (p : Point) : Cut :=
  let index := (cut.index + 1) % pattern.length
  { current := [p], drawing := !cut.drawing, index, remaining := pattern.getD index 0
    dashes := if cut.drawing then (cut.current ++ [p]) :: cut.dashes else cut.dashes }

/-- cuts one edge from a distance on; the count bounds the cuts -/
def cutEdge (pattern : List Scalar) (e : Edge) : Nat → Float → Cut → Except Fault Cut
  | 0, _, _ => .error .endless
  | count + 1, travelled, cut => do
    if cut.remaining.lt (.real (e.length - travelled)) then
      let further := travelled + (← reckon cut.remaining.toFloat)
      let p ← reckon (e.at further)
      cutEdge pattern e count further (cut.turn pattern p)
    else
      let left ← reckon cut.remaining.toFloat
      return { cut with
        remaining := .real (left - (e.length - travelled))
        current := if cut.drawing then cut.current ++ [e.stop] else [e.stop] }

/-- cuts the edges between points in turn, each so many times at most -/
def cutEdges (most : Nat) (pattern : List Scalar) : List Point → Cut → Except Fault Cut
  | p :: q :: rest, cut => do
    let e ← reckon (edge p q)
    let cut ← cutEdge pattern e most 0.0 cut
    cutEdges most pattern (q :: rest) cut
  | _, cut => .ok cut

/-- a pattern of an odd number of lengths counts twice -/
def evened (pattern : List Scalar) : List Scalar := if pattern.length % 2 = 1 then pattern ++ pattern else pattern

/-- the finished dashes, and the one that is being drawn if there is any of it -/
def Cut.drawn (cut : Cut) : List (List Point) :=
  cut.dashes.reverse ++ if cut.drawing && 1 < cut.current.length then [cut.current] else []

/-- the dashes of a polyline whose edges are cut so many times at most; without a pattern that gets anywhere, the polyline
itself -/
def dashesWithin (most : Nat) (points : List Point) (pattern : List Scalar) : Except Fault (List (List Point)) := do
  let total ← reckon (pattern.foldlM Scalar.add 0)
  if pattern.isEmpty || total.le 0 then return [points]
  let pattern := evened pattern
  let cut ← cutEdges most pattern points
    { current := points.take 1, drawing := true, index := 0, remaining := pattern.getD 0 0, dashes := [] }
  return cut.drawn

/-- an edge that is cut more often never ends -/
def mostCuts : Nat := 0x100000000

/-- the dashes of a polyline -/
def dashes (points : List Point) (pattern : List Scalar) : Except Fault (List (List Point)) :=
  dashesWithin mostCuts points pattern

end SketchPanel.Surface

/-
Paths (`SubPath`, `line_to`, `arc`, `close_path`): polylines under construction. A line goes on from the last polyline
unless that is closed; an arc is a run of short lines on a circle. A path that fails to grow stays as it was.
-/
import SketchPanel.Surface.Fault

namespace SketchPanel.Surface

open SketchPanel.Number

/-- a place on the surface -/
abbrev Point := Scalar × Scalar

/-- one polyline -/
structure SubPath where
  points : List Point
  closed : Bool
  /-- whether the first point was worked out for an arc -/
  arcFirst : Bool := false
  /-- whether the last point was -/
  arcLast : Bool := false

/-- polylines in the order in which they were begun -/
abbrev Path := List SubPath

namespace Path

/-- begins a polyline, with a point of an arc perhaps -/
def begins (path : Path) (p : Point) (ofArc : Bool) : Path :=
  path ++ [{ points := [p], closed := false, arcFirst := ofArc, arcLast := ofArc }]

/-- points put after those of the last polyline -/
def extend : Path → List Point → Bool → Path
  | [], _, _ => []
  | [last], more, ofArc => [{ last with points := last.points ++ more, arcLast := ofArc }]
  | first :: rest, more, ofArc => first :: extend rest more ofArc

/-- whether a line would begin a polyline of its own -/
def ended (path : Path) : Bool := (path.getLast?.map (·.closed)).getD true

/-- goes on to a point, or begins there -/
def goesOn (path : Path) (p : Point) (ofArc : Bool) : Path :=
  if path.ended then path.begins p ofArc else path.extend [p] ofArc

/-- begins a polyline at a point -/
def moveTo (path : Path) (p : Point) : Path := path.begins p false

/-- a line to a point -/
def lineTo (path : Path) (p : Point) : Path := path.goesOn p false

/-- closes the last polyline -/
def close : Path → Path
  | [] => []
  | [last] => [{ last with closed := true }]
  | first :: rest => first :: close rest

end Path

/-! ## Arcs -/

/-- half a turn -/
def pi : Float := Float.ofBits 0x400921FB54442D18

/-- a whole turn -/
def fullTurn : Float := 2 * pi

/-- the most lines that an arc is made of -/
def maxSegments : Int := 720

/-- how far an arc turns, at most once around, in its direction -/
def sweepOf (start stop : Scalar) (anticlockwise : Bool) : Except Scalar.Fault Float := do
  let sweep ← stop.sub start
  if anticlockwise then
    if sweep.le (.real (-fullTurn)) then return -fullTurn
    else return -(← sweep.neg.modulo fullTurn)
  else if (Scalar.real fullTurn).le sweep then return fullTurn
  else sweep.modulo fullTurn

/-- how many lines make up an arc -/
def segmentsOf (sweep : Float) (radius : Scalar) : Except Scalar.Fault Int := do
  let length := sweep.abs * (← (Scalar.larger radius (.real 1.0)).toFloat) / 2
  return max 4 (min maxSegments (← (Scalar.real length).ceiling))

/-- the sine or cosine of an angle that is not infinite -/
def ofAngle (f : Float → Float) (angle : Float) : Except Scalar.Fault Float :=
  match parts angle with
  | .infinite _ => .error .outsideDomain
  | _ => .ok (f angle)

/-- the point of an arc after so many of its lines -/
def arcPoint (cx cy radius start : Scalar) (sweep : Float) (segments index : Int) : Except Scalar.Fault Point := do
  let share := sweep * (← (Scalar.whole index).toFloat) / (← (Scalar.whole segments).toFloat)
  let angle := (← start.toFloat) + share
  let r ← radius.toFloat
  return (.real ((← cx.toFloat) + r * (← ofAngle Float.cos angle)),
    .real ((← cy.toFloat) + r * (← ofAngle Float.sin angle)))

/-- the points of an arc around a centre; angles run clockwise because the second axis points down -/
def arcPoints (cx cy radius start stop : Scalar) (anticlockwise : Bool) : Except Fault (List Point) := do
  if radius.lt 0 then throw (.negativeRadius radius)
  reckon do
    let sweep ← sweepOf start stop anticlockwise
    let segments ← segmentsOf sweep radius
    (List.range (segments.toNat + 1)).mapM fun index : Nat => arcPoint cx cy radius start sweep segments index

/-- adds an arc: its first point like a line, the others after it -/
def Path.arc (path : Path) (cx cy radius start stop : Scalar) (anticlockwise : Bool) : Except Fault Path := do
  match ← arcPoints cx cy radius start stop anticlockwise with
  | [] => return path
  | first :: rest => return (path.goesOn first true).extend rest true

end SketchPanel.Surface

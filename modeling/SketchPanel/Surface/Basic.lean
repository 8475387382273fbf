/-
Surfaces (`Surface`): a sheet with a size, a drawing style, saved styles and a path under construction. Everything that
can be done to a surface is an operation; an operation that fails leaves the surface as it was but for what it had
already drawn, and a program of operations stops at the first that fails.
-/
import SketchPanel.Surface.Raster
import SketchPanel.Surface.Vector

namespace SketchPanel

open Number Imaging

namespace Surface

/-- what is drawn on: marks of a picture, or an image with a record of all strokes -/
inductive Sheet where
  | vector (marks : List Mark)
  | raster (image : Image) (strokes : List Stroke)

/-- the two kinds of sheet -/
inductive Kind where
  | vector
  | raster
  deriving DecidableEq, Repr

/-- one thing done to a surface -/
inductive Op where
  | fillStyle (paint : Json)
  | strokeStyle (paint : Json)
  | lineWidth (width : Scalar)
  | lineDash (pattern : List Scalar)
  | font (font : String)
  | textAlign (align : String)
  | textBaseline (baseline : String)
  | save
  | restore
  | resize (width height : Json)
  | beginPath
  | moveTo (x y : Scalar)
  | lineTo (x y : Scalar)
  | arc (cx cy radius start stop : Scalar) (anticlockwise : Bool)
  | closePath
  | clearRect (x y width height : Scalar)
  | fillRect (x y width height : Scalar)
  | strokeRect (x y width height : Scalar)
  | fill
  | stroke
  | fillText (text : String) (x y : Scalar)

end Surface

/-- a sheet with what is needed to draw on it; its size is any value that was asked for -/
structure Surface where
  width : Json
  height : Json
  style : Surface.Style := {}
  saved : List Surface.Style := []
  path : Surface.Path := []
  sheet : Surface.Sheet

namespace Surface

/-- an empty sheet of a kind; there are no images of some sizes -/
def Kind.sheet (kind : Kind) (width height : Json) : Except Fault Sheet :=
  match kind with
  | .vector => .ok (.vector [])
  | .raster => return .raster (← imageSized width height) []

/-- a new surface -/
def new (kind : Kind) (width height : Json) : Except Fault Surface :=
  return { width, height, sheet := ← kind.sheet width height }

/-- the kind of a sheet -/
def Sheet.kind : Sheet → Kind
  | .vector _ => .vector
  | .raster .. => .raster

/-- the marks of a picture -/
def Sheet.marks : Sheet → List Mark
  | .vector marks => marks
  | .raster .. => []

/-- the image -/
def Sheet.image? : Sheet → Option Image
  | .vector _ => none
  | .raster image _ => some image

/-- the strokes recorded with an image -/
def Sheet.strokes : Sheet → List Stroke
  | .vector _ => []
  | .raster _ strokes => strokes

/-- the sheet emptied for a new size; the record of strokes goes on -/
def Sheet.resized (sheet : Sheet) (width height : Json) : Except Fault Sheet :=
  match sheet with
  | .vector _ => .ok (.vector [])
  | .raster _ strokes => return .raster (← imageSized width height) (strokes ++ [.resize width height])

/-- the surface with another style -/
def restyle (s : Surface) (change : Style → Style) : Surface := { s with style := change s.style }

/-- whether a rectangle has no inside -/
def flat (width height : Scalar) : Bool := width.le 0 || height.le 0

/-- whether a sum reaches a side of the surface -/
def reaches (sum : Scalar) (size : Json) : Except Fault Bool :=
  match size.scalar? with
  | some n => .ok (n.le sum)
  | none => .error (.mismatch (.order ">=" (Json.ofScalar sum).kind size.kind))

/-- whether a rectangle covers the whole surface -/
def covers (s : Surface) (x y width height : Scalar) : Except Fault Bool := do
  if !(x.le 0 && y.le 0) then return false
  if !(← reaches (← reckon (x.add width)) s.width) then return false
  reaches (← reckon (y.add height)) s.height

/-! ## Drawing on either sheet -/

/-- the sheet after a rectangle is cleared -/
def cleared (s : Surface) (x y width height : Scalar) : Except Fault Sheet := do
  if flat width height then return s.sheet
  match s.sheet with
  | .vector marks =>
    if ← s.covers x y width height then return .vector []
    return .vector (marks ++ [← clearedMark x y width height])
  | .raster image strokes =>
    match ← clearedBox image x y width height with
    | some layer => return .raster (image.lay layer) strokes
    | none => return .raster image strokes

/-- one line of the record for each dash, up to the first that fails -/
def lineStrokes (colour : Rgba) (width : Int) : List (List Point) → List Stroke × Option Fault
  | [] => ([], none)
  | dash :: rest =>
    match places dash with
    | .error fault => ([], some fault)
    | .ok points =>
      let (strokes, fault) := lineStrokes colour width rest
      (.line points colour width :: strokes, fault)

/-- what stroking polylines adds to the record, up to the first that fails -/
def strokedPath (style : Style) : Path → List Stroke × Option Fault
  | [] => ([], none)
  | s :: rest =>
    match strokedDashes style s with
    | .error fault => ([], some fault)
    | .ok (dashes, colour, width) =>
      match lineStrokes colour width dashes with
      | (strokes, some fault) => (strokes, some fault)
      | (strokes, none) =>
        let (more, fault) := strokedPath style rest
        (strokes ++ more, fault)

/-- what filling polylines adds to the record, up to the first that fails; it takes three points to enclose an area -/
def filledPolygons (colour : Rgba) : Path → List Stroke × Option Fault
  | [] => ([], none)
  | s :: rest =>
    if s.points.length < 3 then filledPolygons colour rest
    else match places s.points with
      | .error fault => ([], some fault)
      | .ok points =>
        let (strokes, fault) := filledPolygons colour rest
        (.polygon points colour :: strokes, fault)

/-- the outline of a rectangle, which ends where it began -/
def rectanglePath (x y width height : Scalar) : Except Fault SubPath := reckon do
  let x2 ← x.add width
  let y2 ← y.add height
  let points := [(x, y), (x2, y), (x2, y2), (x, y2)]
  return { points := if y.same y2 then points else points ++ [(x, y)], closed := false }

/-- the surface with another sheet, or with the fault that kept it -/
def withSheet (s : Surface) : Except Fault Sheet → Surface × Option Fault
  | .ok sheet => ({ s with sheet }, none)
  | .error fault => (s, some fault)

/-- the surface as new, with another size; if there is no image of that size, it is new but for the image -/
def resize (s : Surface) (width height : Json) : Surface × Option Fault :=
  withSheet { width, height, sheet := s.sheet } (s.sheet.resized width height)

/-- a rectangle is filled -/
def fillRect (s : Surface) (x y width height : Scalar) : Surface × Option Fault :=
  if flat width height then (s, none)
  else match s.sheet with
    | .vector marks => s.withSheet do return .vector (marks ++ [← filledMark s.style x y width height])
    | .raster image strokes =>
      match filledBox s.style x y width height with
      | .error fault => (s, some fault)
      | .ok (layer, .ok stroke) => ({ s with sheet := .raster (image.lay layer) (strokes ++ [stroke]) }, none)
      | .ok (layer, .error fault) => ({ s with sheet := .raster (image.lay layer) strokes }, some fault)

/-- a rectangle is outlined -/
def strokeRect (s : Surface) (x y width height : Scalar) : Surface × Option Fault :=
  if flat width height then (s, none)
  else match s.sheet with
    | .vector marks => s.withSheet do return .vector (marks ++ [← outlinedMark s.style x y width height])
    | .raster image strokes =>
      match rectanglePath x y width height with
      | .error fault => (s, some fault)
      | .ok outline =>
        let (more, fault) := strokedPath s.style [outline]
        ({ s with sheet := .raster image (strokes ++ more) }, fault)

/-- the path is filled -/
def fillPath (s : Surface) : Surface × Option Fault :=
  match s.sheet with
  | .vector marks => s.withSheet do return .vector (marks ++ (← filledPath s.style s.path))
  | .raster image strokes =>
    match inkOf s.style.fill with
    | .error fault => (s, some fault)
    | .ok colour =>
      let (more, fault) := filledPolygons colour s.path
      ({ s with sheet := .raster image (strokes ++ more) }, fault)

/-- the path is outlined -/
def strokePath (s : Surface) : Surface × Option Fault :=
  match s.sheet with
  | .vector marks => s.withSheet do return .vector (marks ++ (← outlinedPath s.style s.path))
  | .raster image strokes =>
    let (more, fault) := strokedPath s.style s.path
    ({ s with sheet := .raster image (strokes ++ more) }, fault)

/-! ## Texts -/

variable [Metrics]

/-- the sheet after a text is written; an empty text leaves nothing -/
def written (s : Surface) (text : String) (x y : Scalar) : Except Fault Sheet := do
  if text.isEmpty then return s.sheet
  match s.sheet with
  | .vector marks => return .vector (marks ++ [← textMark s.style text x y])
  | .raster image strokes => return .raster image (strokes ++ [← placedText s.style text x y])

/-- the width of a text in the current font -/
def measure (s : Surface) (text : String) : Except Fault Float :=
  match s.sheet with
  | .vector _ => .ok (estimatedWidth s.style text)
  | .raster .. => glyphWidth s.style text

/-! ## Operations -/

/-- the surface after an operation, and the fault if it failed -/
def apply (s : Surface) : Op → Surface × Option Fault
  | .fillStyle paint => (s.restyle ({ · with fill := paint }), none)
  | .strokeStyle paint => (s.restyle ({ · with stroke := paint }), none)
  | .lineWidth width => (s.restyle ({ · with lineWidth := width }), none)
  | .lineDash pattern => (s.restyle ({ · with lineDash := pattern }), none)
  | .font font => (s.restyle ({ · with font := font }), none)
  | .textAlign align => (s.restyle ({ · with textAlign := align }), none)
  | .textBaseline baseline => (s.restyle ({ · with textBaseline := baseline }), none)
  | .save => ({ s with saved := s.style :: s.saved }, none)
  | .restore =>
    match s.saved with
    | [] => (s, none)
    | style :: saved => ({ s with style, saved }, none)
  | .resize width height => s.resize width height
  | .beginPath => ({ s with path := [] }, none)
  | .moveTo x y => ({ s with path := s.path.moveTo (x, y) }, none)
  | .lineTo x y => ({ s with path := s.path.lineTo (x, y) }, none)
  | .arc cx cy radius start stop anticlockwise =>
    match s.path.arc cx cy radius start stop anticlockwise with
    | .ok path => ({ s with path }, none)
    | .error fault => (s, some fault)
  | .closePath => ({ s with path := s.path.close }, none)
  | .clearRect x y width height => s.withSheet (s.cleared x y width height)
  | .fillRect x y width height => s.fillRect x y width height
  | .strokeRect x y width height => s.strokeRect x y width height
  | .fill => s.fillPath
  | .stroke => s.strokePath
  | .fillText text x y => s.withSheet (s.written text x y)

/-- operations to be done in turn, any of which may turn out not to be there -/
abbrev Program := List (Except Fault Op)

/-- the surface after a program, which ends at its first fault -/
def run (s : Surface) : Program → Surface × Option Fault
  | [] => (s, none)
  | .error fault :: _ => (s, some fault)
  | .ok op :: rest =>
    match s.apply op with
    | (s, none) => run s rest
    | (s, some fault) => (s, some fault)

/-- the markup of a vector sheet -/
def markup? (s : Surface) : Option String :=
  match s.sheet with
  | .vector marks => some (picture s.width s.height marks)
  | .raster .. => none

end Surface

end SketchPanel

/-
The overlay of debug mode (`render_touch_zones`): each visible touch zone is filled, outlined with dashes and labelled
with its action. A zone without a usable colour gets a hue by its place in the list (`zone_debug_colors`).
-/
import SketchPanel.Frame.Shape
import SketchPanel.Scene.Zone

namespace SketchPanel.Frame

open Number Surface
open Imaging (Metrics)

/-- outline and fill of a zone -/
structure ZoneColours where
  stroke : String
  fill : String
  deriving DecidableEq, Repr

/-- outline and fill by place: hues a sixth of a turn apart -/
def hueColours (index : Int) : Except Scalar.Fault ZoneColours := do
  let hue : Scalar := .whole (index * 60 % 360)
  return ⟨← Colour.hslToHex hue (.real 0.7) (.real 0.5) none,
    ← Colour.hslToHex hue (.real 0.7) (.real 0.5) (some (.real 0.1))⟩

/-- outline and fill of a zone, by its own colour if that can be read -/
def zoneColours (z : Zone) (index : Int) : Except Scalar.Fault ZoneColours :=
  match given z.debugColour with
  | none => hueColours index
  | some own =>
    match Colour.opaqueHex own with
    | .ok hex => .ok ⟨own, hex ++ "20"⟩
    | .error _ => hueColours index

/-- what is said of a colour that cannot be read -/
def zoneWarnings (z : Zone) : List Log.Record :=
  match given z.debugColour with
  | none => []
  | some own =>
    match Colour.opaqueHex own with
    | .ok _ => []
    | .error _ => [Log.note Log.warning .frame ("Unknown debug colour " ++ Text.quoted own ++ " on " ++ z.id)]

/-- the font of labels -/
def labelFont : String := "10px monospace"

/-- the width of a label on a surface -/
def labelWidth [Metrics] (s : Surface) (label : String) : Except Fault Float :=
  (s.restyle ({ · with font := labelFont })).measure label

/-- the box behind a label of the given width -/
def labelBox (x y : Scalar) (width : Float) : Except Scalar.Fault Op := do
  let w : Scalar := .real (width + 6)
  return .fillRect (← x.sub (← w.half)) (← y.sub (.real 8.0)) w 16

/-- the program of a zone; the width is that of its label -/
def zoneProgram (z : Zone) (index : Int) (width : Except Fault Float) : Program :=
  match zoneColours z index with
  | .error fault => [.error (.number fault)]
  | .ok colours =>
    [ .ok (.strokeStyle colours.stroke),
      .ok (.fillStyle colours.fill),
      .ok (.lineWidth 2),
      .ok (.lineDash [5, 5]),
      .ok (.fillRect z.x z.y z.width z.height),
      .ok (.strokeRect z.x z.y z.width z.height),
      .ok (.lineDash []),
      .ok (.fillStyle "#000000cc"),
      .ok (.font labelFont),
      .ok (.textAlign "center"),
      .ok (.textBaseline "middle") ]
    ++ (match z.center with
      | .error fault => [.error (.number fault)]
      | .ok (x, y) =>
        [ do return ← worked (labelBox x y (← width)),
          .ok (.fillStyle "#ffffff"),
          .ok (.fillText z.action x y) ])

end SketchPanel.Frame

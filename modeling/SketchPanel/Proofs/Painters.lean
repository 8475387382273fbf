/-
Painters. What an image shows is made by calls: a new black image, a layer laid on it, a stroke drawn on it. A `Painter`
is anything that answers such calls by the image so far and what the call is given, and for which clearing the whole
image is as good as a new one. `pictured` gives a painter the calls of operations in turn.

Results:
- `pictured_over`, `pictured_drawing`: a drawing makes the same calls whatever is on the sheet.
- `size_resize`, `size_pictured`: the image that a painter makes has the size of the surface's.
-/
import Mathlib.Tactic
import SketchPanel.Proofs.SurfaceRuns

namespace SketchPanel.Surface

open Number Imaging

/-! ## Calls -/

/-- what is done to an image -/
inductive Call where
  | blank (width height : Int)
  | lay (layer : Layer)
  | draw (stroke : Stroke)

/-- the call that an entry of the record stands for; a rectangle is laid, and that is not written there -/
def Stroke.call? (image : Image) : Stroke → Option Call
  | .rectangle .. => none
  | .resize .. => some (.blank image.width image.height)
  | stroke => some (.draw stroke)

/-- the calls that turned one sheet into another -/
def Sheet.calls : Sheet → Sheet → List Call
  | .raster image strokes, .raster image' strokes' =>
    (strokes'.drop strokes.length).filterMap (Stroke.call? image')
      ++ (image'.layers.drop image.layers.length).map .lay
  | _, _ => []

/-- a way to make images of calls: by the image so far and what the call is given, a size that only a new image has
anew, and the whole image cleared as good as new -/
structure Painter (α : Type) where
  blank : Int → Int → α
  lay : α → Layer → α
  draw : α → Stroke → α
  size : α → Int × Int
  size_blank : ∀ w h, size (blank w h) = (w, h)
  size_lay : ∀ a layer, size (lay a layer) = size a
  size_draw : ∀ a stroke, size (draw a stroke) = size a
  clear_all : ∀ a, lay a (.clear 0 0 (size a).1 (size a).2) = blank (size a).1 (size a).2

/-- pixels of a size, black beyond it -/
structure Canvas where
  width : Int
  height : Int
  pixel : Int → Int → Pixel

/-- a layer on a canvas -/
def Canvas.laid (c : Canvas) (layer : Layer) : Canvas :=
  { c with pixel := fun x y =>
      if 0 ≤ x ∧ x < c.width ∧ 0 ≤ y ∧ y < c.height then layer.over x y (c.pixel x y) else .black }

/-- the painter that lays what is laid and takes no notice of strokes -/
def pixelwise : Painter Canvas where
  blank width height := ⟨width, height, fun _ _ => .black⟩
  lay := Canvas.laid
  draw c _ := c
  size c := (c.width, c.height)
  size_blank _ _ := rfl
  size_lay _ _ := rfl
  size_draw _ _ := rfl
  clear_all c := by
    have hblack : (c.laid (.clear 0 0 c.width c.height)).pixel = fun _ _ => .black := by
      funext x y
      simp only [Canvas.laid, Layer.over]
      split_ifs <;> rfl
    exact congrArg (Canvas.mk c.width c.height) hblack

section

variable {α : Type} (P : Painter α)

/-- the image after a call -/
def Painter.answer (a : α) : Call → α
  | .blank w h => P.blank w h
  | .lay layer => P.lay a layer
  | .draw stroke => P.draw a stroke

/-- the image of a new surface -/
def Painter.opened (s : Surface) : α :=
  match s.sheet with
  | .raster image _ => P.blank image.width image.height
  | .vector _ => P.blank 1 1

theorem opened_size {s : Surface} (hraster : s.sheet.kind = .raster) :
    s.sheet.size? = some (P.size (P.opened s)) := by
  cases hsheet : s.sheet with
  | vector => rw [hsheet] at hraster; cases hraster
  | raster image strokes =>
    rw [Painter.opened, hsheet]
    exact congrArg some (P.size_blank _ _).symm

theorem calls_same (x : Sheet) : x.calls x = [] := by
  cases x <;> simp [Sheet.calls]

theorem Stroke.call?_congr {image image' : Image} (hw : image.width = image'.width)
    (hh : image.height = image'.height) : Stroke.call? image = Stroke.call? image' := by
  funext stroke
  cases stroke <;> simp [call?, hw, hh]

/-- what is below plays no part in the calls -/
theorem calls_followed {base x y : Sheet} (hx : x.emptied = base.emptied) (hy : y.emptied = base.emptied) :
    (base.followed x).calls (base.followed y) = x.calls y := by
  cases base with
  | vector below =>
    cases x with
    | raster => cases hx
    | vector => cases y with
      | raster => cases hy
      | vector => rfl
  | raster image strokes =>
    cases x with
    | vector => cases hx
    | raster upper more => cases y with
      | vector => cases hy
      | raster upper' more' =>
        simp only [Sheet.emptied, Sheet.raster.injEq, Image.mk.injEq] at hy
        have hcall : Stroke.call? { image with layers := image.layers ++ upper'.layers } = Stroke.call? upper' :=
          Stroke.call?_congr hy.1.1.symm hy.1.2.1.symm
        simp only [Sheet.followed, Sheet.calls, hcall, List.length_append, List.drop_length_add_append]

theorem size_answers {size : Int × Int} {calls : List Call} (hcalls : ∀ w h, .blank w h ∈ calls → (w, h) = size)
    {x : α} (hx : P.size x = size) : P.size (calls.foldl P.answer x) = size := by
  induction calls generalizing x with
  | nil => exact hx
  | cons call rest ih =>
    refine ih (fun w h hmem => hcalls w h (List.mem_cons_of_mem _ hmem)) ?_
    cases call with
    | blank w h => exact (P.size_blank w h).trans (hcalls w h List.mem_cons_self)
    | lay layer => exact (P.size_lay x layer).trans hx
    | draw stroke => exact (P.size_draw x stroke).trans hx

theorem calls_blank {x y : Sheet} {w h : Int} (hmem : .blank w h ∈ x.calls y) : y.size? = some (w, h) := by
  cases x with
  | vector => cases hmem
  | raster image strokes => cases y with
    | vector => cases hmem
    | raster image' strokes' =>
      rcases List.mem_append.mp hmem with hstroke | hlayer
      · obtain ⟨stroke, -, hcall⟩ := List.mem_filterMap.mp hstroke
        cases stroke <;> cases hcall
        rfl
      · obtain ⟨layer, -, hcall⟩ := List.mem_map.mp hlayer
        cases hcall

/-! ## Operations -/

variable [Metrics]

/-- the image after one operation -/
def Painter.step (s : Surface) (a : α) (op : Op) : α := (s.sheet.calls (s.apply op).1.sheet).foldl P.answer a

/-- the image after operations on a surface that showed an image -/
def Painter.pictured (s : Surface) (a : α) : List Op → α
  | [] => a
  | op :: ops => Painter.pictured (s.apply op).1 (P.step s a op) ops

theorem pictured_append (s : Surface) (a : α) (ops more : List Op) :
    P.pictured s a (ops ++ more) = P.pictured (s.after ops) (P.pictured s a ops) more := by
  induction ops generalizing s a with
  | nil => rfl
  | cons op ops ih => exact ih _ _

section

variable {pathed : Bool} {base : Sheet} {a s : Surface}

/-- operations that draw make the same calls whatever is on the sheet -/
theorem pictured_over (h : Over pathed base a s) (ops : List Op)
    (hops : ∀ op ∈ ops, op.draws = true ∧ (op.goesOn = true → pathed = true)) (x : α) :
    P.pictured s x ops = P.pictured a x ops := by
  induction ops generalizing a s x with
  | nil => rfl
  | cons op ops ih =>
    obtain ⟨hdraws, hpath⟩ := hops op List.mem_cons_self
    obtain ⟨hop, -⟩ := apply_over h hdraws hpath
    have hstep : P.step s x op = P.step a x op := by
      rw [Painter.step, Painter.step, hop.sheet, h.sheet, calls_followed h.blank hop.blank]
    rw [Painter.pictured, Painter.pictured, hstep]
    exact ih hop (fun op' h' => hops op' (List.mem_cons_of_mem _ h')) _

end

theorem pictured_still (s : Surface) (x : α) {op : Op} (h : (s.apply op).1.sheet = s.sheet) : P.step s x op = x := by
  rw [Painter.step, h, calls_same]
  rfl

/-- a drawing makes the same calls whatever the surface has been through -/
theorem pictured_drawing (s : Surface) {p : Program} (hp : Drawing p) (x : α) :
    P.pictured s x (s.tried p) = P.pictured s.bare x (s.bare.tried p) := by
  rcases hp.path with hbegin | hstill
  · obtain ⟨rest, rfl⟩ := List.head?_eq_some_iff.mp hbegin
    have hover : Over true s.sheet { s.bare with path := [] } { s with path := [] } := (over_bare s).withPath []
    have hdraws := (only_cons.mp hp.draws).2
    have hrest : Only (fun op => op.draws && (true || !op.goesOn)) rest := by simpa using hdraws
    have htried := tried_over hover hrest
    have hpictured := pictured_over P hover ({ s with path := [] }.tried rest)
      (fun op h => ⟨hdraws _ (mem_of_tried h) op rfl, fun _ => rfl⟩) x
    rw [← htried] at hpictured
    show P.pictured { s with path := [] } (P.step s x .beginPath) ({ s with path := [] }.tried rest) =
      P.pictured { s.bare with path := [] } (P.step s.bare x .beginPath) ({ s.bare with path := [] }.tried rest)
    rw [pictured_still P s x rfl, pictured_still P s.bare x rfl, ← htried, hpictured]
  · have htried := tried_over (over_bare s) hstill
    rw [← htried]
    refine pictured_over P (over_bare s) _ (fun op h => ?_) x
    obtain ⟨hdraws, hpath⟩ := Bool.and_eq_true_iff.mp (hstill _ (mem_of_tried h) op rfl)
    exact ⟨hdraws, fun hgoes => by rw [hgoes] at hpath; cases hpath⟩

/-- a resize gives the painter a new image of the new size, or leaves things as they are -/
theorem size_resize {s : Surface} {x : α} (hx : s.sheet.size? = some (P.size x)) (width height : Json) :
    (s.apply (.resize width height)).1.sheet.size? = some (P.size (P.step s x (.resize width height))) := by
  cases hsheet : s.sheet with
  | vector => rw [hsheet] at hx; cases hx
  | raster image strokes =>
    cases hmade : imageSized width height with
    | error fault =>
      have hsame : (s.apply (.resize width height)).1.sheet = s.sheet := by
        simp [apply, resize, hsheet, Sheet.resized, hmade, withSheet, bind, Except.bind]
      rw [pictured_still P s x hsame, hsame, hx]
    | ok made =>
      have hsheet' : (s.apply (.resize width height)).1.sheet = .raster made (strokes ++ [.resize width height]) := by
        simp [apply, resize, hsheet, Sheet.resized, hmade, withSheet, bind, Except.bind, pure, Except.pure]
      have hcalls : s.sheet.calls (s.apply (.resize width height)).1.sheet =
          .blank made.width made.height :: (made.layers.drop image.layers.length).map .lay := by
        rw [hsheet, hsheet']
        simp [Sheet.calls, Stroke.call?]
      rw [Painter.step, hcalls, List.foldl_cons, hsheet']
      refine congrArg some (size_answers P (fun w h hmem => ?_) (P.size_blank _ _)).symm
      obtain ⟨_, -, hcall⟩ := List.mem_map.mp hmem
      cases hcall

/-- the painter's image keeps the size of the surface's -/
theorem size_step {s : Surface} {x : α} (hx : s.sheet.size? = some (P.size x)) (op : Op) :
    (s.apply op).1.sheet.size? = some (P.size (P.step s x op)) := by
  by_cases hresize : ∃ width height, op = .resize width height
  · obtain ⟨width, height, rfl⟩ := hresize
    exact size_resize P hx width height
  · obtain ⟨-, -, hblank⟩ := apply_sizes s fun w h heq => hresize ⟨w, h, heq⟩
    rw [Sheet.size?_congr hblank, hx]
    refine congrArg some (size_answers P (fun w h hmem => ?_) rfl).symm
    have hsize := calls_blank hmem
    rw [Sheet.size?_congr hblank, hx] at hsize
    exact (Option.some.inj hsize).symm

theorem size_pictured {s : Surface} {x : α} (hx : s.sheet.size? = some (P.size x)) (ops : List Op) :
    (s.after ops).sheet.size? = some (P.size (P.pictured s x ops)) := by
  induction ops generalizing s x with
  | nil => exact hx
  | cons op ops ih => exact ih (size_step P hx op)

end

end SketchPanel.Surface

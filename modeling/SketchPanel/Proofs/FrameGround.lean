/-
The ground of a frame: the surface takes the size of the scene, is cleared, and gets the background. What the parts of
the frame then find is the style of the ground and nothing else that counts.

Results:
- `ground_eq`, `ground_fault`: the ground is the opening and then the background, and fails as they do.
- `ground_ok`: what the ground leaves to the parts, once it has come about.
- `cleared_whole`: for a scene of a whole size, the opening comes about and takes everything off the sheet, whatever was
  there.
-/
import Mathlib.Tactic
import SketchPanel.Frame.Basic
import SketchPanel.Proofs.ShapeDrawings

namespace SketchPanel.Frame

open Number Surface
open Imaging (Image Layer Metrics pixels)

/-! ## The ground -/

/-- the surface takes the scene's size -/
def fitting (s : Surface) (scene : Slice) : Program :=
  if fits s scene then [] else [.ok (.resize scene.width scene.height)]

/-- the surface is cleared -/
def clearing (scene : Slice) : Program := [sized (.clearRect 0 0) scene.width scene.height]

/-- the surface takes the scene's size and is cleared -/
def opening (s : Surface) (scene : Slice) : Program := fitting s scene ++ clearing scene

/-- the rectangle of the background -/
def backdropBox (scene : Slice) : Program := [sized (.fillRect 0 0) scene.width scene.height]

/-- the background in its colour -/
def backdrop (scene : Slice) : Program := .ok (.fillStyle scene.background) :: backdropBox scene

/-- the style at entry, or that of a new surface if the size changes, with the fill of the background -/
def frameStyle (s : Surface) (scene : Slice) : Style :=
  { (if fits s scene then s.style else {}) with fill := scene.background }

theorem backdropBox_still (scene : Slice) : Only Op.still (backdropBox scene) :=
  only_cons.mpr ⟨gives_sized (P := (·.still = true)) (fun _ _ => rfl) _ _, only_nil⟩

theorem backdropBox_drawing (scene : Slice) : Drawing (backdropBox scene) := (backdropBox_still scene).drawing

theorem backdrop_drawing (scene : Slice) : Drawing (backdrop scene) :=
  Only.drawing (only_cons.mpr ⟨gives_ok.mpr rfl, backdropBox_still scene⟩)

theorem groundProgram_eq (s : Surface) (scene : Slice) :
    groundProgram s scene = opening s scene ++ backdrop scene := by
  simp [groundProgram, opening, fitting, clearing, backdrop, backdropBox]

theorem fillRect_eq (s : Surface) (x y width height : Scalar) :
    ∃ sheet, (s.fillRect x y width height).1 = { s with sheet } := by
  unfold fillRect
  split_ifs
  · exact ⟨s.sheet, rfl⟩
  split
  · unfold withSheet
    split
    · exact ⟨_, rfl⟩
    · exact ⟨s.sheet, rfl⟩
  · split
    · exact ⟨s.sheet, rfl⟩
    · exact ⟨_, rfl⟩
    · exact ⟨_, rfl⟩

/-! ## Whole sizes -/

theorem same_int (m n : Int) : Json.same (.int m) (.int n) = decide (m = n) := by
  rw [← Scalar.same_whole, Json.same]
  · rfl
  all_goals intros; simp_all

theorem side_int (n : Int) : side (.int n) = .ok (.whole (max 1 n)) := by
  have hlt : (1 : Scalar).lt (.whole n) = decide (1 < n) := Scalar.lt_whole 1 n
  have hside : side (.int n) = .ok (if (1 : Scalar).lt (.whole n) then .whole n else 1) := rfl
  rw [hside, hlt]
  by_cases h : 1 < n
  · rw [decide_eq_true h, max_eq_right h.le]
    rfl
  · rw [decide_eq_false h, max_eq_left (not_lt.mp h)]
    rfl

theorem pixels_whole (n : Int) : Gives (fun m => m = n ∧ holds 32 m = true) (pixels (.whole n)) := by
  intro m hm
  simp only [pixels, narrow] at hm
  split_ifs at hm with hwide hheld <;> cases hm
  exact ⟨rfl, hheld⟩

/-- a new image is black and of the size that was asked for -/
theorem create_whole (w h : Int) :
    Gives (fun made => made = Image.blank w h ∧ holds 32 w = true ∧ holds 32 h = true)
      (Image.create (.whole w) (.whole h)) := by
  refine (pixels_whole w).bind fun width hwidth => (pixels_whole h).bind fun height hheight => ?_
  obtain ⟨rfl, hw⟩ := hwidth
  obtain ⟨rfl, hh⟩ := hheight
  split_ifs
  · exact gives_error
  · exact gives_pure.2 ⟨rfl, hw, hh⟩

theorem imageSized_int (w h : Int) :
    imageSized (.int w) (.int h) = (Image.create (.whole (max 1 w)) (.whole (max 1 h))).mapError .imaging := by
  rw [imageSized, side_int, side_int]
  rfl

/-- an image for a surface is at least one pixel wide and high -/
theorem sized_blank (w h : Int) :
    Gives (fun made => made = Image.blank w h ∧ holds 32 made.width = true ∧ holds 32 made.height = true)
      (imageSized (.int w) (.int h)) := by
  rw [imageSized_int]
  refine ((create_whole _ _).mapError _).mono ?_
  rintro made ⟨rfl, hw, hh⟩
  simp [Image.blank, hw, hh]

theorem sized_int (w h : Int) : Gives (· = Image.blank w h) (imageSized (.int w) (.int h)) :=
  (sized_blank w h).mono fun _ hmade => hmade.1

/-- a sheet of a size; a picture takes any -/
def SizedTo (w h : Int) : Sheet → Prop
  | .vector _ => True
  | .raster image _ => image.width = w ∧ image.height = h

/-- a sheet of a size after all of it was cleared -/
def wiped (w h : Int) : Sheet → Sheet
  | .vector _ => .vector []
  | .raster image strokes => .raster (image.lay (.clear 0 0 w h)) strokes

theorem pixel_wiped {w h x y : Int} (hx : 0 ≤ x ∧ x < w) (hy : 0 ≤ y ∧ y < h) (below above : List Layer) :
    (below ++ [Layer.clear 0 0 w h] ++ above).foldl (Layer.over x y) .black = above.foldl (Layer.over x y) .black := by
  have hclear : ∀ p, Layer.over x y p (.clear 0 0 w h) = .black := fun p => if_pos ⟨hx.1, hx.2, hy.1, hy.2⟩
  rw [List.foldl_append, List.foldl_append, List.foldl_cons, List.foldl_nil, hclear]

section

variable {s : Surface} {scene : Slice} {w h : Int}

theorem fits_int (hwidth : s.width = .int w) (hheight : s.height = .int h) {w' h' : Int}
    (hwidth' : scene.width = .int w') (hheight' : scene.height = .int h') :
    fits s scene = decide (w = w' ∧ h = h') := by
  rw [fits, hwidth, hheight, hwidth', hheight', same_int, same_int, Bool.decide_and]

/-- a surface fits a scene of a whole size if it has that size -/
theorem fits_iff (hs : Sound s) (hwidth : scene.width = .int w) (hheight : scene.height = .int h) :
    fits s scene = true ↔ s.width = .int w ∧ s.height = .int h := by
  obtain ⟨w', h', hw, hh⟩ := hs.sides
  rw [fits_int hw hh hwidth hheight, decide_eq_true_iff, hw, hh, Json.int.injEq, Json.int.injEq]

theorem clearing_int (hwidth : scene.width = .int w) (hheight : scene.height = .int h) :
    clearing scene = [.ok (.clearRect 0 0 (.whole w) (.whole h))] := by
  rw [clearing, hwidth, hheight]
  rfl

/-- a rectangle of the size of a surface covers it -/
theorem covers_whole (hwidth : s.width = .int w) (hheight : s.height = .int h) :
    s.covers 0 0 (.whole w) (.whole h) = .ok true := by
  have hreaches : ∀ n : Int, reaches (.whole (0 + n)) (.int n) = .ok true := by
    intro n
    have hle : (Scalar.whole n).le (.whole (0 + n)) = true :=
      (Scalar.le_whole n (0 + n)).trans (decide_eq_true (zero_add n).ge)
    exact congrArg Except.ok hle
  have hzero : (0 : Scalar).le 0 = true := Scalar.le_whole 0 0
  simp only [covers, hzero, hwidth, hheight]
  show (do
    if !(← reaches (.whole (0 + w)) (.int w)) then return false
    reaches (.whole (0 + h)) (.int h) : Except Fault Bool) = .ok true
  rw [hreaches, hreaches]
  rfl

/-- a rectangle of the size of an image is cleared to its edges -/
theorem clearedBox_whole {image : Image} (hwidth : image.width = w) (hheight : image.height = h) (hw : 0 < w)
    (hh : 0 < h) : clearedBox image 0 0 (.whole w) (.whole h) = .ok (some (.clear 0 0 w h)) := by
  have hcut : ∀ n : Int, min n (0 + n) = n := fun n => by rw [zero_add, min_self]
  have hboxed : clearedBox image 0 0 (.whole w) (.whole h) = .ok (if 0 < min image.width (0 + w) ∧
      0 < min image.height (0 + h) then some (.clear 0 0 (min image.width (0 + w)) (min image.height (0 + h)))
      else none) := rfl
  rw [hboxed, hwidth, hheight, hcut, hcut, if_pos ⟨hw, hh⟩]

end

/-! ## The ground on a surface -/

variable [Metrics]

/-- the surface of the scene's size, if there is one -/
def fitted (s : Surface) (scene : Slice) : Surface × Option Fault := s.run (fitting s scene)

/-- the surface of the scene's size, cleared -/
def cleared (s : Surface) (scene : Slice) : Surface × Option Fault := s.run (opening s scene)

/-- the surface with nothing on its sheet on which each part would be drawn alone -/
def stage (s : Surface) (scene : Slice) : Surface := { (cleared s scene).1.bare with style := frameStyle s scene }

theorem ground_eq (s : Surface) (scene : Slice) : ground s scene = match (cleared s scene).2 with
    | none => (cleared s scene).1.run (backdrop scene)
    | some fault => ((cleared s scene).1, some fault) := by
  rw [ground, groundProgram_eq, run_append]
  rfl

theorem cleared_of_ground {s : Surface} {scene : Slice} (h : (ground s scene).2 = none) :
    (cleared s scene).2 = none := by
  rw [ground_eq] at h
  cases hcleared : (cleared s scene).2 with
  | none => rfl
  | some fault => rw [hcleared] at h; cases h

theorem cleared_eq (s : Surface) (scene : Slice) : cleared s scene = match (fitted s scene).2 with
    | none => (fitted s scene).1.run (clearing scene)
    | some fault => ((fitted s scene).1, some fault) := run_append _ _ _

theorem clearing_eq (s : Surface) (scene : Slice) : ∃ sheet, (s.run (clearing scene)).1 = { s with sheet } := by
  have hclear : Gives (fun op => ∃ w h, op = Op.clearRect 0 0 w h) (sized (.clearRect 0 0) scene.width scene.height) :=
    gives_sized (fun w h => ⟨w, h, rfl⟩) _ _
  unfold clearing
  cases hstep : sized (.clearRect 0 0) scene.width scene.height with
  | error fault => exact ⟨s.sheet, rfl⟩
  | ok op =>
    obtain ⟨w, h, rfl⟩ := hclear op hstep
    rw [run_ok]
    simp only [apply]
    cases s.cleared 0 0 w h with
    | error fault => exact ⟨s.sheet, rfl⟩
    | ok sheet => exact ⟨sheet, rfl⟩

/-- a surface that does not fit becomes a new one, save for the sheet -/
theorem fitted_eq (s : Surface) (scene : Slice) : ∃ path sheet, (fitted s scene).1 =
    if fits s scene then s else { width := scene.width, height := scene.height, path, sheet } := by
  unfold fitted fitting
  split_ifs
  · exact ⟨[], s.sheet, rfl⟩
  · rw [run_ok]
    simp only [apply, resize]
    cases s.sheet.resized scene.width scene.height with
    | error fault => exact ⟨[], s.sheet, rfl⟩
    | ok sheet => exact ⟨[], sheet, rfl⟩

/-- clearing changes nothing but the sheet -/
theorem cleared_fitted (s : Surface) (scene : Slice) :
    ∃ sheet, (cleared s scene).1 = { (fitted s scene).1 with sheet } := by
  rw [cleared_eq]
  cases (fitted s scene).2 with
  | none => exact clearing_eq _ scene
  | some fault => exact ⟨(fitted s scene).1.sheet, rfl⟩

theorem cleared_style (s : Surface) (scene : Slice) :
    (cleared s scene).1.style = (if fits s scene then s.style else {}) ∧
      (cleared s scene).1.saved = if fits s scene then s.saved else [] := by
  obtain ⟨path, sheet, hfit⟩ := fitted_eq s scene
  obtain ⟨_, hcleared⟩ := cleared_fitted s scene
  rw [hcleared, hfit]
  split_ifs <;> exact ⟨rfl, rfl⟩

theorem cleared_size (s : Surface) (scene : Slice) :
    (cleared s scene).1.width = (if fits s scene then s.width else scene.width) ∧
      (cleared s scene).1.height = if fits s scene then s.height else scene.height := by
  obtain ⟨path, sheet, hfit⟩ := fitted_eq s scene
  obtain ⟨_, hcleared⟩ := cleared_fitted s scene
  rw [hcleared, hfit]
  split_ifs <;> exact ⟨rfl, rfl⟩

/-- the background leaves the size alone -/
theorem ground_size (s : Surface) (scene : Slice) :
    (ground s scene).1.width = (cleared s scene).1.width ∧ (ground s scene).1.height = (cleared s scene).1.height := by
  rw [ground_eq]
  cases (cleared s scene).2 with
  | some fault => exact ⟨rfl, rfl⟩
  | none =>
    have hkept := run_redrawn (cleared s scene).1 (backdrop_drawing scene).draws
    exact ⟨hkept.width, hkept.height⟩

theorem stage_eq (s : Surface) (scene : Slice) :
    ((cleared s scene).1.apply (.fillStyle scene.background)).1.bare = stage s scene := by
  simp only [apply, restyle, stage, frameStyle, bare, (cleared_style s scene).1]

theorem backdropBox_eq (s : Surface) (scene : Slice) :
    ∃ sheet, (s.run (backdropBox scene)).1 = { s with sheet } := by
  have hbox : Gives (fun op => ∃ w h, op = Op.fillRect 0 0 w h) (sized (.fillRect 0 0) scene.width scene.height) :=
    gives_sized (fun w h => ⟨w, h, rfl⟩) _ _
  unfold backdropBox
  cases hstep : sized (.fillRect 0 0) scene.width scene.height with
  | error fault => exact ⟨s.sheet, rfl⟩
  | ok op =>
    obtain ⟨w, h, rfl⟩ := hbox op hstep
    obtain ⟨sheet, hfill⟩ := fillRect_eq s 0 0 w h
    refine ⟨sheet, ?_⟩
    rw [run_ok, ← hfill]
    simp only [apply]
    cases (s.fillRect 0 0 w h).2 <;> rfl

theorem backdrop_bare (s : Surface) (scene : Slice) :
    (cleared s scene).1.bare.run (backdrop scene) = (stage s scene).run (backdropBox scene) := by
  rw [backdrop, run_ok, ← stage_eq]
  rfl

/-- once the ground is cleared, it is the rectangle of the background that may fail -/
theorem ground_fault {s : Surface} {scene : Slice} (h : (cleared s scene).2 = none) :
    (ground s scene).2 = ((stage s scene).run (backdropBox scene)).2 := by
  rw [ground_eq, h, ← backdrop_bare]
  exact (run_bare (cleared s scene).1 (backdrop_drawing scene)).2.symm

/-- what the ground leaves to the parts: the style of the frame, and the background on the cleared sheet -/
theorem ground_ok {s t : Surface} {scene : Slice} (h : ground s scene = (t, none)) :
    t.style = frameStyle s scene ∧ (t.saved = if fits s scene then s.saved else []) ∧ t.bare = stage s scene ∧
      t.sheet = (cleared s scene).1.sheet.followed ((stage s scene).run (backdropBox scene)).1.sheet := by
  obtain ⟨hstyle, hsaved⟩ := cleared_style s scene
  have hrun : (cleared s scene).1.run (backdrop scene) = (t, none) := by
    have hcleared : (cleared s scene).2 = none := cleared_of_ground (congrArg Prod.snd h)
    rwa [ground_eq, hcleared] at h
  obtain ⟨hover, -⟩ := run_bare (cleared s scene).1 (backdrop_drawing scene)
  rw [backdrop_bare] at hover
  obtain ⟨sheet, hbox⟩ := backdropBox_eq (stage s scene) scene
  have hkept := run_redrawn (cleared s scene).1 (backdrop_drawing scene).draws
  simp only [hrun] at hkept hover
  have htstyle : t.style = frameStyle s scene := by
    rw [← hover.style, hbox]
    rfl
  refine ⟨htstyle, ?_, ?_, hover.sheet⟩
  · rw [← hsaved, hkept.saved]
  · have hblank : t.sheet.emptied = (cleared s scene).1.sheet.emptied := by
      rw [hover.sheet, Sheet.emptied_followed]
    rw [bare, hblank, htstyle, hkept.width, hkept.height]
    rfl

/-! ## Grounds of whole sizes -/

section

variable {s : Surface} {scene : Slice} {w h : Int}

/-- a surface takes a whole size -/
theorem fitted_whole (hs : Sound s) (hwidth : scene.width = .int w) (hheight : scene.height = .int h) (hw : 0 < w)
    (hh : 0 < h) (hmade : s.sheet.kind = .raster → ∃ made, imageSized (.int w) (.int h) = .ok made) :
    ∃ t : Surface, fitted s scene = (t, none) ∧ t.width = .int w ∧ t.height = .int h ∧ t.sheet.kind = s.sheet.kind ∧
      SizedTo w h t.sheet := by
  obtain ⟨w', h', hw', hh'⟩ := hs.sides
  unfold fitted fitting
  rw [fits_int hw' hh' hwidth hheight]
  by_cases hsame : w' = w ∧ h' = h
  · obtain ⟨rfl, rfl⟩ := hsame
    refine ⟨s, by simp [run], hw', hh', rfl, ?_⟩
    cases hsheet : s.sheet with
    | vector marks => trivial
    | raster image strokes =>
      obtain ⟨made, hmade⟩ := hmade (by rw [hsheet]; rfl)
      have hsize := hs.image (image.width, image.height) made (by rw [hsheet]; rfl) (by rw [hw', hh', hmade])
      rw [sized_int w' h' made hmade] at hsize
      obtain ⟨hiw, hih⟩ := Prod.mk.inj hsize
      exact ⟨hiw.trans (max_eq_right hw), hih.trans (max_eq_right hh)⟩
  · rw [decide_eq_false hsame, if_neg Bool.false_ne_true, run_ok, hwidth, hheight]
    simp only [apply, resize]
    cases hsheet : s.sheet with
    | vector marks => exact ⟨_, rfl, rfl, rfl, rfl, trivial⟩
    | raster image strokes =>
      obtain ⟨made, hmade⟩ := hmade (by rw [hsheet]; rfl)
      simp only [Sheet.resized, hmade]
      refine ⟨_, rfl, rfl, rfl, rfl, ?_⟩
      rw [sized_int w h made hmade]
      exact ⟨max_eq_right hw, max_eq_right hh⟩

/-- clearing a surface of a size takes everything off its sheet -/
theorem apply_clearRect (hwidth : s.width = .int w) (hheight : s.height = .int h) (hsized : SizedTo w h s.sheet)
    (hw : 0 < w) (hh : 0 < h) :
    s.apply (.clearRect 0 0 (.whole w) (.whole h)) = ({ s with sheet := wiped w h s.sheet }, none) := by
  have hflat : flat (.whole w) (.whole h) = false := (flat_whole w h).trans (decide_eq_false (by omega))
  simp only [apply, Surface.cleared, hflat]
  cases hsheet : s.sheet with
  | vector marks =>
    simp only [covers_whole hwidth hheight]
    rfl
  | raster image strokes =>
    rw [hsheet] at hsized
    simp only [clearedBox_whole hsized.1 hsized.2 hw hh]
    rfl

/-- the ground of a whole size is cleared, whatever was there -/
theorem cleared_whole (hs : Sound s) (hwidth : scene.width = .int w) (hheight : scene.height = .int h) (hw : 0 < w)
    (hh : 0 < h) (hmade : s.sheet.kind = .raster → ∃ made, imageSized (.int w) (.int h) = .ok made) :
    ∃ t : Surface, cleared s scene = ({ t with sheet := wiped w h t.sheet }, none) ∧ t.width = .int w ∧
      t.height = .int h ∧ t.sheet.kind = s.sheet.kind ∧ SizedTo w h t.sheet := by
  obtain ⟨t, hfitted, htw, hth, hkind, hsized⟩ := fitted_whole hs hwidth hheight hw hh hmade
  refine ⟨t, ?_, htw, hth, hkind, hsized⟩
  rw [cleared_eq, hfitted, clearing_int hwidth hheight]
  simp only [run, apply_clearRect htw hth hsized hw hh]

end

end SketchPanel.Frame

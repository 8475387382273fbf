/-
Frames one after another. A frame leaves behind a style, a path, a size and what is on the sheet; the next frame makes
nothing of them but of the size, which it takes for the size of the image. So after any frames, the last one shows what it
alone shows on a new surface: the markup, the image, and what any painter makes of the calls. The exception is a size of
which there is no image: a frame that asks for it fails and leaves the size behind, and the next one of that size goes on
with the image that is there.

Results:
- `after_frameOps`: the operations of a frame, done in turn, come to the frame.
- `render_settles`: after a frame, fallen through or not, nothing is saved and no style is left but a fill.
- `last_frame`, `last_pictured`: on such a surface, a frame is that of a new surface.
- `same_last`, `same_again`: so the last of any frames is the only one that counts, and the same frame again changes
  nothing.
- `unmade_asked`: a surface that has come to a size of which there is no image was asked for it in vain.
- `history_forgotten`: what is shown after any frames, or why there is nothing to compare it with. Witness:
  `spoilt_forgotten`.
- `failed_resize_remembered`: not so where there is no image of the size.
-/
import Mathlib.Tactic
import SketchPanel.Proofs.FrameParts
import SketchPanel.Proofs.Painters

namespace SketchPanel.Frame

open Number Surface
open Imaging (Image Layer Metrics Pixel)

/-! ## Surfaces between frames -/

/-- a scene asks for a whole size -/
def WholeSize (scene : Slice) : Prop := ∃ w h : Int, scene.width = .int w ∧ scene.height = .int h

/-- nothing is saved, no style is left but a fill, and the image is of the surface's size -/
structure Settled (s : Surface) : Prop where
  saved : s.saved = []
  style : ∃ fill, s.style = { fill }
  sound : Sound s

theorem new_settled {kind : Kind} {w h : Int} {s : Surface} (hs : new kind (.int w) (.int h) = .ok s) : Settled s := by
  have hsound := new_sound hs
  cases hsheet : kind.sheet (.int w) (.int h) with
  | error fault => simp [new, hsheet] at hs
  | ok sheet =>
    simp only [new, hsheet] at hs
    cases hs
    exact ⟨rfl, ⟨_, rfl⟩, hsound⟩

theorem whole_of_draws {op : Op} (h : op.draws = true) : op.Whole := by
  cases op with
  | resize => cases h
  | _ => trivial

theorem whole_opening (s : Surface) {scene : Slice} (hscene : WholeSize scene) :
    ∀ op, .ok op ∈ opening s scene → op.Whole := by
  intro op h
  rcases List.mem_append.mp h with h | h
  · unfold fitting at h
    split_ifs at h
    · cases h
    · cases List.mem_singleton.mp h
      exact hscene
  · have hclear : ∀ w h, (Op.clearRect 0 0 w h).Whole := fun _ _ => trivial
    exact gives_sized hclear _ _ op (List.mem_singleton.mp h).symm

/-! ## What is seen -/

theorem wiped_emptied {w h : Int} {x y : Sheet} (hx : SizedTo w h x) (hy : SizedTo w h y) (hkind : x.kind = y.kind) :
    (wiped w h x).emptied = (wiped w h y).emptied := by
  cases x with
  | vector => cases y with
    | vector => rfl
    | raster => cases hkind
  | raster image strokes => cases y with
    | vector => cases hkind
    | raster image' strokes' => simp [wiped, Sheet.emptied, Image.lay, hx.1, hx.2, hy.1, hy.2]

/-- what there is to see of an image: its size, and the answer at any index -/
def seen (image : Image) : (Int × Int) × (Scalar → Scalar → Except Imaging.Fault Pixel) :=
  ((image.width, image.height), image.read)

/-- what lies under a cleared ground is not seen -/
theorem seen_wiped (w h : Int) (below above : List Layer) :
    seen ⟨w, h, below ++ [.clear 0 0 w h] ++ above⟩ = seen ⟨w, h, above⟩ := by
  have hpixel : ∀ x y, Image.pixel? ⟨w, h, below ++ [.clear 0 0 w h] ++ above⟩ x y =
      Image.pixel? ⟨w, h, above⟩ x y := by
    intro x y
    simp only [Image.pixel?]
    generalize (if x < 0 then x + w else x) = x'
    generalize (if y < 0 then y + h else y) = y'
    split_ifs with hin
    · exact congrArg some (pixel_wiped ⟨hin.1, hin.2.1⟩ hin.2.2 below above)
    · rfl
  have hread : Image.read ⟨w, h, below ++ [.clear 0 0 w h] ++ above⟩ = Image.read ⟨w, h, above⟩ := by
    funext x y
    rw [Image.read, Image.read, hpixel]
  rw [seen, seen, hread]

theorem seen_frame {x y : Sheet} (hx : SizedTo w h x) (hy : SizedTo w h y) (hkind : x.kind = y.kind)
    (sheets : List Sheet) :
    ((sheets.foldl Sheet.followed (wiped w h x)).image?.map seen =
      (sheets.foldl Sheet.followed (wiped w h y)).image?.map seen) ∧
    (sheets.foldl Sheet.followed (wiped w h x)).marks = (sheets.foldl Sheet.followed (wiped w h y)).marks := by
  cases x with
  | vector => cases y with
    | vector => exact ⟨rfl, rfl⟩
    | raster => cases hkind
  | raster image strokes => cases y with
    | vector => cases hkind
    | raster image' strokes' =>
      simp only [wiped, Sheet.foldl_raster, Image.lay, hx.1, hx.2, hy.1, hy.2, Sheet.image?, Option.map_some,
        seen_wiped, Sheet.marks, and_self]

theorem markup_congr {s t : Surface} (hwidth : s.width = t.width) (hheight : s.height = t.height)
    (hkind : s.sheet.kind = t.sheet.kind) (hmarks : s.sheet.marks = t.sheet.marks) : s.markup? = t.markup? := by
  unfold markup?
  cases hs : s.sheet <;> cases ht : t.sheet <;> rw [hs, ht] at hkind hmarks
  · rw [hwidth, hheight]
    exact congrArg (fun marks => some (picture t.width t.height marks)) hmarks
  · cases hkind
  · cases hkind

/-! ## The operations of a frame -/

section

variable [Metrics]

/-- the operations of a drawing between saving and restoring -/
def isolatedOps (s : Surface) (p : Program) : List Op := .save :: (s.apply .save).1.tried p ++ [.restore]

/-- the operations of drawings in turn -/
def partsOps (s : Surface) : List Program → List Op
  | [] => []
  | p :: rest => isolatedOps s p ++ partsOps (isolated s p).1 rest

/-- the operations of a frame -/
def frameOps (family : Json) (s : Surface) (scene : Slice) : List Op :=
  s.tried (groundProgram s scene) ++ match ground s scene with
    | (t, none) => partsOps t (partPrograms family t scene)
    | (_, some _) => []

theorem after_isolatedOps (s : Surface) (p : Program) : s.after (isolatedOps s p) = (isolated s p).1 := by
  simp only [isolatedOps, after_append, after_cons, after_nil, after_tried]
  rfl

theorem after_partsOps (s : Surface) (programs : List Program) : s.after (partsOps s programs) = drawn s programs := by
  induction programs generalizing s with
  | nil => rfl
  | cons p rest ih => rw [partsOps, after_append, after_isolatedOps, ih, drawn, drawn, List.foldl_cons]

/-- the operations of a frame come to the frame -/
theorem after_frameOps (family : Json) (s : Surface) (scene : Slice) :
    s.after (frameOps family s scene) = (render family s scene).1 := by
  have hground : s.after (s.tried (groundProgram s scene)) = (ground s scene).1 := after_tried _ _
  rw [frameOps, after_append, hground]
  rcases h : ground s scene with ⟨t, none | fault⟩
  · rw [(render_parts h).1]
    exact after_partsOps _ _
  · rw [render_stops h]
    rfl

/-! ## The calls of a frame -/

section

variable {α : Type} (P : Painter α)

theorem pictured_isolated (s : Surface) {p : Program} (hp : Drawing p) (x : α) :
    P.pictured s x (isolatedOps s p) = P.pictured s.bare x (s.bare.tried p) := by
  have hdrawing := pictured_drawing P (s.apply .save).1 hp x
  have hrestore : ∀ (t : Surface) (y : α), P.pictured t y [.restore] = y := by
    intro t y
    refine pictured_still P t y ?_
    simp only [apply]
    split <;> rfl
  rw [isolatedOps, pictured_append, hrestore, Painter.pictured, pictured_still P s x rfl, hdrawing]
  rfl

theorem pictured_parts (s : Surface) {programs : List Program} (hp : ∀ p ∈ programs, Drawing p) (x : α) :
    P.pictured s x (partsOps s programs) = programs.foldl (fun x p => P.pictured s.bare x (s.bare.tried p)) x := by
  induction programs generalizing s x with
  | nil => rfl
  | cons p rest ih =>
    have hfirst := hp p List.mem_cons_self
    have hbare : (isolated s p).1.bare = s.bare := by
      obtain ⟨path, hisolated⟩ := isolated_eq s hfirst
      rw [hisolated, bare_followed]
    rw [partsOps, pictured_append, after_isolatedOps, pictured_isolated P s hfirst,
      ih _ fun q hq => hp q (List.mem_cons_of_mem _ hq), hbare, List.foldl_cons]

/-- the image after the background and the parts of a frame -/
def framed (family : Json) (stage : Surface) (scene : Slice) (x : α) : α :=
  (backdropBox scene :: partPrograms family stage scene).foldl (fun x p => P.pictured stage x (stage.tried p)) x

/-- the cleared ground, and then what the parts would draw alone -/
theorem pictured_frame (family : Json) {s : Surface} {scene : Slice} (h : (ground s scene).2 = none) (x : α) :
    P.pictured s x (frameOps family s scene) =
      framed P family (stage s scene) scene (P.pictured s x (s.tried (opening s scene))) := by
  have hground : ground s scene = ((ground s scene).1, none) := Prod.ext rfl h
  have hbare := (ground_ok hground).2.2.1
  have hcleared : (s.run (opening s scene)).2 = none := cleared_of_ground h
  have hbackdrop : ∀ y, P.pictured (cleared s scene).1 y ((cleared s scene).1.tried (backdrop scene)) =
      P.pictured (stage s scene) y ((stage s scene).tried (backdropBox scene)) := by
    intro y
    have hbox := pictured_drawing P ((cleared s scene).1.apply (.fillStyle scene.background)).1
      (backdropBox_drawing scene) y
    rw [stage_eq] at hbox
    rw [← hbox, backdrop, tried, Painter.pictured, pictured_still P _ y rfl]
    rfl
  have hopened : s.after (s.tried (opening s scene)) = (cleared s scene).1 := after_tried _ _
  have hafter : s.after (s.tried (groundProgram s scene)) = (ground s scene).1 := after_tried _ _
  have htried : s.tried (groundProgram s scene) =
      s.tried (opening s scene) ++ (cleared s scene).1.tried (backdrop scene) := by
    rw [groundProgram_eq, tried_append, hcleared]
    rfl
  have hparts := partPrograms_ground family hground
  have hframe : frameOps family s scene = s.tried (groundProgram s scene) ++
      partsOps (ground s scene).1 (partPrograms family (ground s scene).1 scene) := by
    rw [frameOps, hground]
  rw [hframe, pictured_append, hafter, pictured_parts P _ partPrograms_drawing, hbare, hparts, htried, pictured_append,
    hopened, hbackdrop]
  rfl

end

/-! ## What a frame leaves behind -/

theorem whole_isolatedOps (s : Surface) {p : Program} (hp : Drawing p) : ∀ op ∈ isolatedOps s p, op.Whole := by
  intro op h
  rcases List.mem_append.mp h with h | h
  · rcases List.mem_cons.mp h with rfl | h
    · trivial
    · exact whole_of_draws (hp.draws _ (mem_of_tried h) op rfl)
  · rw [List.mem_singleton.mp h]
    trivial

theorem whole_partsOps (s : Surface) {programs : List Program} (hp : ∀ p ∈ programs, Drawing p) :
    ∀ op ∈ partsOps s programs, op.Whole := by
  induction programs generalizing s with
  | nil => exact fun op h => nomatch h
  | cons p rest ih =>
    intro op h
    rcases List.mem_append.mp h with h | h
    · exact whole_isolatedOps s (hp p List.mem_cons_self) op h
    · exact ih _ (fun q hq => hp q (List.mem_cons_of_mem _ hq)) op h

theorem whole_frameOps (family : Json) (s : Surface) {scene : Slice} (hscene : WholeSize scene) :
    ∀ op ∈ frameOps family s scene, op.Whole := by
  intro op h
  rcases List.mem_append.mp h with h | h
  · have hmem := mem_of_tried h
    rw [groundProgram_eq] at hmem
    rcases List.mem_append.mp hmem with hmem | hmem
    · exact whole_opening s hscene op hmem
    · exact whole_of_draws ((backdrop_drawing scene).draws _ hmem op rfl)
  · split at h
    · exact whole_partsOps _ partPrograms_drawing op h
    · cases h

theorem ground_style (s : Surface) (scene : Slice) :
    ((ground s scene).1.saved = if fits s scene then s.saved else []) ∧
      ∃ fill, (ground s scene).1.style = { (if fits s scene then s.style else {}) with fill } := by
  obtain ⟨hstyle, hsaved⟩ := cleared_style s scene
  rw [ground_eq]
  cases (cleared s scene).2 with
  | some fault => exact ⟨hsaved, _, hstyle⟩
  | none =>
    have hrun : (cleared s scene).1.run (backdrop scene) =
        ((cleared s scene).1.apply (.fillStyle scene.background)).1.run (backdropBox scene) := run_ok _ _ _
    obtain ⟨sheet, hbox⟩ := backdropBox_eq ((cleared s scene).1.apply (.fillStyle scene.background)).1 scene
    simp only [hrun, hbox]
    exact ⟨hsaved, _, congrArg (fun style : Style => { style with fill := scene.background }) hstyle⟩

/-- after a frame, whether it came about or not, a settled surface is settled -/
theorem render_settles (family : Json) {s : Surface} {scene : Slice} (hs : Settled s) (hscene : WholeSize scene) :
    Settled (render family s scene).1 := by
  have hsound := after_sound hs.sound (whole_frameOps family s hscene)
  rw [after_frameOps] at hsound
  obtain ⟨fill, hfill⟩ := hs.style
  have hdefault : ∀ fill',
      ({ (if fits s scene then s.style else {}) with fill := fill' } : Style) = { fill := fill' } := by
    intro fill'
    rw [hfill]
    split_ifs <;> rfl
  have hkept : (if fits s scene then s.saved else []) = [] := by rw [hs.saved, ite_self]
  cases hground : (ground s scene).2 with
  | none =>
    obtain ⟨-, path, hrender⟩ := render_ok family hground
    rw [hrender]
    rw [hrender] at hsound
    exact ⟨(cleared_style s scene).2.trans hkept, ⟨_, hdefault _⟩, hsound⟩
  | some fault =>
    obtain ⟨hsaved, fill', hstyle⟩ := ground_style s scene
    rw [render_stops (Prod.ext rfl hground : ground s scene = ((ground s scene).1, some fault))] at hsound ⊢
    exact ⟨hsaved.trans hkept, ⟨fill', hstyle.trans (hdefault fill')⟩, hsound⟩

/-- frames in turn, whether they come about or not -/
def frames (family : Json) (s : Surface) (scenes : List Slice) : Surface :=
  scenes.foldl (fun s scene => (render family s scene).1) s

theorem frames_settle (family : Json) {s : Surface} (hs : Settled s) {scenes : List Slice}
    (hscenes : ∀ scene ∈ scenes, WholeSize scene) : Settled (frames family s scenes) := by
  induction scenes generalizing s with
  | nil => exact hs
  | cons scene rest ih =>
    exact ih (render_settles family hs (hscenes scene List.mem_cons_self)) fun scene' h =>
      hscenes scene' (List.mem_cons_of_mem _ h)

theorem frames_kind (family : Json) (s : Surface) (scenes : List Slice) :
    (frames family s scenes).sheet.kind = s.sheet.kind := by
  induction scenes generalizing s with
  | nil => rfl
  | cons scene rest ih =>
    have hfirst : (render family s scene).1.sheet.kind = s.sheet.kind := by
      rw [← after_frameOps]
      exact after_kind _ _
    exact (ih _).trans hfirst

/-! ## The last frame -/

section

variable {kind : Kind} {s t : Surface} {scene : Slice} {w h : Int}

/-- two settled surfaces of one kind come to the same stage -/
theorem stage_settled (hs : Settled s) (ht : Settled t) (hkind : s.sheet.kind = t.sheet.kind)
    (hwidth : scene.width = .int w) (hheight : scene.height = .int h) (hw : 0 < w) (hh : 0 < h)
    (hmade : s.sheet.kind = .raster → ∃ made, imageSized (.int w) (.int h) = .ok made) :
    stage s scene = stage t scene := by
  obtain ⟨s', hs', hsw, hsh, hsk, hss⟩ := cleared_whole hs.sound hwidth hheight hw hh hmade
  obtain ⟨t', ht', htw, hth, htk, hts⟩ := cleared_whole ht.sound hwidth hheight hw hh (hkind ▸ hmade)
  have hblank := wiped_emptied hss hts ((hsk.trans hkind).trans htk.symm)
  have hstyle : frameStyle s scene = frameStyle t scene := by
    obtain ⟨fill, hfill⟩ := hs.style
    obtain ⟨fill', hfill'⟩ := ht.style
    rw [frameStyle, frameStyle, hfill, hfill']
    split_ifs <;> rfl
  rw [stage, stage, hs', ht', hstyle]
  simp only [bare, hblank, hsw, hsh, htw, hth]

/-- on a settled surface a frame is that of a new surface -/
theorem last_frame (family : Json) (hs : Settled s) (ht : Settled t) (hkind : s.sheet.kind = t.sheet.kind)
    (hwidth : scene.width = .int w) (hheight : scene.height = .int h) (hw : 0 < w) (hh : 0 < h)
    (hmade : s.sheet.kind = .raster → ∃ made, imageSized (.int w) (.int h) = .ok made) :
    (render family s scene).2.2 = (render family t scene).2.2 ∧
    ((render family s scene).2.2 = none →
      (render family s scene).1.markup? = (render family t scene).1.markup? ∧
      (render family s scene).1.sheet.image?.map seen = (render family t scene).1.sheet.image?.map seen) := by
  have hstage := stage_settled hs ht hkind hwidth hheight hw hh hmade
  obtain ⟨s', hs', hsw, hsh, hsk, hss⟩ := cleared_whole hs.sound hwidth hheight hw hh hmade
  obtain ⟨t', ht', htw, hth, htk, hts⟩ := cleared_whole ht.sound hwidth hheight hw hh (hkind ▸ hmade)
  have hfault : (ground s scene).2 = (ground t scene).2 := by
    rw [ground_fault (congrArg Prod.snd hs'), ground_fault (congrArg Prod.snd ht'), hstage]
  rw [render_fault, render_fault]
  refine ⟨hfault, fun hnone => ?_⟩
  obtain ⟨-, path, hrender⟩ := render_ok family hnone
  obtain ⟨-, path', hrender'⟩ := render_ok family (hfault ▸ hnone)
  have hsheets : frameSheets family s scene = frameSheets family t scene := by
    rw [frameSheets, frameSheets, hstage]
  obtain ⟨himage, hmarks⟩ := seen_frame hss hts ((hsk.trans hkind).trans htk.symm) (frameSheets family t scene)
  rw [hrender, hrender', hs', ht', hsheets]
  refine ⟨?_, himage⟩
  have hblank := wiped_emptied hss hts ((hsk.trans hkind).trans htk.symm)
  have hkinds : ((frameSheets family t scene).foldl Sheet.followed (wiped w h s'.sheet)).kind =
      ((frameSheets family t scene).foldl Sheet.followed (wiped w h t'.sheet)).kind :=
    Sheet.kind_congr (by rw [Sheet.emptied_foldl, Sheet.emptied_foldl, hblank])
  exact markup_congr (hsw.trans htw.symm) (hsh.trans hth.symm) hkinds hmarks

theorem step_wiped {α : Type} (P : Painter α) {x : α} {op : Op} (hraster : s.sheet.kind = .raster)
    (hop : (s.apply op).1.sheet = wiped w h s.sheet) (hx : P.size x = (w, h)) : P.step s x op = P.blank w h := by
  have hclear := P.clear_all x
  rw [hx] at hclear
  cases hsheet : s.sheet with
  | vector => rw [hsheet] at hraster; cases hraster
  | raster image strokes =>
    rw [Painter.step, hop, hsheet]
    simpa [Sheet.calls, wiped, Image.lay, Painter.answer] using hclear

/-- once it is cleared, a painter's image is a new one -/
theorem pictured_opening {α : Type} (P : Painter α) (hs : Sound s) (hraster : s.sheet.kind = .raster) {x : α}
    (hx : s.sheet.size? = some (P.size x)) (hwidth : scene.width = .int w) (hheight : scene.height = .int h)
    (hw : 0 < w) (hh : 0 < h) (hmade : s.sheet.kind = .raster → ∃ made, imageSized (.int w) (.int h) = .ok made) :
    P.pictured s x (s.tried (opening s scene)) = P.blank w h := by
  obtain ⟨t, hfitted, htw, hth, hkind, hsized⟩ := fitted_whole hs hwidth hheight hw hh hmade
  have hclear := apply_clearRect htw hth hsized hw hh
  have hafter : s.after (s.tried (fitting s scene)) = t := (after_tried _ _).trans (congrArg Prod.fst hfitted)
  have htried : s.tried (opening s scene) = s.tried (fitting s scene) ++ [.clearRect 0 0 (.whole w) (.whole h)] := by
    rw [opening, tried_append, clearing_int hwidth hheight]
    rw [fitted] at hfitted
    simp only [hfitted, tried, hclear]
  have hsize := size_pictured P hx (s.tried (fitting s scene))
  rw [hafter] at hsize
  rw [htried, pictured_append, hafter]
  refine step_wiped P (hkind.trans hraster) (congrArg (fun r => r.1.sheet) hclear) ?_
  cases hsheet : t.sheet with
  | vector => rw [← hkind, hsheet] at hraster; cases hraster
  | raster image strokes =>
    rw [hsheet] at hsize hsized
    exact (Option.some.inj hsize).symm.trans (Prod.ext hsized.1 hsized.2)

/-- a frame on a settled surface makes the image that a frame on a new surface makes -/
theorem last_pictured {α : Type} (P : Painter α) (family : Json) (hs : Settled s) (ht : Settled t)
    (hraster : s.sheet.kind = .raster) (hkind : s.sheet.kind = t.sheet.kind) {x y : α}
    (hx : s.sheet.size? = some (P.size x)) (hy : t.sheet.size? = some (P.size y))
    (hwidth : scene.width = .int w) (hheight : scene.height = .int h) (hw : 0 < w) (hh : 0 < h)
    (hmade : s.sheet.kind = .raster → ∃ made, imageSized (.int w) (.int h) = .ok made)
    (hnone : (render family s scene).2.2 = none) :
    P.pictured s x (frameOps family s scene) = P.pictured t y (frameOps family t scene) := by
  have hfault := (last_frame family hs ht hkind hwidth hheight hw hh hmade).1
  have hopened := pictured_opening P hs.sound hraster hx hwidth hheight hw hh hmade
  have hopened' := pictured_opening P ht.sound (hkind ▸ hraster) hy hwidth hheight hw hh (hkind ▸ hmade)
  rw [hnone, render_fault] at hfault
  rw [render_fault] at hnone
  rw [pictured_frame P family hnone, pictured_frame P family hfault.symm, hopened, hopened',
    stage_settled hs ht hkind hwidth hheight hw hh hmade]

/-! ## Any history -/

/-- the operations of frames in turn -/
def historyOps (family : Json) (s : Surface) : List Slice → List Op
  | [] => []
  | scene :: rest => frameOps family s scene ++ historyOps family (render family s scene).1 rest

/-- the image after frames in turn on a new surface -/
def shown {α : Type} (P : Painter α) (family : Json) (s : Surface) (scenes : List Slice) : α :=
  P.pictured s (P.opened s) (historyOps family s scenes)

theorem after_historyOps (family : Json) (s : Surface) (scenes : List Slice) :
    s.after (historyOps family s scenes) = frames family s scenes := by
  induction scenes generalizing s with
  | nil => rfl
  | cons scene rest ih => rw [historyOps, after_append, after_frameOps, ih, frames, frames, List.foldl_cons]

theorem historyOps_snoc (family : Json) (s : Surface) (scenes : List Slice) (last : Slice) :
    historyOps family s (scenes ++ [last]) =
      historyOps family s scenes ++ frameOps family (frames family s scenes) last := by
  induction scenes generalizing s with
  | nil => simp [historyOps, frames]
  | cons scene rest ih => rw [List.cons_append, historyOps, historyOps, ih, List.append_assoc, frames, frames,
      List.foldl_cons]

theorem frames_snoc (family : Json) (s : Surface) (scenes : List Slice) (last : Slice) :
    frames family s (scenes ++ [last]) = (render family (frames family s scenes) last).1 := by
  simp [frames, List.foldl_append]

/-- frames on one surface come to the same as frames on another: the markup, what there is to see of the image, and
what any painter makes of it -/
structure SameShown (family : Json) (s : Surface) (scenes : List Slice) (t : Surface) (scenes' : List Slice) :
    Prop where
  markup : (frames family s scenes).markup? = (frames family t scenes').markup?
  image : (frames family s scenes).sheet.image?.map seen = (frames family t scenes').sheet.image?.map seen
  painted : s.sheet.kind = .raster → ∀ {α : Type} (P : Painter α), shown P family s scenes = shown P family t scenes'

/-- the last of any frames is the only one that counts -/
theorem same_last (family : Json) (hs : Settled s) (ht : Settled t) (hkind : s.sheet.kind = t.sheet.kind)
    (hwidth : scene.width = .int w) (hheight : scene.height = .int h) (hw : 0 < w) (hh : 0 < h)
    (hmade : s.sheet.kind = .raster → ∃ made, imageSized (.int w) (.int h) = .ok made) {earlier : List Slice}
    (hearlier : ∀ scene ∈ earlier, WholeSize scene)
    (hreturns : (render family (frames family s earlier) scene).2.2 = none) :
    (render family t scene).2.2 = none ∧ SameShown family s (earlier ++ [scene]) t [scene] := by
  have hsettled := frames_settle family hs hearlier
  have hkind' := (frames_kind family s earlier).trans hkind
  have hmade' : (frames family s earlier).sheet.kind = .raster → ∃ made, imageSized (.int w) (.int h) = .ok made :=
    fun hraster => hmade ((frames_kind family s earlier).symm.trans hraster)
  obtain ⟨hfault, hsame⟩ := last_frame family hsettled ht hkind' hwidth hheight hw hh hmade'
  obtain ⟨hmarkup, himage⟩ := hsame hreturns
  refine ⟨hfault.symm.trans hreturns, ⟨?_, ?_, fun hraster α P => ?_⟩⟩
  · rw [frames_snoc]
    exact hmarkup
  · rw [frames_snoc]
    exact himage
  · have hsize := size_pictured P (opened_size P hraster) (historyOps family s earlier)
    rw [after_historyOps] at hsize
    have hpictured := last_pictured P family hsettled ht ((frames_kind family s earlier).trans hraster) hkind' hsize
      (opened_size P (hkind ▸ hraster)) hwidth hheight hw hh hmade' hreturns
    rw [shown, shown, historyOps_snoc, pictured_append, after_historyOps, hpictured]
    simp [historyOps]

/-- frame after frame of one scene comes to the same as one -/
theorem same_again (family : Json) (ht : Settled t) (hwidth : scene.width = .int w) (hheight : scene.height = .int h)
    (hw : 0 < w) (hh : 0 < h) (hmade : t.sheet.kind = .raster → ∃ made, imageSized (.int w) (.int h) = .ok made)
    (hreturns : (render family t scene).2.2 = none) (n : Nat) :
    SameShown family t (List.replicate (n + 1) scene) t [scene] := by
  have hearlier : ∀ earlier ∈ List.replicate n scene, WholeSize earlier := by
    intro earlier hmem
    rw [List.eq_of_mem_replicate hmem]
    exact ⟨w, h, hwidth, hheight⟩
  have hsettled := frames_settle family ht hearlier
  have hkind := frames_kind family t (List.replicate n scene)
  have hfault := (last_frame family hsettled ht hkind hwidth hheight hw hh fun hraster => hmade (hkind ▸ hraster)).1
  rw [List.replicate_succ']
  exact (same_last family ht ht rfl hwidth hheight hw hh hmade hearlier (hfault.trans hreturns)).2

end

/-! ## Sizes asked for -/

theorem render_size (family : Json) (s : Surface) (scene : Slice) :
    (render family s scene).1.width = (if fits s scene then s.width else scene.width) ∧
      (render family s scene).1.height = if fits s scene then s.height else scene.height := by
  obtain ⟨hwidth, hheight⟩ := ground_size s scene
  obtain ⟨hwidth', hheight'⟩ := cleared_size s scene
  cases hground : (ground s scene).2 with
  | none =>
    obtain ⟨-, path, hrender⟩ := render_ok family hground
    rw [hrender]
    exact ⟨hwidth', hheight'⟩
  | some fault =>
    rw [render_stops (Prod.ext rfl hground)]
    exact ⟨hwidth.trans hwidth', hheight.trans hheight'⟩

section

variable {s : Surface} {scene : Slice} {w h : Int}

/-- a frame gives the surface the size of its scene, whether it comes about or not -/
theorem render_takes_size (family : Json) (hs : Sound s) (hwidth : scene.width = .int w)
    (hheight : scene.height = .int h) :
    (render family s scene).1.width = .int w ∧ (render family s scene).1.height = .int h := by
  obtain ⟨hw, hh⟩ := render_size family s scene
  rw [hw, hh]
  split_ifs with hfits
  · exact (fits_iff hs hwidth hheight).1 hfits
  · exact ⟨hwidth, hheight⟩

/-- a frame of a size that there is no image of fails, unless the surface has that size already -/
theorem render_unmade (family : Json) {fault : Fault} (hraster : s.sheet.kind = .raster)
    (hwidth : scene.width = .int w) (hheight : scene.height = .int h)
    (hunmade : imageSized (.int w) (.int h) = .error fault) (hfits : fits s scene = false) :
    (render family s scene).2.2 = some fault := by
  have hfitted : (fitted s scene).2 = some fault := by
    rw [fitted, fitting, hfits, if_neg Bool.false_ne_true, run_ok, hwidth, hheight]
    cases hsheet : s.sheet with
    | vector => rw [hsheet] at hraster; cases hraster
    | raster image strokes => simp [apply, resize, hsheet, Sheet.resized, hunmade, withSheet, bind, Except.bind]
  have hcleared : (cleared s scene).2 = some fault := by rw [cleared_eq, hfitted]
  rw [render_fault, ground_eq, hcleared]

/-- a surface that has come to a size of which there is no image was asked for it in vain -/
theorem unmade_asked (family : Json) {fault : Fault} (hs : Settled s) (hraster : s.sheet.kind = .raster)
    (hunmade : imageSized (.int w) (.int h) = .error fault) (hstart : ¬ (s.width = .int w ∧ s.height = .int h))
    {scenes : List Slice} (hscenes : ∀ scene ∈ scenes, WholeSize scene)
    (hsize : (frames family s scenes).width = .int w ∧ (frames family s scenes).height = .int h) :
    ∃ before scene after, scenes = before ++ scene :: after ∧ scene.width = .int w ∧ scene.height = .int h ∧
      (render family (frames family s before) scene).2.2 = some fault := by
  -- from the last frame back: the size is that of its scene, so it was there before or this frame asked for it
  induction scenes using List.reverseRecOn with
  | nil => exact absurd hsize hstart
  | append_singleton earlier last ih =>
    obtain ⟨hearlier, hlast⟩ := List.forall_mem_append.1 hscenes
    obtain ⟨w', h', hwidth, hheight⟩ := hlast last (List.mem_singleton_self last)
    have hsound := (frames_settle family hs hearlier).sound
    obtain ⟨hw, hh⟩ := render_takes_size family hsound hwidth hheight
    rw [frames_snoc, hw, hh, Json.int.injEq, Json.int.injEq] at hsize
    obtain ⟨rfl, rfl⟩ := hsize
    cases hfits : fits (frames family s earlier) last with
    | true =>
      obtain ⟨before, scene, after, rfl, hscene⟩ := ih hearlier ((fits_iff hsound hwidth hheight).1 hfits)
      exact ⟨before, scene, after ++ [last], by simp, hscene⟩
    | false =>
      exact ⟨earlier, last, [], rfl, hwidth, hheight,
        render_unmade family ((frames_kind family s earlier).trans hraster) hwidth hheight hunmade hfits⟩

/-- a frame of a size that there is no image of only comes about on a surface that has this size already -/
theorem unmade_held (family : Json) {fault : Fault} (hs : Settled s) (hraster : s.sheet.kind = .raster)
    (hwidth : scene.width = .int w) (hheight : scene.height = .int h)
    (hunmade : imageSized (.int w) (.int h) = .error fault) (hreturns : (render family s scene).2.2 = none) :
    s.width = .int w ∧ s.height = .int h := by
  rw [← fits_iff hs.sound hwidth hheight, ← Bool.not_eq_false]
  intro hfits
  rw [render_unmade family hraster hwidth hheight hunmade hfits] at hreturns
  cases hreturns

end

/-- **Frame history does not matter, as long as there is an image of the size.** After any frames of whole sizes on a new
surface, come about or not, a last frame that comes about shows what it alone shows on a new surface of its size: the
same markup, the same image, and the same image for any painter; and frame after frame of one scene shows what the first
did. Otherwise there is no image of its size, and so no new surface; then an earlier frame asked for the very size and
failed, and the surface kept the size with the image it had. -/
theorem history_forgotten (family : Json) {kind : Kind} {w₀ h₀ w h : Int} {start : Surface}
    (hstart : new kind (.int w₀) (.int h₀) = .ok start) {earlier : List Slice}
    (hearlier : ∀ scene ∈ earlier, WholeSize scene) {last : Slice} (hwidth : last.width = .int w)
    (hheight : last.height = .int h) (hw : 0 < w) (hh : 0 < h)
    (hreturns : (render family (frames family start earlier) last).2.2 = none) :
    (∃ fresh, new kind (.int w) (.int h) = .ok fresh ∧ (render family fresh last).2.2 = none ∧
      SameShown family start (earlier ++ [last]) fresh [last] ∧
      ∀ n, SameShown family fresh (List.replicate (n + 1) last) fresh [last]) ∨
    (kind = .raster ∧ ∃ fault, new kind (.int w) (.int h) = .error fault ∧ ∃ before scene after,
      earlier = before ++ scene :: after ∧ scene.width = .int w ∧ scene.height = .int h ∧
      (render family (frames family start before) scene).2.2 = some fault) := by
  obtain ⟨hkind, -⟩ := new_ok hstart
  have hstarts := new_settled hstart
  cases hfresh : new kind (.int w) (.int h) with
  | ok fresh =>
    obtain ⟨hkind', hmade⟩ := new_ok hfresh
    have hfreshs := new_settled hfresh
    have hsame := hkind.trans hkind'.symm
    obtain ⟨hreturns', hshown⟩ := same_last family hstarts hfreshs hsame hwidth hheight hw hh (hkind ▸ hmade) hearlier
      hreturns
    exact .inl ⟨fresh, rfl, hreturns', hshown, same_again family hfreshs hwidth hheight hw hh (hkind' ▸ hmade) hreturns'⟩
  | error fault =>
    obtain ⟨rfl, hunmade⟩ := new_error hfresh
    have hsettled := frames_settle family hstarts hearlier
    have hraster := (frames_kind family start earlier).trans hkind
    have hsize := unmade_held family hsettled hraster hwidth hheight hunmade hreturns
    exact .inr ⟨rfl, fault, rfl,
      unmade_asked family hstarts hkind hunmade (new_made hstart hunmade) hearlier hsize⟩

end

attribute [local instance] Metrics.halves

/-- a scene of no size -/
def sizeless : Slice := { elements := [redBox], width := .int 0, height := .int (-5) }

/-- a red box on black -/
def boxScene : Slice := { elements := [redBox], width := .int 20, height := .int 12 }

theorem spoilt_forgotten : ∃ start fresh, new .raster (.int 10) (.int 10) = .ok start ∧
    new .raster (.int 20) (.int 12) = .ok fresh ∧ (render defaultFamily start spoilt).2.2.isSome = true ∧
    (render defaultFamily fresh boxScene).2.2 = none ∧
    shown pixelwise defaultFamily start [spoilt, sizeless, boxScene] = shown pixelwise defaultFamily fresh [boxScene] ∧
    SameShown defaultFamily start [spoilt, sizeless, boxScene] fresh [boxScene] ∧
    ∀ n, SameShown defaultFamily fresh (List.replicate (n + 1) boxScene) fresh [boxScene] := by
  have hstart : new .raster (.int 10) (.int 10) = .ok ⟨.int 10, .int 10, {}, [], [], .raster (.blank 10 10) []⟩ := rfl
  have hnew : new .raster (.int 20) (.int 12) = .ok ⟨.int 20, .int 12, {}, [], [], .raster (.blank 20 12) []⟩ := rfl
  have hearlier : ∀ scene ∈ [spoilt, sizeless], WholeSize scene := by
    simp only [List.forall_mem_cons]
    exact ⟨⟨10, 10, rfl, rfl⟩, ⟨0, -5, rfl, rfl⟩, List.forall_mem_nil _⟩
  have hreturns : (render defaultFamily (frames defaultFamily ⟨.int 10, .int 10, {}, [], [], .raster (.blank 10 10) []⟩
      [spoilt, sizeless]) boxScene).2.2 = none := Option.isNone_iff_eq_none.mp (by decide +kernel)
  rcases history_forgotten defaultFamily hstart hearlier (rfl : boxScene.width = .int 20) rfl (by decide) (by decide)
      hreturns with ⟨fresh, hfresh, hlast, hshown, hagain⟩ | ⟨-, fault, hunmade, -⟩
  · exact ⟨_, fresh, hstart, hfresh, by decide +kernel, hlast, hshown.painted rfl pixelwise, hshown, hagain⟩
  · rw [hnew] at hunmade
    cases hunmade

/-- a scene wider than any image -/
def wideScene : Slice := { elements := [redBox], width := .int 536870911, height := .int 10 }

/-- a resize that fails is remembered all the same: the first frame fails for lack of an image, the next one comes about
on the image of the old size, and a new surface of the size there is none -/
theorem failed_resize_remembered : ∃ start, new .raster (.int 10) (.int 10) = .ok start ∧
    (render defaultFamily start wideScene).2.2.map Fault.kind = some "MemoryError" ∧
    (render defaultFamily (frames defaultFamily start [wideScene]) wideScene).2.2 = none ∧
    (frames defaultFamily start [wideScene, wideScene]).sheet.size? = some (10, 10) ∧
    ¬ ∃ fresh, new .raster wideScene.width wideScene.height = .ok fresh := by
  refine ⟨⟨.int 10, .int 10, {}, [], [], .raster (.blank 10 10) []⟩, rfl, by decide +kernel,
    Option.isNone_iff_eq_none.mp (by decide +kernel), by decide +kernel, ?_⟩
  rintro ⟨fresh, hfresh⟩
  have hunmade : new .raster wideScene.width wideScene.height = .error (.imaging .tooWide) := rfl
  rw [hunmade] at hfresh
  cases hfresh

end SketchPanel.Frame

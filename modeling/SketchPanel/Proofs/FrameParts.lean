/-
Frames in parts. A frame is its ground, and then one drawing after another, each from the style of the ground and none
in the way of the next.

Results:
- `isolated_eq`, `drawn_eq`: drawings between saving and restoring change the sheet and the path, and each adds what it
  adds alone.
- `render_parts`, `render_stops`: a frame is its ground and then its parts; only a fault of the ground ends it.
- `byHeight_places`: the order of the elements is by height and, at one height, by place.
- `frame_of_parts`: a frame is the cleared ground with what each part draws alone. Witness: `ringed_in_parts`.
- `background_spoils_frame`: without a background there are no parts.
-/
import Mathlib.Data.List.Sigma
import Mathlib.Tactic
import SketchPanel.Proofs.FrameGround

namespace SketchPanel.Frame

open Number Surface
open Imaging (Metrics)

/-! ## Order -/

/-- `a` is drawn before `b`: it is lower, or as high and comes first -/
def Below (a b : Element × Nat) : Prop := a.1.zIndex < b.1.zIndex ∨ a.1.zIndex = b.1.zIndex ∧ a.2 < b.2

/-- elements are drawn by height and, at one height, by their places -/
theorem byHeight_places (elements : List Element) : ∃ places : List (Element × Nat),
    places.map Prod.fst = Element.byHeight elements ∧ places.Perm elements.zipIdx ∧ places.Pairwise Below := by
  let le (a b : Element) : Bool := a.zIndex ≤ b.zIndex
  have htrans : ∀ a b c, le a b = true → le b c = true → le a c = true := by
    intro a b c hab hbc
    exact decide_eq_true ((of_decide_eq_true hab).trans (of_decide_eq_true hbc))
  have htotal : ∀ a b, (le a b || le b a) = true := by
    intro a b
    simpa [le] using le_total a.zIndex b.zIndex
  have hperm := List.mergeSort_perm elements.zipIdx (List.zipIdxLE le)
  have hnodup : (elements.zipIdx.mergeSort (List.zipIdxLE le)).Pairwise fun a b => a.2 ≠ b.2 :=
    List.pairwise_map.mp ((hperm.map Prod.snd).nodup_iff.mpr (List.nodup_zipIdx_map_snd elements))
  refine ⟨_, List.mergeSort_zipIdx, hperm, ?_⟩
  refine ((List.pairwise_mergeSort (List.zipIdxLE_trans htrans) (List.zipIdxLE_total htotal) _).and hnodup).imp ?_
  rintro a b ⟨hle, hne⟩
  simp only [List.zipIdxLE, le, decide_eq_true_eq] at hle
  split_ifs at hle with hab hba
  · exact .inr ⟨le_antisymm hab hba, lt_of_le_of_ne (of_decide_eq_true hle) hne⟩
  · exact .inl (not_le.mp hba)

theorem drawnElements_places (scene : Slice) : ∃ places : List (Element × Nat),
    drawnElements scene = (places.filter (·.1.visible)).map Prod.fst ∧ places.Perm scene.elements.zipIdx ∧
      places.Pairwise Below := by
  obtain ⟨places, hfst, hperm, hbelow⟩ := byHeight_places scene.elements
  refine ⟨places, ?_, hperm, hbelow⟩
  rw [drawnElements, ← hfst, List.filter_map]
  rfl

/-! ## Parts of a frame -/

theorem inTurn_surface {α : Type} (draw : Surface → α → Surface × List Log.Record) (s : Surface) (parts : List α) :
    (inTurn draw s parts).1 = parts.foldl (fun s part => (draw s part).1) s := by
  unfold inTurn
  generalize ([] : List Log.Record) = log
  induction parts generalizing s log with
  | nil => rfl
  | cons part rest ih => exact ih _ _

theorem bare_followed (s : Surface) (path : Path) (sheet : Sheet) :
    ({ s with path, sheet := s.sheet.followed sheet } : Surface).bare = s.bare := by
  simp [bare]

section

variable [Metrics]

/-- what a program draws on the surface with nothing on its sheet and no path -/
def drawnAlone (s : Surface) (p : Program) : Sheet := (s.bare.run p).1.sheet

/-- programs drawn in turn, each between saving and restoring -/
def drawn (s : Surface) (programs : List Program) : Surface := programs.foldl (fun s p => (isolated s p).1) s

/-- the programs of the parts of a frame -/
def partPrograms (family : Json) (s : Surface) (scene : Slice) : List Program :=
  (drawnElements scene).map (program family)
    ++ (drawnZones scene).map fun part => zoneProgram part.1 part.2 (labelWidth s part.1.action)

/-- a drawing between saving and restoring changes the sheet and the path, and nothing else -/
theorem isolated_eq (s : Surface) {p : Program} (hp : Drawing p) :
    ∃ path, isolated s p = ({ s with path, sheet := s.sheet.followed (drawnAlone s p) }, (s.bare.run p).2) := by
  have hkept := (run_redrawn (s.apply .save).1 hp.draws).eq
  obtain ⟨hover, hfault⟩ := run_bare (s.apply .save).1 hp
  have hsheet : ((s.apply .save).1.run p).1.sheet = s.sheet.followed (drawnAlone s p) := hover.sheet
  have hfault : (s.bare.run p).2 = ((s.apply .save).1.run p).2 := hfault
  refine ⟨((s.apply .save).1.run p).1.path, ?_⟩
  simp only [isolated]
  rw [hkept, hsheet, hfault]
  rfl

/-- drawings in turn change the sheet and the path, and each adds what it adds alone -/
theorem drawn_eq (s : Surface) {programs : List Program} (hp : ∀ p ∈ programs, Drawing p) :
    ∃ path, drawn s programs =
      { s with path, sheet := (programs.map (drawnAlone s)).foldl Sheet.followed s.sheet } := by
  induction programs generalizing s with
  | nil => exact ⟨s.path, rfl⟩
  | cons p rest ih =>
    obtain ⟨path, hfirst⟩ := isolated_eq s (hp p List.mem_cons_self)
    obtain ⟨path', hrest⟩ := ih (isolated s p).1 fun q hq => hp q (List.mem_cons_of_mem _ hq)
    have halone : drawnAlone (isolated s p).1 = drawnAlone s := by
      funext q
      rw [drawnAlone, drawnAlone, hfirst, bare_followed]
    refine ⟨path', ?_⟩
    rw [drawn, List.foldl_cons, ← drawn, hrest, halone, hfirst]
    rfl

theorem labelWidth_congr {s t : Surface} (h : s.sheet.emptied = t.sheet.emptied) (label : String) :
    labelWidth s label = labelWidth t label := by
  unfold labelWidth Surface.measure restyle
  cases hs : s.sheet <;> cases ht : t.sheet <;> rw [hs, ht] at h <;> first | rfl | cases h

theorem drawn_zones (s : Surface) (zones : List (Zone × Nat)) :
    zones.foldl (fun s part => (drawZone s part.1 part.2).1) s =
      drawn s (zones.map fun part => zoneProgram part.1 part.2 (labelWidth s part.1.action)) := by
  induction zones generalizing s with
  | nil => rfl
  | cons part rest ih =>
    obtain ⟨path, hfirst⟩ := isolated_eq s (zoneProgram_drawing part.1 part.2 (labelWidth s part.1.action))
    have hwidth : ∀ label, labelWidth (drawZone s part.1 part.2).1 label = labelWidth s label := by
      intro label
      refine labelWidth_congr ?_ label
      simp only [drawZone]
      rw [hfirst]
      exact Sheet.emptied_followed _ _
    rw [List.foldl_cons, ih]
    simp only [hwidth]
    rfl

/-- a ground that fails is all there is of a frame -/
theorem render_stops {family : Json} {s t : Surface} {scene : Slice} {fault : Fault}
    (h : ground s scene = (t, some fault)) : render family s scene = (t, [], some fault) := by
  rw [render, h]

/-- a frame is its ground and then its parts, whatever becomes of each -/
theorem render_parts {family : Json} {s t : Surface} {scene : Slice} (h : ground s scene = (t, none)) :
    (render family s scene).1 = drawn t (partPrograms family t scene) ∧ (render family s scene).2.2 = none := by
  rw [render, h]
  refine ⟨?_, rfl⟩
  have hprograms : ∀ p ∈ (drawnElements scene).map (program family), Drawing p := by
    intro p hp
    obtain ⟨e, -, rfl⟩ := List.mem_map.mp hp
    exact program_drawing family e
  have helements : (drawnElements scene).foldl (fun s e => (drawElement family s e).1) t =
      drawn t ((drawnElements scene).map (program family)) := by
    rw [drawn, List.foldl_map]
    rfl
  obtain ⟨path, hdrawn⟩ := drawn_eq t hprograms
  have hwidth : labelWidth (drawn t ((drawnElements scene).map (program family))) = labelWidth t := by
    funext label
    refine labelWidth_congr ?_ label
    rw [hdrawn]
    exact Sheet.emptied_foldl _ _
  simp only [inTurn_surface, helements, drawn_zones, hwidth, partPrograms]
  exact List.foldl_append.symm

theorem render_fault (family : Json) (s : Surface) (scene : Slice) :
    (render family s scene).2.2 = (ground s scene).2 := by
  rcases h : ground s scene with ⟨t, none | fault⟩
  · exact (render_parts h).2
  · rw [render_stops h]

/-! ## The frame -/

/-- what the parts of a frame put on its sheet, each drawn alone: the background, the elements, the zones -/
def frameSheets (family : Json) (s : Surface) (scene : Slice) : List Sheet :=
  ((stage s scene).run (backdropBox scene)).1.sheet
    :: (drawnElements scene).map (fun e => (drawElement family (stage s scene) e).1.sheet)
    ++ (if scene.debug.truthy then
        (scene.zones.zipIdx.filter (·.1.visible)).map fun part => (drawZone (stage s scene) part.1 part.2).1.sheet
      else [])

@[simp] theorem stage_bare (s : Surface) (scene : Slice) : (stage s scene).bare = stage s scene := by
  simp [stage, bare]

theorem isolated_stage (s : Surface) (scene : Slice) {p : Program} (hp : Drawing p) :
    (isolated (stage s scene) p).1.sheet = drawnAlone (stage s scene) p := by
  obtain ⟨path, hisolated⟩ := isolated_eq (stage s scene) hp
  have hblank : (drawnAlone (stage s scene) p).emptied = (cleared s scene).1.sheet.emptied := by
    rw [drawnAlone, (run_bare (stage s scene) hp).1.blank]
    exact Sheet.emptied_emptied _
  rw [hisolated]
  exact Sheet.emptied_followed_self hblank

theorem partPrograms_drawing {family : Json} {s : Surface} {scene : Slice} :
    ∀ p ∈ partPrograms family s scene, Drawing p := by
  intro p hp
  rcases List.mem_append.mp hp with he | hz
  · obtain ⟨e, -, rfl⟩ := List.mem_map.mp he
    exact program_drawing family e
  · obtain ⟨part, -, rfl⟩ := List.mem_map.mp hz
    exact zoneProgram_drawing _ _ _

theorem partPrograms_congr {family : Json} {s t : Surface} {scene : Slice} (h : s.sheet.emptied = t.sheet.emptied) :
    partPrograms family s scene = partPrograms family t scene := by
  have hwidth : labelWidth s = labelWidth t := funext (labelWidth_congr h)
  rw [partPrograms, partPrograms, hwidth]

theorem frameSheets_eq (family : Json) (s : Surface) (scene : Slice) :
    frameSheets family s scene = ((stage s scene).run (backdropBox scene)).1.sheet
      :: (partPrograms family (stage s scene) scene).map (drawnAlone (stage s scene)) := by
  have helements : ∀ e, (drawElement family (stage s scene) e).1.sheet =
      drawnAlone (stage s scene) (program family e) := fun e => isolated_stage s scene (program_drawing family e)
  have hzones : ∀ part : Zone × Nat, (drawZone (stage s scene) part.1 part.2).1.sheet =
      drawnAlone (stage s scene) (zoneProgram part.1 part.2 (labelWidth (stage s scene) part.1.action)) :=
    fun part => isolated_stage s scene (zoneProgram_drawing _ _ _)
  simp only [frameSheets, partPrograms, drawnZones, helements, hzones, List.map_append, List.map_map, List.cons_append]
  split_ifs <;> rfl

theorem partPrograms_ground (family : Json) {s t : Surface} {scene : Slice} (h : ground s scene = (t, none)) :
    partPrograms family t scene = partPrograms family (stage s scene) scene := by
  refine partPrograms_congr ?_
  rw [← (ground_ok h).2.2.1]
  exact (Sheet.emptied_emptied _).symm

/-- a frame whose ground comes about is the cleared surface with what the parts put on it -/
theorem render_ok (family : Json) {s : Surface} {scene : Slice} (h : (ground s scene).2 = none) :
    (render family s scene).2.2 = none ∧ ∃ path, (render family s scene).1 =
      { (cleared s scene).1 with
        style := frameStyle s scene
        path
        sheet := (frameSheets family s scene).foldl Sheet.followed (cleared s scene).1.sheet } := by
  have hground : ground s scene = ((ground s scene).1, none) := Prod.ext rfl h
  obtain ⟨hstyle, hsaved, hbare, hsheet⟩ := ground_ok hground
  obtain ⟨hrender, hfault⟩ : (render family s scene).1 = _ ∧ (render family s scene).2.2 = none := render_parts hground
  have hdraws : ∀ p ∈ partPrograms family (ground s scene).1 scene, Drawing p := partPrograms_drawing
  obtain ⟨path, hdrawn⟩ := drawn_eq (ground s scene).1 hdraws
  have halone : drawnAlone (ground s scene).1 = drawnAlone (stage s scene) := by
    funext p
    rw [drawnAlone, drawnAlone, hbare, stage_bare]
  have hparts := partPrograms_ground family hground
  obtain ⟨hwidth, hheight⟩ := ground_size s scene
  have hkept : (ground s scene).1.saved = (cleared s scene).1.saved := hsaved.trans (cleared_style s scene).2.symm
  refine ⟨hfault, path, ?_⟩
  rw [hrender, hdrawn, frameSheets_eq, List.foldl_cons, ← hsheet, ← halone, ← hparts, hwidth, hheight, hstyle, hkept]

/-- a part changes nothing but the sheet and the path, and adds to the sheet what it adds alone -/
theorem isolated_alone {s t : Surface} {scene : Slice} (ht : t.bare = stage s scene) {p : Program} (hp : Drawing p) :
    ∃ path, isolated t p = ({ t with path, sheet := t.sheet.followed (isolated (stage s scene) p).1.sheet },
      (isolated (stage s scene) p).2) := by
  obtain ⟨path, hisolated⟩ := isolated_eq t hp
  obtain ⟨_, hstage⟩ := isolated_eq (stage s scene) hp
  have halone : drawnAlone t p = drawnAlone (stage s scene) p := by rw [drawnAlone, drawnAlone, ht, stage_bare]
  refine ⟨path, ?_⟩
  rw [isolated_stage s scene hp, ← halone, hisolated, hstage, ht, stage_bare]

/-- **A frame is its parts, each drawn alone.** If size, cleared ground and background come about, the surface is the
cleared one in the style of the frame, and on its sheet is what the background, the elements and the zones put on an
empty sheet from that style and no path; no fault of a part gets out, and the saved styles are those from before the
first part. If the ground fails, the frame ends there. A part changes nothing but the sheet and the path, and one that
fails has drawn what came before the step it failed at. -/
theorem frame_of_parts (family : Json) (s : Surface) (scene : Slice) :
    (∀ fault, (ground s scene).2 = some fault → render family s scene = ((ground s scene).1, [], some fault)) ∧
    ((ground s scene).2 = none →
      (render family s scene).2.2 = none ∧
      (∃ path, (render family s scene).1 =
        { (cleared s scene).1 with
          style := frameStyle s scene
          path
          sheet := (frameSheets family s scene).foldl Sheet.followed (cleared s scene).1.sheet }) ∧
      (render family s scene).1.saved = if fits s scene then s.saved else []) ∧
    (∃ places : List (Element × Nat), drawnElements scene = (places.filter (·.1.visible)).map Prod.fst ∧
      places.Perm scene.elements.zipIdx ∧ places.Pairwise Below) ∧
    ∀ p ∈ partPrograms family (stage s scene) scene,
      (∀ t : Surface, t.bare = stage s scene → ∃ path, isolated t p =
        ({ t with path, sheet := t.sheet.followed (isolated (stage s scene) p).1.sheet },
          (isolated (stage s scene) p).2)) ∧
      ∀ fault, (isolated (stage s scene) p).2 = some fault →
        ∃ before step rest, p = before ++ step :: rest ∧ ((stage s scene).run before).2 = none ∧
          (isolated (stage s scene) p).1.sheet = ((stage s scene).run (before ++ [step])).1.sheet := by
  refine ⟨fun fault h => render_stops (Prod.ext rfl h), fun h => ?_, drawnElements_places scene, fun p hp => ?_⟩
  · obtain ⟨hfault, path, hrender⟩ := render_ok family h
    refine ⟨hfault, ⟨path, hrender⟩, ?_⟩
    rw [hrender]
    exact (cleared_style s scene).2
  · have hdraw := partPrograms_drawing p hp
    refine ⟨fun t ht => isolated_alone ht hdraw, fun fault h => ?_⟩
    obtain ⟨path, hisolated⟩ := isolated_eq (stage s scene) hdraw
    rw [hisolated, stage_bare] at h
    obtain ⟨before, step, rest, hsplit, hbefore, hrun⟩ := run_stops h
    refine ⟨before, step, rest, hsplit, hbefore, ?_⟩
    rw [isolated_stage s scene hdraw, drawnAlone, stage_bare, hrun]

end

attribute [local instance] Metrics.halves

/-- a red box -/
def redBox : Element :=
  { id := "box", x := 1, y := 2, width := some (.int 3), height := some (.int 4), background := some "#ff0000"
    shape := .rectangle }

/-- a circle that cannot be drawn -/
def insideOut : Element := { id := "ring", x := 5, y := 5, background := some "#ff0000", shape := .circle (some (-1)) }

/-- a black image with a point on its path -/
def dotted : Surface :=
  { width := .int 10, height := .int 10, path := Path.moveTo [] (4, 4), sheet := .raster (.blank 10 10) [] }

/-- a circle that cannot be drawn, and a box after it -/
def ringed : Slice := { elements := [insideOut, redBox], width := .int 10, height := .int 10 }

theorem ringed_in_parts :
    (ground dotted ringed).2 = none ∧ (render defaultFamily dotted ringed).2.2 = none ∧
      ∃ path, (render defaultFamily dotted ringed).1 =
        { (cleared dotted ringed).1 with
          style := frameStyle dotted ringed
          path
          sheet :=
            (frameSheets defaultFamily dotted ringed).foldl Sheet.followed (cleared dotted ringed).1.sheet } := by
  have hground : (ground dotted ringed).2 = none := Option.isNone_iff_eq_none.mp (by decide +kernel)
  obtain ⟨hreturns, hsurface, -⟩ := (frame_of_parts defaultFamily dotted ringed).2.1 hground
  exact ⟨hground, hreturns, hsurface⟩

/-- a scene whose background is no colour -/
def spoilt : Slice := { elements := [redBox], background := "nonsense", width := .int 10, height := .int 10 }

/-- a background that cannot be painted keeps the elements from being drawn, and an element that cannot be drawn has
begun a path all the same -/
theorem background_spoils_frame :
    (render defaultFamily dotted spoilt).1.sheet ≠
        (frameSheets defaultFamily dotted spoilt).foldl Sheet.followed (cleared dotted spoilt).1.sheet ∧
      (isolated dotted (program defaultFamily insideOut)).2.isSome = true ∧
      (isolated dotted (program defaultFamily insideOut)).1.path ≠ dotted.path := by
  refine ⟨fun h => ?_, by decide +kernel, fun h => ?_⟩
  · have hstrokes := congrArg (fun sheet => sheet.strokes.length) h
    revert hstrokes
    decide +kernel
  · have hlength := congrArg List.length h
    revert hlength
    decide +kernel

end SketchPanel.Frame

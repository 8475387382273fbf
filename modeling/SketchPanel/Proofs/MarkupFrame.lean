/-
Frames in markup. A call of a simulator does to its panel what one operation of the panel does, or nothing, and none of
these changes the size. On a sheet of markup the ground of a frame comes about as long as the sides of the panel can be
written, whatever the colour; what fails in the parts that follow goes no further. So a simulator that has something to
show always has a frame in markup.

Results:
- `panel_after`: a call of a simulator as an operation of its panel.
- `size_run`: no history of calls changes the size.
- `ground_markup`: the ground comes about.
- `frame_markup`: so does the frame.
-/
import Mathlib.Tactic
import SketchPanel.Proofs.FrameHistory
import SketchPanel.Proofs.SimulatorRun

namespace SketchPanel.SimulatorRun

open Number Simulator

/-! ## Calls and the panel -/

section Calls

variable {s : Simulator}

/-- a touch that is answered is one of the panel, with some resolver -/
theorem touch_panel {x y : Scalar} {hit : Touch} {touched : Simulator} (h : s.touch x y = .ok (hit, touched)) :
    ∃ r : Resolver, ∃ panel, r.touch s.panel x y none = .ok (hit, panel) ∧ touched = { s with panel } := by
  cases ho : s.renderable with
  | error fault =>
    rw [touch_error_of_renderable ho] at h
    cases h
  | ok o =>
    rcases Option.eq_none_or_eq_some s.resolver with hr | ⟨r, hr⟩
    · simp only [Simulator.touch, ho, hr, bind, Except.bind] at h
      cases h
    · rw [touch_eq ho hr] at h
      cases hp : r.touch s.panel x y none with
      | error fault =>
        rw [hp] at h
        cases h
      | ok done =>
        rw [hp] at h
        cases h
        exact ⟨r, done.2, hp, rfl⟩

/-- a call does to the panel what one operation does to it, if it does anything -/
theorem panel_after (s : Simulator) (call : Call) : (after s call).panel = s.panel ∨
    ∃ op : PanelRun.Op, (after s call).panel = PanelRun.after s.panel op ∧
      (op.isContent = true ∨ ∃ debug, op = .setDebug debug) := by
  cases call with
  | load source id =>
    rcases load_cases s source id with ⟨-, hl⟩ | ⟨-, panel, hpanel, hl⟩ | ⟨-, wanted, -, -, hl⟩
    · refine Or.inr ⟨.clear, ?_, Or.inl rfl⟩
      simp only [after, perform, hl]
      rfl
    · refine Or.inr ⟨.load (outlineOf s source) id, ?_, Or.inl rfl⟩
      simp only [after, perform, hl, PanelRun.after, PanelRun.step, hpanel]
    · refine Or.inl ?_
      simp only [after, perform, hl]
  | showScreen id =>
    cases hs : s.showScreen id with
    | error fault =>
      refine Or.inl ?_
      simp only [after, perform, hs, settled]
    | ok shown =>
      obtain ⟨o, panel, -, hpanel, rfl⟩ := showScreen_ok hs
      refine Or.inr ⟨.load o id, ?_, Or.inl rfl⟩
      simp only [after, perform, hs, settled, PanelRun.after, PanelRun.step, hpanel]
  | touch x y =>
    cases ht : s.touch x y with
    | error fault =>
      refine Or.inl ?_
      simp only [after, perform, ht, settled, Except.map]
    | ok done =>
      obtain ⟨hit, touched⟩ := done
      obtain ⟨r, panel, hpanel, rfl⟩ := touch_panel ht
      refine Or.inr ⟨.touch r x y none, ?_, Or.inl rfl⟩
      simp only [after, perform, ht, settled, Except.map, PanelRun.after, PanelRun.step, hpanel,
        Except.mapError]
  | setDebug debug => exact Or.inr ⟨.setDebug debug, rfl, Or.inr ⟨debug, rfl⟩⟩

/-- no call changes the size of the panel -/
theorem size_run (s : Simulator) (calls : List Call) :
    (run s calls).panel.slice.width = s.panel.slice.width ∧
      (run s calls).panel.slice.height = s.panel.slice.height := by
  induction calls generalizing s with
  | nil => exact ⟨rfl, rfl⟩
  | cons call calls ih =>
    obtain ⟨hwidth, hheight⟩ := ih (after s call)
    have hsame : (after s call).panel.slice.width = s.panel.slice.width ∧
        (after s call).panel.slice.height = s.panel.slice.height := by
      rcases panel_after s call with hpanel | ⟨op, hpanel, hcontent | ⟨debug, rfl⟩⟩
      · rw [hpanel]
        exact ⟨rfl, rfl⟩
      · have hframe := PanelRun.frame_after s.panel op hcontent
        rw [← hpanel] at hframe
        exact ⟨congrArg Prod.fst hframe, congrArg (·.2.1) hframe⟩
      · rw [hpanel]
        exact ⟨rfl, rfl⟩
    exact ⟨hwidth.trans hsame.1, hheight.trans hsame.2⟩

end Calls

/-! ## Sheets of markup -/

section Drawing

variable {surface : Surface} {scene : Slice} {w h : Int}

theorem marks_of_vector {sheet : Surface.Sheet} (hkind : sheet.kind = .vector) : ∃ marks, sheet = .vector marks := by
  cases sheet with
  | vector marks => exact ⟨marks, rfl⟩
  | raster image strokes => cases hkind

theorem compact_whole {n : Int} (hn : (ofWhole? n).isSome = true) :
    ∃ text, Surface.compact (.whole n) = .ok text := by
  obtain ⟨x, hx⟩ := Option.isSome_iff_exists.1 hn
  simp only [Surface.compact, Scalar.toFloat, hx]
  exact ⟨_, rfl⟩

/-- a rectangle comes about on a sheet of markup in a colour that is a text, if its sides can be written -/
theorem fillRect_markup {marks : List Surface.Mark} {colour : String} (hsheet : surface.sheet = .vector marks)
    (hfill : surface.style.fill = .str colour) (hw : (ofWhole? w).isSome = true) (hh : (ofWhole? h).isSome = true) :
    (surface.fillRect 0 0 (.whole w) (.whole h)).2 = none := by
  have hnought : (ofWhole? 0).isSome = true := rfl
  obtain ⟨nought, hnought⟩ := compact_whole hnought
  obtain ⟨width, hwidth⟩ := compact_whole hw
  obtain ⟨height, hheight⟩ := compact_whole hh
  have horigin : Surface.compact 0 = .ok nought := hnought
  unfold Surface.fillRect
  split_ifs
  · rfl
  · simp only [hsheet, Surface.filledMark, Surface.boxAttributes, horigin, hwidth, hheight, Surface.painted, hfill,
      Surface.paintText, bind, Except.bind]
    rfl

variable [Imaging.Metrics]

/-- the ground of a frame comes about on a sheet of markup, if its sides can be written -/
theorem ground_markup (hnew : Surface.new .vector (.int w) (.int h) = .ok surface) (hwidth : scene.width = .int w)
    (hheight : scene.height = .int h) (hw : 0 < w) (hh : 0 < h) (hwn : (ofWhole? w).isSome = true)
    (hhn : (ofWhole? h).isSome = true) : (Frame.ground surface scene).2 = none := by
  have hkind : surface.sheet.kind = .vector := by
    cases hnew
    rfl
  have hraster : surface.sheet.kind = .raster → ∃ made, Surface.imageSized (.int w) (.int h) = .ok made := by
    rw [hkind]
    exact nofun
  obtain ⟨t, hcleared, -, -, htkind, -⟩ :=
    Frame.cleared_whole (Frame.new_settled hnew).sound hwidth hheight hw hh hraster
  -- the background is drawn alone on an empty sheet
  have hsheet : (Frame.stage surface scene).sheet = .vector [] := by
    obtain ⟨marks, hmarks⟩ := marks_of_vector (htkind.trans hkind)
    rw [Frame.stage, hcleared, hmarks]
    rfl
  have hbox : Frame.backdropBox scene = [.ok (.fillRect 0 0 (.whole w) (.whole h))] := by
    rw [Frame.backdropBox, hwidth, hheight]
    rfl
  have hfill : (Frame.stage surface scene).style.fill = .str scene.background := rfl
  have hfilled : ((Frame.stage surface scene).apply (.fillRect 0 0 (.whole w) (.whole h))).2 = none :=
    fillRect_markup hsheet hfill hwn hhn
  rw [Frame.ground_fault (congrArg Prod.snd hcleared), hbox, Surface.run_ok, hfilled]
  rfl

/-- the markup of the frame that a simulator shows, drawn on a new sheet of its size -/
def frameMarkup? (s : Simulator) : Option String :=
  match s.newSurface .vector with
  | .error _ => none
  | .ok surface =>
    match s.drawOn surface with
    | (_, _, some _) => none
    | (drawn, _, none) => drawn.markup?

/-- **Frames in markup.** A simulator that has something to show, on a panel whose sides can be written, has a frame on a
sheet of markup, and the markup of its frame is that of the sheet. -/
theorem frame_markup {s : Simulator} {o : Outline} (hs : s.renderable = .ok o) (hwidth : s.panel.slice.width = .int w)
    (hheight : s.panel.slice.height = .int h) (hw : 0 < w) (hh : 0 < h) (hwn : (ofWhole? w).isSome = true)
    (hhn : (ofWhole? h).isSome = true) : ∃ drawn marks, (s.framed "svg").result = .ok drawn ∧
      drawn.sheet = .vector marks ∧ frameMarkup? s = drawn.markup? := by
  obtain ⟨blank, hnew⟩ : ∃ blank, Surface.new .vector (.int w) (.int h) = .ok blank := ⟨_, rfl⟩
  have hblank : s.newSurface .vector = .ok blank := by
    rw [Simulator.newSurface, hwidth, hheight, hnew]
  have hkind : (s.drawOn blank).1.sheet.kind = .vector := by
    have hkept : (s.drawOn blank).1.sheet.kind = blank.sheet.kind := Frame.frames_kind s.family blank [s.panel.slice]
    rw [hkept]
    cases hnew
    rfl
  have hfault : (s.drawOn blank).2.2 = none :=
    (Frame.render_fault s.family blank s.panel.slice).trans (ground_markup hnew hwidth hheight hw hh hwn hhn)
  obtain ⟨marks, hmarks⟩ := marks_of_vector hkind
  rcases hdrawn : s.drawOn blank with ⟨drawn, notes, fault⟩
  rw [hdrawn] at hmarks hfault
  obtain rfl : fault = none := hfault
  refine ⟨drawn, marks, ?_, hmarks, ?_⟩
  · have hformat : kindOf? "svg" = some .vector := by decide
    have hshown : (Traced.lift (s.renderable.mapError .refused) : Traced Log.Record OutputFault Outline).result =
        .ok o := by
      rw [hs]
      rfl
    have hmade : (Traced.lift ((s.newSurface .vector).mapError .drawing) : Traced Log.Record OutputFault Surface).result =
        .ok blank := by
      rw [hblank]
      rfl
    rw [framed, Traced.bind_ok hshown, hformat]
    dsimp only
    rw [Traced.bind_ok hmade, hdrawn]
  · simp only [frameMarkup?, hblank, hdrawn]

end Drawing

end SketchPanel.SimulatorRun

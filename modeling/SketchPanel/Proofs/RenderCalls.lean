/-
The calls of the command that draws. A load, the screen that is asked for, the debug mode, and touch after touch. Only two
of them can end it early: a load whose outline has errors, and a screen that is not there. Once a sketch is shown, every
touch is answered.

Results:
- `Shown.touchedAll_result`: touches are answered one after another.
- `prepared_errors`, `prepared_missing`, `prepared_shown`: how the calls of a request end.
-/
import Mathlib.Tactic
import SketchPanel.CommandLine.Run
import SketchPanel.Proofs.ScreenArrival

namespace SketchPanel.CommandLine

open Number SimulatorRun

/-! ## Requests for markup -/

/-- what is asked of the command: a sketch, a path for the frame, a screen, touches, the debug mode and a format -/
structure FrameRequest where
  sketch : String
  out : String
  screen : Option String := none
  points : List (Float × Float) := []
  debug : Bool := false
  format : Option String := none

namespace FrameRequest

/-- the request as it stands on the command line, without a size -/
def request (r : FrameRequest) : RenderRequest where
  sketch := r.sketch
  output := .str r.out
  screen := r.screen.map .str
  touches := r.points.map some
  debug := r.debug
  format := r.format.map .str

/-- the path of the frame -/
def path (r : FrameRequest) : Files.Path := .read r.out

/-- the touches, from first to last -/
def touchCalls (r : FrameRequest) : List Call := r.points.map fun point => .touch (.real point.1) (.real point.2)

/-- the calls of a simulator that the request comes to -/
def calls (r : FrameRequest) (source : String) : List Call :=
  .load source none :: ((r.screen.map fun id => Call.showScreen (some id)).toList ++
    ((if r.debug then [Call.setDebug (.bool true)] else []) ++ r.touchCalls))

/-- whether a frame in markup is asked for: the screen has a name, and neither the ending of the path nor the format asks
for anything else -/
structure ForMarkup (r : FrameRequest) : Prop where
  screen : r.screen ≠ some ""
  format : ∀ name ∈ r.format, name = "svg"
  ending : Surface.asksForMarkup r.path = true

end FrameRequest

/-! ## The calls of a request -/

section Preparing

variable {s : Simulator} {source : String} {o : Outline} {r : FrameRequest}

/-- a load without a screen is never refused -/
theorem loaded_result (s : Simulator) (source : String) :
    (loaded s source).result = .ok (SimulatorRun.after s (.load source none)) := by
  have hfault : (s.load source none).2 = none := by
    rcases load_cases s source none with ⟨-, hl⟩ | ⟨-, panel, -, hl⟩ | ⟨-, wanted, hwanted, -⟩
    · rw [hl]
    · rw [hl]
    · cases hwanted
  simp only [loaded, hfault]
  rfl

theorem hasErrors_loaded (s : Simulator) (source : String) :
    hasErrors (SimulatorRun.after s (.load source none)) = (outlineOf s source).hasErrors := by
  obtain ⟨panel, hs⟩ := after_load s source none
  rw [hs]
  rfl

/-- whether a sketch that can be shown is loaded, and touches on it lead to screens that can be told -/
structure Shown (s : Simulator) (o : Outline) : Prop where
  outline : s.outline = some o
  renderable : o.isRenderable = true
  resolver : ∃ start, s.resolver = some ⟨o.screens, .str start⟩

namespace Shown

/-- a sketch without errors can be shown -/
theorem load {start : String} (hstart : s.options.drawPrefix = .str start) (h : (outlineOf s source).hasErrors = false) :
    Shown (SimulatorRun.after s (.load source none)) (outlineOf s source) := by
  have hr : (outlineOf s source).isRenderable = true := isRenderable_of_no_errors h
  obtain ⟨panel, hs⟩ := after_load s source none
  rw [hs]
  refine ⟨rfl, hr, start, ?_⟩
  rw [resolverOf, Option.filter_some_pos hr, Option.map_some, hstart]

theorem answers (h : Shown s o) : s.renderable = .ok o := renderable_eq_ok_iff.2 ⟨h.outline, h.renderable⟩

theorem after (h : Shown s o) {call : Call} (hcall : call.source? = none) : Shown (SimulatorRun.after s call) o := by
  obtain ⟨panel, hs⟩ := after_unloaded (s := s) hcall
  rw [hs]
  exact ⟨h.outline, h.renderable, h.resolver⟩

/-- a screen of the sketch is shown -/
theorem showScreen_ok (h : Shown s o) {id : String} (hid : id ∈ o.screens.map Screen.id) :
    s.showScreen (some id) = .ok (SimulatorRun.after s (.showScreen (some id))) := by
  cases hs : s.showScreen (some id) with
  | ok s' => simp only [SimulatorRun.after, SimulatorRun.perform, hs, settled]
  | error fault =>
    rcases showScreen_error hs with hrefused | ⟨o', wanted, ho', hwanted, hnone, -⟩
    · rw [h.answers] at hrefused
      cases hrefused
    · obtain rfl : o = o' := Except.ok.inj (h.answers.symm.trans ho')
      obtain rfl : id = wanted := Option.some.inj hwanted
      obtain ⟨screen, hscreen, rfl⟩ := List.mem_map.1 hid
      exact absurd (List.find?_eq_none.1 hnone screen hscreen) (by simp)

/-- a screen that is not there is refused -/
theorem showScreen_missing (h : Shown s o) {id : String} (hid : id ∉ o.screens.map Screen.id) :
    ∃ fault, s.showScreen (some id) = .error fault := by
  have hnone : o.screen? id = none := by
    refine List.find?_eq_none.2 fun screen hscreen => ?_
    rw [beq_iff_eq]
    rintro rfl
    exact hid (List.mem_map_of_mem hscreen)
  have hmissing : Panel.screenToShow o (some id) = .error (.unknownScreen id) := by simp only [Panel.screenToShow, hnone]
  refine ⟨.unknownScreen id (o.screens.map (·.id)), ?_⟩
  simp only [Simulator.showScreen, h.answers, PanelRun.load_error s.panel hmissing, bind, Except.bind]
  rfl

/-- a touch is answered -/
theorem touched_result (h : Shown s o) (x y : Float) :
    (touched s x y).result = .ok (SimulatorRun.after s (.touch (.real x) (.real y))) := by
  obtain ⟨start, hresolver⟩ := h.resolver
  obtain ⟨hit, panel, htouch⟩ := touch_answers (r := ⟨o.screens, .str start⟩) rfl s.panel (.real x) (.real y) none
  have hok : s.touch (.real x) (.real y) = .ok (hit, { s with panel }) := by
    rw [touch_eq h.answers hresolver, htouch]
    rfl
  simp only [touched, SimulatorRun.after, SimulatorRun.perform, hok, Except.map, settled]

/-- touches are answered one after another -/
theorem touchedAll_result (h : Shown s o) (points : List (Float × Float)) :
    (touchedAll s (points.map some)).result =
      .ok (SimulatorRun.run s (points.map fun point => .touch (.real point.1) (.real point.2))) := by
  induction points generalizing s with
  | nil => rfl
  | cons point points ih =>
    obtain ⟨x, y⟩ := point
    rw [List.map_cons, List.map_cons, touchedAll, Traced.result_bind, h.touched_result]
    exact ih (h.after rfl)

theorem run (h : Shown s o) {calls : List Call} (hcalls : ∀ call ∈ calls, call.source? = none) :
    Shown (SimulatorRun.run s calls) o := by
  induction calls generalizing s with
  | nil => exact h
  | cons call calls ih =>
    rw [List.forall_mem_cons] at hcalls
    exact ih (h.after hcalls.1) hcalls.2

/-- the calls of a request load one sketch -/
theorem calls (h : Shown (SimulatorRun.after s (.load source none)) o) (r : FrameRequest) :
    Shown (SimulatorRun.run s (r.calls source)) o := by
  refine h.run fun call hcall => ?_
  rcases List.mem_append.1 hcall with hcall | hcall
  · obtain ⟨id, -, rfl⟩ := Option.map_eq_some_iff.1 (Option.mem_toList.1 hcall)
    rfl
  rcases List.mem_append.1 hcall with hcall | hcall
  · split_ifs at hcall with hdebug
    · rw [List.mem_singleton.1 hcall]
      rfl
    · cases hcall
  · obtain ⟨point, -, rfl⟩ := List.mem_map.1 hcall
    rfl

end Shown

/-- whether a screen is asked for that an outline does not have -/
def FrameRequest.Misses (r : FrameRequest) (o : Outline) : Prop := ∃ id, r.screen = some id ∧ id ∉ o.screens.map Screen.id

/-- of a sketch with errors nothing is drawn -/
theorem prepared_errors (h : (outlineOf s source).hasErrors = true) :
    (prepared s r.request source).result = .ok none := by
  rw [prepared, Traced.bind_ok (loaded_result s source), if_pos ((hasErrors_loaded s source).trans h)]
  rfl

theorem not_hasErrors_loaded (h : (outlineOf s source).hasErrors = false) :
    ¬ hasErrors (SimulatorRun.after s (.load source none)) = true := by
  rw [hasErrors_loaded, h]
  exact Bool.false_ne_true

theorem given_screen (hr : r.ForMarkup) {id : String} (hid : r.screen = some id) :
    given r.request.screen = some (.str id) := by
  have hname : (Json.str id).truthy = true := by
    have hne : id ≠ "" := fun h => hr.screen (hid.trans (congrArg some h))
    simpa [Json.truthy] using hne
  rw [FrameRequest.request, hid]
  exact Option.filter_some_pos hname

/-- a screen that is not there ends the command -/
theorem prepared_missing (hr : r.ForMarkup) (h : (outlineOf s source).hasErrors = false)
    (hs : Shown (SimulatorRun.after s (.load source none)) (outlineOf s source))
    (hmisses : r.Misses (outlineOf s source)) : ∃ fault, (prepared s r.request source).result = .error fault := by
  obtain ⟨id, hid, hnone⟩ := hmisses
  obtain ⟨fault, hfault⟩ := hs.showScreen_missing hnone
  have hplain : (Json.str id).plain = id := rfl
  refine ⟨.frame (.refused fault), ?_⟩
  rw [prepared, Traced.bind_ok (loaded_result s source), if_neg (not_hasErrors_loaded h), given_screen hr hid]
  exact Traced.bind_error (by simp only [hplain, hfault]; rfl)

/-- the touches of a request on what is shown -/
theorem touched_run {shown : Simulator} (h : Shown shown o) (r : FrameRequest) :
    (touchedAll (if r.request.debug then shown.setDebug true else shown) r.request.touches).result =
      .ok (SimulatorRun.run shown ((if r.debug then [Call.setDebug (.bool true)] else []) ++ r.touchCalls)) := by
  have hdebug : ∀ debug, Shown (SimulatorRun.after shown (.setDebug debug)) o := fun debug => h.after rfl
  show (touchedAll (if r.debug then shown.setDebug true else shown) (r.points.map some)).result = _
  cases r.debug with
  | false => exact h.touchedAll_result r.points
  | true => exact (hdebug (.bool true)).touchedAll_result r.points

/-- otherwise the calls of the request are made, and it is their simulator that is drawn -/
theorem prepared_shown (hr : r.ForMarkup) (h : (outlineOf s source).hasErrors = false)
    (hs : Shown (SimulatorRun.after s (.load source none)) (outlineOf s source))
    (hmisses : ¬ r.Misses (outlineOf s source)) :
    (prepared s r.request source).result = .ok (some (SimulatorRun.run s (r.calls source))) := by
  rw [prepared, Traced.bind_ok (loaded_result s source), if_neg (not_hasErrors_loaded h)]
  cases hscreen : r.screen with
  | none =>
    have hgiven : given r.request.screen = none := by
      rw [FrameRequest.request, hscreen]
      rfl
    rw [hgiven, Traced.bind_ok (Traced.result_pure _), Traced.bind_ok (touched_run hs r), FrameRequest.calls, hscreen]
    rfl
  | some id =>
    have hthere : id ∈ (outlineOf s source).screens.map Screen.id := by
      by_contra hnone
      exact hmisses ⟨id, hscreen, hnone⟩
    have hok := hs.showScreen_ok hthere
    have hshown : Shown (SimulatorRun.after _ (.showScreen (some id))) _ := hs.after rfl
    have hplain : (Json.str id).plain = id := rfl
    rw [given_screen hr hscreen, Traced.bind_ok (by simp only [hplain, hok]; rfl), Traced.bind_ok (touched_run hshown r),
      FrameRequest.calls, hscreen]
    rfl

end Preparing

end SketchPanel.CommandLine

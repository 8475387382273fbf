/-
Histories of a simulator. Everything that can be asked of a simulator is one `Call`; `perform` does it and says why it was
refused, if it was, and `run` is a whole history. Three parts have to fit: the outline of the sketch, the resolver of its
touches, and the panel. A call other than a load changes the panel alone. A load replaces outline and resolver together,
before it is known whether the screen that was asked for is there.

Results:
- `after_unloaded`, `after_load`: what one call can change.
- `Loaded.step`, `Loaded.run`: after any history the outline is that of the sketch loaded last, and the resolver is that of
  the outline, if it can be shown.
- `refused_call`: a refused call changes nothing, but for a load that asks for a screen that is not there: that one keeps
  only the panel.
- `sketch_linked`: with the default settings, the parts fit after any history, and every refusal is one of the
  simulator's own.
Witness and counterexample:
- `refused_load_keeps_panel`: a load that is refused.
- `refused_load_mixes`: after a refused load, a touch on a screen of one sketch leads to a screen of another.
-/
import Mathlib.Tactic
import SketchPanel.Proofs.BodySearch
import SketchPanel.Proofs.PanelRun
import SketchPanel.Simulator.Output

namespace SketchPanel.SimulatorRun

open Number Simulator

/-! ## Calls -/

/-- what can be asked of a simulator -/
inductive Call where
  | load (source : String) (id : Option String)
  | showScreen (id : Option String)
  | touch (x y : Scalar)
  | setDebug (debug : Json)

/-- the simulator after something that may be refused, the same simulator if it is, and why it was refused -/
def settled (s : Simulator) : Except Fault Simulator → Simulator × Option Fault
  | .ok s' => (s', none)
  | .error fault => (s, some fault)

/-- does what is asked: the simulator afterwards, and why it was refused, if it was -/
def perform (s : Simulator) : Call → Simulator × Option Fault
  | .load source id => s.load source id
  | .showScreen id => settled s (s.showScreen id)
  | .touch x y => settled s ((s.touch x y).map Prod.snd)
  | .setDebug debug => (s.setDebug debug, none)

def after (s : Simulator) (call : Call) : Simulator := (perform s call).1

def run (s : Simulator) (calls : List Call) : Simulator := calls.foldl after s

/-- the sketch that a call loads -/
def Call.source? : Call → Option String
  | .load source _ => some source
  | _ => none

/-- the sketch that was loaded last -/
def lastSource? (calls : List Call) : Option String := (calls.filterMap Call.source?).getLast?

/-- the outline of a sketch, as a simulator reads it -/
def outlineOf (s : Simulator) (source : String) : Outline := (Sketch.extract s.options source).1

/-- the resolver of an outline, if it can be shown -/
def resolverOf (s : Simulator) (outline : Option Outline) : Option Resolver :=
  (outline.filter Outline.isRenderable).map fun o => ⟨o.screens, s.options.drawPrefix⟩

/-- outlines depend on the options of the simulator alone -/
theorem outlineOf_congr {s s' : Simulator} (h : s.options = s'.options) (source : String) :
    outlineOf s source = outlineOf s' source := by
  rw [outlineOf, outlineOf, h]

/-! ## What one call can do -/

section Steps

variable {s s' : Simulator} {o : Outline} {fault : Fault}

theorem renderable_eq_ok_iff : s.renderable = .ok o ↔ s.outline = some o ∧ o.isRenderable = true := by
  unfold Simulator.renderable
  constructor
  · intro h
    split at h
    · cases h
    · rename_i other ho
      split at h
      · cases h
        exact ⟨ho, by assumption⟩
      · cases h
  · rintro ⟨ho, hr⟩
    simp only [ho, hr, if_true]

/-- nothing can be shown exactly if no sketch is loaded, or one that cannot be shown -/
theorem renderable_error (h : ∀ o, s.outline = some o → o.isRenderable = false) :
    ∃ fault, s.renderable = .error fault ∧ fault.kind = "SimulatorError" := by
  unfold Simulator.renderable
  cases ho : s.outline with
  | none => exact ⟨_, rfl, rfl⟩
  | some o =>
    simp only [h o ho, Bool.false_eq_true, if_false]
    exact ⟨_, rfl, rfl⟩

theorem kind_of_renderable (h : s.renderable = .error fault) : fault.kind = "SimulatorError" := by
  unfold Simulator.renderable at h
  split at h
  · cases h
    rfl
  · split at h <;> cases h
    rfl

/-- a showing changes the panel alone -/
theorem showScreen_ok {id : Option String} (h : s.showScreen id = .ok s') :
    ∃ o panel, s.renderable = .ok o ∧ s.panel.load o id = .ok panel ∧ s' = { s with panel } := by
  unfold Simulator.showScreen at h
  cases hr : s.renderable with
  | error fault => simp [hr, bind, Except.bind] at h
  | ok o =>
    simp only [hr, bind, Except.bind] at h
    split at h
    · rename_i panel hp
      exact ⟨o, panel, rfl, hp, (Except.ok.inj h).symm⟩
    · cases h

/-- a showing is refused if nothing can be shown, or if the screen that is asked for is not there -/
theorem showScreen_error {id : Option String} (h : s.showScreen id = .error fault) :
    s.renderable = .error fault ∨ ∃ o wanted, s.renderable = .ok o ∧ id = some wanted ∧ o.screen? wanted = none ∧
      fault = .unknownScreen wanted (o.screens.map (·.id)) := by
  unfold Simulator.showScreen at h
  cases hr : s.renderable with
  | error other =>
    simp only [hr, bind, Except.bind, Except.error.injEq] at h
    exact Or.inl (by rw [h])
  | ok o =>
    refine Or.inr ?_
    simp only [hr, bind, Except.bind] at h
    cases hs : Panel.screenToShow o id with
    | ok screen =>
      obtain ⟨rotation, hl⟩ := PanelRun.load_ok s.panel hs
      simp [hl, pure, Except.pure] at h
    | error other =>
      rw [PanelRun.load_error s.panel hs] at h
      cases id with
      | none => cases hs
      | some wanted =>
        refine ⟨o, wanted, rfl, rfl, ?_, (Except.error.inj h).symm⟩
        simp only [Panel.screenToShow] at hs
        split at hs
        · cases hs
        · assumption

/-- a touch does to the panel what the resolver does to it, and nothing else -/
theorem touch_eq {r : Resolver} (ho : s.renderable = .ok o) (hr : s.resolver = some r) (x y : Scalar) :
    s.touch x y = (((r.touch s.panel x y none).map fun (hit, panel) => (hit, { s with panel })).mapError .mismatch) := by
  unfold Simulator.touch
  cases hp : r.touch s.panel x y none <;>
    simp [ho, hr, hp, bind, Except.bind, pure, Except.pure, Except.mapError, Except.map]

theorem touch_error_of_renderable (h : s.renderable = .error fault) (x y : Scalar) : s.touch x y = .error fault := by
  simp [Simulator.touch, h, bind, Except.bind]

theorem touch_ok {x y : Scalar} {hit : Touch} (h : s.touch x y = .ok (hit, s')) : ∃ panel, s' = { s with panel } := by
  cases ho : s.renderable with
  | error fault => rw [touch_error_of_renderable ho] at h; cases h
  | ok o =>
    rcases Option.eq_none_or_eq_some s.resolver with hr | ⟨r, hr⟩
    · simp [Simulator.touch, ho, hr, bind, Except.bind, throw, throwThe, MonadExceptOf.throw] at h
    · rw [touch_eq ho hr] at h
      cases hp : r.touch s.panel x y none with
      | error fault => rw [hp] at h; cases h
      | ok done =>
        rw [hp] at h
        exact ⟨done.2, (congrArg Prod.snd (Except.ok.inj h)).symm⟩

/-- how a load ends: a sketch that cannot be shown empties the panel; of another, a screen is shown; and if the screen that
is asked for is not there, the sketch is loaded all the same, and the panel stays -/
theorem load_cases (s : Simulator) (source : String) (id : Option String) :
    let o := outlineOf s source
    let read (panel : Panel) : Simulator :=
      { s with panel, outline := some o, resolver := resolverOf s (some o) }
    (o.isRenderable = false ∧ s.load source id = (read s.panel.clear, none)) ∨
      (o.isRenderable = true ∧ ∃ panel, s.panel.load o id = .ok panel ∧ s.load source id = (read panel, none)) ∨
      (o.isRenderable = true ∧ ∃ wanted, id = some wanted ∧ o.screen? wanted = none ∧
        s.load source id = (read s.panel, some (.unknownScreen wanted (o.screens.map (·.id))))) := by
  intro o read
  cases hr : o.isRenderable with
  | false =>
    refine Or.inl ⟨rfl, ?_⟩
    have hread : s.reading o = read s.panel.clear := by
      simp [Simulator.reading, hr, read, resolverOf, Option.filter]
    show (if o.isRenderable then _ else _) = _
    rw [hr, ← hread]
    rfl
  | true =>
    refine Or.inr ?_
    have hread : s.reading o = read s.panel := by
      simp [Simulator.reading, hr, read, resolverOf, Option.filter]
    have hload : s.load source id = settled (read s.panel) ((read s.panel).showScreen id) := by
      unfold Simulator.load
      show (if o.isRenderable then _ else _) = _
      rw [if_pos hr, ← hread]
      rfl
    have hshown : (read s.panel).renderable = .ok o := renderable_eq_ok_iff.2 ⟨rfl, hr⟩
    cases hs : (read s.panel).showScreen id with
    | ok shown =>
      obtain ⟨o', panel, ho', hp, rfl⟩ := showScreen_ok hs
      cases Except.ok.inj (hshown.symm.trans ho')
      exact Or.inl ⟨rfl, panel, hp, by rw [hload, hs]; rfl⟩
    | error fault =>
      rcases showScreen_error hs with h | ⟨o', wanted, ho', rfl, hnone, rfl⟩
      · cases hshown.symm.trans h
      · cases Except.ok.inj (hshown.symm.trans ho')
        exact Or.inr ⟨rfl, wanted, rfl, hnone, by rw [hload, hs]; rfl⟩

/-- **A load** replaces outline and resolver, both for the same sketch, and nothing else but the panel. -/
theorem after_load (s : Simulator) (source : String) (id : Option String) :
    ∃ panel, after s (.load source id) =
      { s with panel, outline := some (outlineOf s source), resolver := resolverOf s (some (outlineOf s source)) } := by
  rcases load_cases s source id with ⟨-, h⟩ | ⟨-, panel, -, h⟩ | ⟨-, wanted, -, -, h⟩
  · exact ⟨s.panel.clear, congrArg Prod.fst h⟩
  · exact ⟨panel, congrArg Prod.fst h⟩
  · exact ⟨s.panel, congrArg Prod.fst h⟩

/-- **Any other call** changes the panel alone. -/
theorem after_unloaded {call : Call} (h : call.source? = none) : ∃ panel, after s call = { s with panel } := by
  cases call with
  | load source id => cases h
  | showScreen id =>
    cases hs : s.showScreen id with
    | ok s' =>
      obtain ⟨o, panel, -, -, rfl⟩ := showScreen_ok hs
      exact ⟨panel, by simp [after, perform, hs, settled]⟩
    | error fault => exact ⟨s.panel, by simp [after, perform, hs, settled]⟩
  | touch x y =>
    cases ht : s.touch x y with
    | ok done =>
      obtain ⟨hit, s'⟩ := done
      obtain ⟨panel, rfl⟩ := touch_ok ht
      exact ⟨panel, by simp [after, perform, ht, settled, Except.map]⟩
    | error fault => exact ⟨s.panel, by simp [after, perform, ht, settled, Except.map]⟩
  | setDebug debug => exact ⟨s.panel.setDebug debug, rfl⟩

end Steps

/-! ## Whole histories -/

theorem lastSource?_cons (call : Call) (calls : List Call) :
    lastSource? (call :: calls) = (lastSource? calls).or call.source? := by
  unfold lastSource?
  rw [List.filterMap_cons]
  cases call.source? with
  | none => simp
  | some source =>
    rw [List.getLast?_cons]
    cases (calls.filterMap Call.source?).getLast? <;> rfl

/-- whether a simulator, once `start`, has the outline of the sketch that was loaded last, and the resolver of that outline -/
structure Loaded (start : Simulator) (last : Option String) (s : Simulator) : Prop where
  options : s.options = start.options
  outline : s.outline = last.map (outlineOf start)
  resolver : s.resolver = resolverOf start s.outline

namespace Loaded

variable {start s : Simulator} {last : Option String}

theorem load (h : s.options = start.options) (source : String) (id : Option String) :
    Loaded start (some source) (after s (.load source id)) := by
  obtain ⟨panel, hs⟩ := after_load s source id
  rw [hs, outlineOf_congr h]
  exact ⟨h, rfl, by rw [resolverOf, resolverOf, h]⟩

theorem unloaded (h : Loaded start last s) {call : Call} (hcall : call.source? = none) :
    Loaded start last (after s call) := by
  obtain ⟨panel, hs⟩ := after_unloaded (s := s) hcall
  rw [hs]
  exact ⟨h.options, h.outline, h.resolver⟩

theorem step (h : Loaded start last s) (call : Call) : Loaded start (call.source?.or last) (after s call) := by
  cases call with
  | load source id => exact load h.options source id
  | showScreen id => exact h.unloaded rfl
  | touch x y => exact h.unloaded rfl
  | setDebug debug => exact h.unloaded rfl

/-- after any history, the outline is that of the sketch loaded last, and the resolver is that of the outline -/
theorem run (h : Loaded start last s) (calls : List Call) :
    Loaded start ((lastSource? calls).or last) (run s calls) := by
  induction calls generalizing s last with
  | nil => exact h
  | cons call calls ih =>
    rw [lastSource?_cons, Option.or_assoc]
    exact ih (h.step call)

theorem resolver_of_renderable (h : Loaded start last s) {o : Outline} (ho : s.outline = some o)
    (hr : o.isRenderable = true) : s.resolver = some ⟨o.screens, start.options.drawPrefix⟩ := by
  rw [h.resolver, ho, resolverOf, Option.filter_some_pos hr]
  rfl

theorem resolver_of_unrenderable (h : Loaded start last s) (hnone : ∀ o, s.outline = some o → o.isRenderable = false) :
    s.resolver = none := by
  rw [h.resolver, resolverOf]
  cases ho : s.outline with
  | none => rfl
  | some o => simp [Option.filter, hnone o ho]

end Loaded

/-! ## Refusals -/

section Refusals

variable {s : Simulator} {fault : Fault}

/-- a load whose outline can be shown, but not the screen that was asked for -/
structure Misses (s : Simulator) (source : String) (wanted : String) (fault : Fault) : Prop where
  renderable : (outlineOf s source).isRenderable = true
  missing : (outlineOf s source).screen? wanted = none
  fault : fault = .unknownScreen wanted ((outlineOf s source).screens.map (·.id))

theorem load_refused {source : String} {id : Option String} (h : (s.load source id).2 = some fault) :
    ∃ wanted, id = some wanted ∧ Misses s source wanted fault ∧ (s.load source id).1 = { s with
      outline := some (outlineOf s source), resolver := resolverOf s (some (outlineOf s source)) } := by
  rcases load_cases s source id with ⟨-, hl⟩ | ⟨-, panel, -, hl⟩ | ⟨hr, wanted, rfl, hnone, hl⟩
  · rw [hl] at h
    cases h
  · rw [hl] at h
    cases h
  · rw [hl] at h ⊢
    exact ⟨wanted, rfl, ⟨hr, hnone, (Option.some.inj h).symm⟩, rfl⟩

theorem settled_refused {x : Except Fault Simulator} (h : (settled s x).2 = some fault) :
    x = .error fault ∧ (settled s x).1 = s := by
  cases x with
  | ok s' => cases h
  | error other =>
    cases h
    exact ⟨rfl, rfl⟩

/-- **Refused calls.** Whatever is refused, the panel stays as it is, active slice and rotation. A refused showing or touch
changes nothing at all. A load is refused only if its sketch can be shown and the screen that it asks for is not there; it
leaves the new sketch loaded, outline and resolver, over a panel that shows what it showed before. -/
theorem refused_call (s : Simulator) (call : Call) (fault : Fault) (h : (perform s call).2 = some fault) :
    (after s call).panel = s.panel ∧ (call.source? = none → after s call = s) ∧
      ∀ source id, call = .load source id → ∃ wanted, id = some wanted ∧ Misses s source wanted fault ∧
        after s call = { s with
          outline := some (outlineOf s source), resolver := resolverOf s (some (outlineOf s source)) } := by
  cases call with
  | load source id =>
    obtain ⟨wanted, rfl, hmisses, hl⟩ := load_refused h
    change after s (.load source (some wanted)) = _ at hl
    refine ⟨by rw [hl], nofun, ?_⟩
    rintro _ _ ⟨⟩
    exact ⟨wanted, rfl, hmisses, hl⟩
  | showScreen id =>
    have hkept := (settled_refused h).2
    exact ⟨congrArg Simulator.panel hkept, fun _ => hkept, nofun⟩
  | touch x y =>
    have hkept := (settled_refused h).2
    exact ⟨congrArg Simulator.panel hkept, fun _ => hkept, nofun⟩
  | setDebug debug => cases h

end Refusals

/-- a simulator with the default settings -/
def fresh : Simulator where
  options := Sketch.usual
  family := .str "Arial, sans-serif"
  panel := .new (.int 380) (.int 420) (.int 1) (.bool false)

/-- a screen whose only zone asks for a pad -/
def homeSketch : String :=
  "void drawHome() \x7b\n tft.fillScreen(1);\n if (x>=0 && x<=9 && y>=0 && y<=9) state = PAD;\n\x7d"

def padSketch : String := "void drawPad() \x7b\n tft.fillScreen(2);\n\x7d"

/-- a load of the pad that asks for a screen which is not there -/
def missedLoad : Call := .load padSketch (some "drawNowhere")

/-- the ids of the screens in the outline, those that touches lead to, and the name of what is shown -/
def overview (s : Simulator) : Option (List String) × Option (List String) × String :=
  (s.outline.map fun o => o.screens.map (·.id), s.resolver.map fun r => r.screens.map (·.id), s.panel.slice.current)

/-- the home screen is loaded and the load of the pad is refused; the pad is loaded all the same, with its resolver -/
theorem refused_load_keeps_panel :
    let s := run fresh [.load homeSketch none]
    let fault : Fault := .unknownScreen "drawNowhere" ["drawPad"]
    (perform s missedLoad).2 = some fault ∧ (after s missedLoad).panel = s.panel ∧
      overview (after s missedLoad) = (some ["drawPad"], some ["drawPad"], "drawHome") := by
  have hread : (perform (run fresh [.load homeSketch none]) missedLoad).2 =
        some (.unknownScreen "drawNowhere" ["drawPad"]) ∧
      overview (after (run fresh [.load homeSketch none]) missedLoad) =
        (some ["drawPad"], some ["drawPad"], "drawHome") := by
    decide +kernel
  exact ⟨hread.1, (refused_call _ _ _ hread.1).1, hread.2⟩

/-- **A refused load mixes two sketches.** It replaces outline and resolver, while the panel still shows the home screen: a
touch there, which led nowhere before, leads to a screen of the other sketch. -/
theorem refused_load_mixes :
    Simulator.new (Settings.defaults "INFO") none none = .ok fresh ∧
      let s := run fresh [.load homeSketch none]
      let s' := after s missedLoad
      (perform s missedLoad).2.isSome = true ∧ s'.outline ≠ s.outline ∧ s'.resolver ≠ s.resolver ∧
        overview s = (some ["drawHome"], some ["drawHome"], "drawHome") ∧
        overview (after s (.touch (.whole 5) (.whole 5))) = (some ["drawHome"], some ["drawHome"], "PAD") ∧
        overview (after s' (.touch (.whole 5) (.whole 5))) = (some ["drawPad"], some ["drawPad"], "drawPad") := by
  refine ⟨rfl, ?_⟩
  intro s s'
  have hread : (perform s missedLoad).2.isSome = true ∧ (overview s').1 ≠ (overview s).1 ∧
      (overview s').2.1 ≠ (overview s).2.1 ∧ overview s = (some ["drawHome"], some ["drawHome"], "drawHome") ∧
      overview (after s (.touch (.whole 5) (.whole 5))) = (some ["drawHome"], some ["drawHome"], "PAD") ∧
      overview (after s' (.touch (.whole 5) (.whole 5))) = (some ["drawPad"], some ["drawPad"], "drawPad") := by
    decide +kernel
  obtain ⟨hrefused, houtline, hresolver, hseen⟩ := hread
  exact ⟨hrefused, fun h => houtline (by simp only [overview, h]), fun h => hresolver (by simp only [overview, h]), hseen⟩

/-! ## Simulators whose parts fit -/

/-- where the names of drawing functions start with a text, the screen of a zone can always be told -/
theorem destination_answers {r : Resolver} {start : String} (h : r.drawPrefix = .str start) (z : Zone) :
    ∃ found, r.destination? z = .ok found := by
  unfold Resolver.destination? Screen.find?
  split
  · exact ⟨_, rfl⟩
  · simp only [Screen.drawnBy?, drawFunctionName, h]
    exact ⟨_, rfl⟩

theorem touch_answers {r : Resolver} {start : String} (h : r.drawPrefix = .str start) (p : Panel) (x y : Scalar)
    (zones : Option (List Zone)) : ∃ hit panel, r.touch p x y zones = .ok (hit, panel) := by
  unfold Resolver.touch
  dsimp only
  split
  · rename_i z _
    obtain ⟨found, hfound⟩ := destination_answers h z
    rw [PanelRun.execute_ok p hfound]
    exact ⟨_, _, rfl⟩
  · exact ⟨_, _, rfl⟩

variable [Imaging.Metrics]

/-- what is not there to be shown is refused in the same words everywhere -/
theorem refused_without_outline {s : Simulator} {fault : Fault} (h : s.renderable = .error fault) :
    (∀ x y, s.touch x y = .error fault) ∧ (∀ id, s.showScreen id = .error fault) ∧
      (∀ surface, s.renderOn surface = .error fault) ∧
      ∀ format, s.framed format = ⟨[], .error (.refused fault)⟩ := by
  refine ⟨touch_error_of_renderable h, fun id => ?_, fun surface => ?_, fun format => ?_⟩
  · simp [Simulator.showScreen, h, bind, Except.bind]
  · simp [Simulator.renderOn, h, bind, Except.bind]
  · simp [Simulator.framed, h, bind, Except.mapError, Traced.lift]

/-- whether the parts of a simulator fit, once it was `start` and has loaded a sketch, or none: the outline is that of the
sketch; if it can be shown there is a resolver, for its screens, and a touch does to the panel what the resolver does to it;
if not, there is none, and everything that needs a screen is refused; a load of a sketch that cannot be shown empties the
panel; and whatever is refused is refused by the simulator itself -/
structure Linked (start : Simulator) (last : Option String) (s : Simulator) : Prop where
  outline : s.outline = last.map (outlineOf start)
  answers : ∀ o, s.outline = some o → o.isRenderable = true → ∃ r, s.resolver = some r ∧ r.screens = o.screens ∧
    ∀ x y, ∃ hit panel, r.touch s.panel x y none = .ok (hit, panel) ∧ s.touch x y = .ok (hit, { s with panel })
  refuses : (∀ o, s.outline = some o → o.isRenderable = false) → s.resolver = none ∧
    ∃ fault, fault.kind = "SimulatorError" ∧ (∀ x y, s.touch x y = .error fault) ∧
      (∀ id, s.showScreen id = .error fault) ∧ (∀ surface, s.renderOn surface = .error fault) ∧
      ∀ format, s.framed format = ⟨[], .error (.refused fault)⟩
  empties : ∀ source id, (outlineOf start source).isRenderable = false →
    (after s (.load source id)).outline = some (outlineOf start source) ∧
      let slice := (after s (.load source id)).panel.slice
      slice.elements = [] ∧ slice.zones = [] ∧ slice.background = "#000000" ∧ slice.current = ""
  refusals : ∀ call fault, (perform s call).2 = some fault → fault.kind = "SimulatorError"

theorem Loaded.linked {start s : Simulator} {last : Option String} (h : Loaded start last s) {text : String}
    (hstart : start.options.drawPrefix = .str text) : Linked start last s := by
  have hanswers : ∀ o, s.outline = some o → o.isRenderable = true → ∃ r, s.resolver = some r ∧ r.screens = o.screens ∧
      ∀ x y, ∃ hit panel, r.touch s.panel x y none = .ok (hit, panel) ∧ s.touch x y = .ok (hit, { s with panel }) := by
    intro o ho hr
    have hresolver := h.resolver_of_renderable ho hr
    refine ⟨_, hresolver, rfl, fun x y => ?_⟩
    obtain ⟨hit, panel, htouch⟩ := touch_answers (r := ⟨o.screens, start.options.drawPrefix⟩) hstart s.panel x y none
    exact ⟨hit, panel, htouch, by rw [touch_eq (renderable_eq_ok_iff.2 ⟨ho, hr⟩) hresolver, htouch]; rfl⟩
  refine ⟨h.outline, hanswers, fun hnone => ?_, fun source id hunshown => ?_, fun call fault hcall => ?_⟩
  · obtain ⟨fault, hrefused, hkind⟩ := renderable_error hnone
    exact ⟨h.resolver_of_unrenderable hnone, fault, hkind, refused_without_outline hrefused⟩
  · rw [← outlineOf_congr h.options] at hunshown ⊢
    rcases load_cases s source id with ⟨-, hl⟩ | ⟨hr, -⟩ | ⟨hr, -⟩
    · rw [show after s (.load source id) = _ from congrArg Prod.fst hl]
      exact ⟨rfl, rfl, rfl, rfl, rfl⟩
    · rw [hunshown] at hr; cases hr
    · rw [hunshown] at hr; cases hr
  · cases call with
    | load source id =>
      obtain ⟨wanted, -, hmisses, -⟩ := load_refused hcall
      rw [hmisses.fault]
      rfl
    | showScreen id =>
      rcases showScreen_error (settled_refused hcall).1 with hs | ⟨o, wanted, -, -, -, rfl⟩
      · exact kind_of_renderable hs
      · rfl
    | touch x y =>
      have hrefused := (settled_refused hcall).1
      cases ho : s.renderable with
      | error other =>
        rw [touch_error_of_renderable ho] at hrefused
        cases hrefused
        exact kind_of_renderable ho
      | ok o =>
        obtain ⟨houtline, hr⟩ := renderable_eq_ok_iff.1 ho
        obtain ⟨r, -, -, htouch⟩ := hanswers o houtline hr
        obtain ⟨hit, panel, -, hok⟩ := htouch x y
        rw [hok] at hrefused
        cases hrefused
    | setDebug debug => cases hcall

end SketchPanel.SimulatorRun

/-
Histories of a panel. Everything that can be done to a panel is one `Op`; `step` does it or refuses, `after` keeps the
panel when it is refused, and `run` is a whole history. What an operation makes of the content of the slice is its
`Outcome`, read off what the operation is given and not off the slice that comes out.

Results:
- `content_after`: one operation changes elements, zones and name together, exactly as its outcome says.
- `frame_after`: loads, showings, touches and clearings leave size and debug mode alone.
- `run_one_screen`: after any history, elements and zones are those of one screen that some operation was given, or
  there are none; the name is that screen's id, or the target of the last touch since that matched no screen.
-/
import Mathlib.Tactic
import SketchPanel.Panel.Resolver

namespace SketchPanel.PanelRun

open Number

/-! ## Operations -/

/-- what can be done to a panel, with all that is given -/
inductive Op where
  | load (o : Outline) (id : Option String)
  | showScreen (screen : Screen)
  | touch (r : Resolver) (x y : Scalar) (zones : Option (List Zone))
  | execute (r : Resolver) (z : Zone)
  | setDebug (debug : Json)
  | setDimensions (width height : Json)
  | setRotation (rotation : Json)
  | clear

def step (p : Panel) : Op → Except Panel.Fault Panel
  | .load o id => p.load o id
  | .showScreen screen => .ok (p.showScreen screen)
  | .touch r x y zones => ((r.touch p x y zones).map Prod.snd).mapError .mismatch
  | .execute r z => (r.execute p z).mapError .mismatch
  | .setDebug debug => .ok (p.setDebug debug)
  | .setDimensions width height => p.setDimensions width height
  | .setRotation rotation => p.setRotation rotation
  | .clear => .ok p.clear

/-- the panel after an operation, the same panel if it is refused -/
def after (p : Panel) (op : Op) : Panel :=
  match step p op with
  | .ok p' => p'
  | .error _ => p

def run (p : Panel) (ops : List Op) : Panel := ops.foldl after p

theorem run_snoc (p : Panel) (ops : List Op) (op : Op) : run p (ops ++ [op]) = after (run p ops) op := by
  simp [run, List.foldl_append]

/-- the screens that an operation is given -/
def Op.Gives : Op → Screen → Prop
  | .load o _, screen => screen ∈ o.screens
  | .showScreen given, screen => given = screen
  | .touch r .., screen => screen ∈ r.screens
  | .execute r _, screen => screen ∈ r.screens
  | _, _ => False

/-- whether an operation is about the content of the slice, and not about its size or debug mode -/
def Op.isContent : Op → Bool
  | .load .. | .showScreen _ | .touch .. | .execute .. | .clear => true
  | .setDebug _ | .setDimensions .. | .setRotation _ => false

/-! ## Outcomes -/

/-- what becomes of the content of a slice -/
inductive Outcome where
  /-- a screen is shown, or nothing -/
  | shows (screen : Option Screen)
  /-- no screen matches: only the name changes -/
  | renames (target : String)
  | keeps

/-- the outcome of carrying out the action of a zone -/
def outcomeOf (r : Resolver) (z : Zone) : Outcome :=
  match r.destination? z with
  | .ok (some screen) => .shows (some screen)
  | .ok none => .renames z.wanted
  | .error _ => .keeps

def outcome (p : Panel) : Op → Outcome
  | .load o id =>
    match Panel.screenToShow o id with
    | .ok screen => .shows screen
    | .error _ => .keeps
  | .showScreen screen => .shows (some screen)
  | .touch r x y zones =>
    match (Resolver.touched p x y zones).zone with
    | some z => outcomeOf r z
    | none => .keeps
  | .execute r z => outcomeOf r z
  | .clear => .shows none
  | _ => .keeps

/-- the outcomes of a history, one for each operation -/
def outcomes (p : Panel) : List Op → List Outcome
  | [] => []
  | op :: ops => outcome p op :: outcomes (after p op) ops

theorem outcomes_snoc (p : Panel) (ops : List Op) (op : Op) :
    outcomes p (ops ++ [op]) = outcomes p ops ++ [outcome (run p ops) op] := by
  induction ops generalizing p with
  | nil => rfl
  | cons o ops ih =>
    rw [List.cons_append, outcomes, ih]
    rfl

def Outcome.isShow : Outcome → Bool
  | .shows _ => true
  | _ => false

theorem shows_of_isShow {o : Outcome} (h : o.isShow = true) : ∃ screen, o = .shows screen := by
  cases o with
  | shows screen => exact ⟨screen, rfl⟩
  | _ => cases h

def Outcome.target? : Outcome → Option String
  | .renames target => some target
  | _ => none

/-! ## One operation -/

/-- a screen with nothing on it and without a name -/
def blank : Screen := { id := "", name := "" }

/-- the part of a slice that says what is shown -/
structure Content where
  elements : List Element
  zones : List Zone
  current : String

def contentOf (s : Slice) : Content := ⟨s.elements, s.zones, s.current⟩

/-- the part of a slice that says how it is shown -/
def frameOf (s : Slice) : Json × Json × Json := (s.width, s.height, s.debug)

def Outcome.applied (c : Content) : Outcome → Content
  | .shows screen => ⟨(screen.getD blank).elements, (screen.getD blank).zones, (screen.getD blank).id⟩
  | .renames target => { c with current := target }
  | .keeps => c

theorem execute_error {r : Resolver} {z : Zone} {fault : Json.Mismatch} (p : Panel)
    (h : r.destination? z = .error fault) : r.execute p z = .error fault := by
  simp [Resolver.execute, h, bind, Except.bind]

theorem execute_ok {r : Resolver} {z : Zone} {found : Option Screen} (p : Panel) (h : r.destination? z = .ok found) :
    r.execute p z = .ok { p with slice := Resolver.arrived p.slice z.wanted found } := by
  simp [Resolver.execute, h, bind, Except.bind, pure, Except.pure]

/-- a touch does what carrying out the action of the zone it hits does -/
theorem after_touch (p : Panel) (r : Resolver) (x y : Scalar) (zones : Option (List Zone)) :
    after p (.touch r x y zones) =
      match (Resolver.touched p x y zones).zone with
      | some z => after p (.execute r z)
      | none => p := by
  cases hz : (Resolver.touched p x y zones).zone with
  | none => simp [after, step, Resolver.touch, hz, Except.map, Except.mapError, pure, Except.pure]
  | some z =>
    cases he : r.execute p z with
    | error fault => simp [after, step, Resolver.touch, hz, he, Except.map, Except.mapError, bind, Except.bind]
    | ok p' =>
      simp [after, step, Resolver.touch, hz, he, Except.map, Except.mapError, bind, Except.bind, pure, Except.pure]

theorem content_execute (p : Panel) (r : Resolver) (z : Zone) :
    contentOf (after p (.execute r z)).slice = (outcomeOf r z).applied (contentOf p.slice) := by
  cases hd : r.destination? z with
  | error fault => simp [after, step, execute_error p hd, outcomeOf, hd, Except.mapError, Outcome.applied]
  | ok found =>
    cases found <;> simp [after, step, execute_ok p hd, outcomeOf, hd, Except.mapError, Outcome.applied, contentOf,
      Resolver.arrived]

theorem frame_execute (p : Panel) (r : Resolver) (z : Zone) :
    frameOf (after p (.execute r z)).slice = frameOf p.slice := by
  cases hd : r.destination? z with
  | error fault => simp [after, step, execute_error p hd, Except.mapError]
  | ok found => cases found <;> simp [after, step, execute_ok p hd, Except.mapError, frameOf, Resolver.arrived]

theorem load_error {o : Outline} {id : Option String} {fault : Panel.Fault} (p : Panel)
    (h : Panel.screenToShow o id = .error fault) : p.load o id = .error fault := by
  simp [Panel.load, h, bind, Except.bind]

/-- a load shows the screen on the panel as the outline has it turned -/
theorem load_ok {o : Outline} {id : Option String} {screen : Option Screen} (p : Panel)
    (h : Panel.screenToShow o id = .ok screen) : ∃ rotation,
      p.load o id = .ok ((screen.map ({ p with rotation } : Panel).showScreen).getD ({ p with rotation } : Panel).clear) := by
  refine ⟨(o.geometry.map Scene.Geometry.rotation).getD p.rotation, ?_⟩
  cases screen <;> simp [Panel.load, h, bind, Except.bind, pure, Except.pure]

theorem setDimensions_ok {p p' : Panel} {width height : Json} (h : p.setDimensions width height = .ok p') :
    p' = { p with slice := { p.slice with width, height } } := by
  unfold Panel.setDimensions at h
  cases hw : Panel.checkedSide width (.badDimensions width height) with
  | error fault => simp [hw, bind, Except.bind] at h
  | ok _ =>
    cases hh : Panel.checkedSide height (.badDimensions width height) with
    | error fault => simp [hw, hh, bind, Except.bind] at h
    | ok _ =>
      simp only [hw, hh, bind, Except.bind, pure, Except.pure, Except.ok.injEq] at h
      exact h.symm

theorem setRotation_ok {p p' : Panel} {rotation : Json} (h : p.setRotation rotation = .ok p') :
    p' = { p with rotation } := by
  unfold Panel.setRotation at h
  split_ifs at h
  exact (Except.ok.inj h).symm

/-- **One operation.** The content of the slice changes as a whole and exactly as the outcome says. -/
theorem content_after (p : Panel) (op : Op) :
    contentOf (after p op).slice = (outcome p op).applied (contentOf p.slice) := by
  cases op with
  | load o id =>
    cases hs : Panel.screenToShow o id with
    | error fault => simp [after, step, load_error p hs, outcome, hs, Outcome.applied]
    | ok screen =>
      obtain ⟨rotation, hl⟩ := load_ok p hs
      simp only [after, step, hl, outcome, hs]
      cases screen <;> rfl
  | showScreen screen => rfl
  | touch r x y zones =>
    rw [after_touch]
    cases hz : (Resolver.touched p x y zones).zone with
    | none => simp [outcome, hz, Outcome.applied]
    | some z => simpa [outcome, hz] using content_execute p r z
  | execute r z => exact content_execute p r z
  | setDebug debug => rfl
  | setDimensions width height =>
    simp only [after, step]
    split
    · rename_i p' h
      rw [setDimensions_ok h]; rfl
    · rfl
  | setRotation rotation =>
    simp only [after, step]
    split
    · rename_i p' h
      rw [setRotation_ok h]; rfl
    · rfl
  | clear => rfl

/-- loads, showings, touches and clearings leave size and debug mode alone -/
theorem frame_after (p : Panel) (op : Op) (h : op.isContent = true) : frameOf (after p op).slice = frameOf p.slice := by
  cases op with
  | load o id =>
    cases hs : Panel.screenToShow o id with
    | error fault => simp [after, step, load_error p hs]
    | ok screen =>
      obtain ⟨rotation, hl⟩ := load_ok p hs
      simp only [after, step, hl]
      cases screen <;> rfl
  | showScreen screen => rfl
  | touch r x y zones =>
    rw [after_touch]
    cases (Resolver.touched p x y zones).zone with
    | none => rfl
    | some z => exact frame_execute p r z
  | execute r z => exact frame_execute p r z
  | clear => rfl
  | _ => simp [Op.isContent] at h

theorem destination_mem {r : Resolver} {z : Zone} {screen : Screen} (h : r.destination? z = .ok (some screen)) :
    screen ∈ r.screens := by
  unfold Resolver.destination? Screen.find? at h
  split at h
  · rename_i found hn
    rw [← Option.some.inj (Except.ok.inj h)]
    exact List.mem_of_find?_eq_some hn
  · unfold Screen.drawnBy? at h
    cases hf : drawFunctionName z.wanted r.drawPrefix with
    | error fault => simp [hf, bind, Except.bind] at h
    | ok name =>
      simp only [hf, bind, Except.bind, pure, Except.pure, Except.ok.injEq] at h
      exact List.mem_of_find?_eq_some h

theorem outcomeOf_shows {r : Resolver} {z : Zone} {screen : Screen} (h : outcomeOf r z = .shows (some screen)) :
    screen ∈ r.screens := by
  unfold outcomeOf at h
  split at h
  · rename_i found hd
    rw [← Option.some.inj (Outcome.shows.inj h)]
    exact destination_mem hd
  · cases h
  · cases h

theorem screenToShow_mem {o : Outline} {id : Option String} {screen : Screen}
    (h : Panel.screenToShow o id = .ok (some screen)) : screen ∈ o.screens := by
  cases id with
  | none => exact List.mem_of_head? (Except.ok.inj h)
  | some id =>
    simp only [Panel.screenToShow] at h
    split at h
    · rename_i found hf
      rw [← Option.some.inj (Except.ok.inj h)]
      exact List.mem_of_find?_eq_some hf
    · cases h

/-- what is shown was given to the operation that shows it -/
theorem gives_of_shows {p : Panel} {op : Op} {screen : Screen} (h : outcome p op = .shows (some screen)) :
    op.Gives screen := by
  cases op with
  | load o id =>
    simp only [outcome] at h
    split at h
    · rename_i found hs
      rw [Outcome.shows.inj h] at hs
      exact screenToShow_mem hs
    · cases h
  | showScreen given => exact Option.some.inj (Outcome.shows.inj h)
  | touch r x y zones =>
    simp only [outcome] at h
    split at h
    · exact outcomeOf_shows h
    · cases h
  | execute r z => exact outcomeOf_shows h
  | _ => cases h

/-! ## Whole histories -/

/-- `shown` is what the last operation of a history put on the panel; a history without operations put nothing there -/
def EndsShowing (p : Panel) (ops : List Op) (shown : Option Screen) : Prop :=
  ops = [] ∧ shown = none ∨ ∃ earlier op, ops = earlier ++ [op] ∧ outcome (run p earlier) op = .shows shown

theorem EndsShowing.given {p : Panel} {ops : List Op} {screen : Screen} (h : EndsShowing p ops (some screen)) :
    ∃ op ∈ ops, op.Gives screen := by
  rcases h with ⟨-, h⟩ | ⟨earlier, op, rfl, h⟩
  · cases h
  · exact ⟨op, by simp, gives_of_shows h⟩

/-- the name that a screen has on the panel after outcomes that show no other -/
def nameAfter (shown : Option Screen) (since : List Outcome) : String :=
  ((since.filterMap Outcome.target?).getLast?).getD (shown.getD blank).id

/-- an outcome that shows nothing new only counts for the name -/
theorem applied_of_not_show {shown : Option Screen} {elements : List Element} {zones : List Zone}
    (since : List Outcome) {o : Outcome} (h : o.isShow = false) :
    o.applied ⟨elements, zones, nameAfter shown since⟩ = ⟨elements, zones, nameAfter shown (since ++ [o])⟩ := by
  cases o with
  | shows screen => cases h
  | renames target => simp [Outcome.applied, nameAfter, Outcome.target?]
  | keeps => simp [Outcome.applied, nameAfter, Outcome.target?]

/-- the content of a panel that first showed nothing, by the last operation that showed something and those since -/
theorem run_content (p : Panel) (h : contentOf p.slice = ⟨[], [], ""⟩) (ops : List Op) :
    ∃ (shown : Option Screen) (upTo since : List Op), ops = upTo ++ since ∧ EndsShowing p upTo shown ∧
      (∀ o ∈ outcomes (run p upTo) since, o.isShow = false) ∧
      contentOf (run p ops).slice = ⟨(shown.getD blank).elements, (shown.getD blank).zones,
        nameAfter shown (outcomes (run p upTo) since)⟩ := by
  induction ops using List.reverseRecOn with
  | nil => exact ⟨none, [], [], rfl, Or.inl ⟨rfl, rfl⟩, by simp [outcomes], h⟩
  | append_singleton ops op ih =>
    obtain ⟨shown, upTo, since, rfl, hends, hsince, hc⟩ := ih
    have hrun : run (run p upTo) since = run p (upTo ++ since) := by simp [run, List.foldl_append]
    have hstep := content_after (run p (upTo ++ since)) op
    rw [hc] at hstep
    rw [run_snoc]
    cases ho : (outcome (run p (upTo ++ since)) op).isShow with
    | true =>
      obtain ⟨screen, hs⟩ := shows_of_isShow ho
      refine ⟨screen, upTo ++ since ++ [op], [], by simp, Or.inr ⟨_, op, rfl, hs⟩, by simp [outcomes], ?_⟩
      rw [hstep, hs]; rfl
    | false =>
      refine ⟨shown, upTo, since ++ [op], by simp, hends, ?_, ?_⟩
      · rw [outcomes_snoc, hrun]
        intro o hmem
        rcases List.mem_append.1 hmem with hmem | hmem
        · exact hsince o hmem
        · rw [List.mem_singleton.1 hmem]; exact ho
      · rw [hstep, applied_of_not_show _ ho, outcomes_snoc, hrun]

/-- **One screen at a time.** From a new panel, any history of operations, refused ones included, splits into the part
up to the last operation that showed something and the part since. Elements and zones are those of the one screen it
showed, which some operation was given, or there are none. The name is the id of that screen, or the target of the
last touch since that matched no screen. No load, showing, touch or clearing on the way changed size or debug mode. -/
theorem run_one_screen (width height rotation debug : Json) (ops : List Op) :
    let start := Panel.new width height rotation debug
    let slice := (run start ops).slice
    ∃ (shown : Option Screen) (upTo since : List Op), ops = upTo ++ since ∧ EndsShowing start upTo shown ∧
      (∀ screen, shown = some screen → ∃ op ∈ ops, op.Gives screen) ∧
      (∀ o ∈ outcomes (run start upTo) since, o.isShow = false) ∧
      slice.elements = (shown.getD blank).elements ∧ slice.zones = (shown.getD blank).zones ∧
      slice.current = nameAfter shown (outcomes (run start upTo) since) ∧
      ∀ earlier op later, ops = earlier ++ op :: later → op.isContent = true →
        frameOf (run start (earlier ++ [op])).slice = frameOf (run start earlier).slice := by
  intro start slice
  obtain ⟨shown, upTo, since, hops, hends, hsince, hc⟩ := run_content start rfl ops
  have he : slice.elements = _ := congrArg Content.elements hc
  have hz : slice.zones = _ := congrArg Content.zones hc
  have hn : slice.current = _ := congrArg Content.current hc
  refine ⟨shown, upTo, since, hops, hends, ?_, hsince, he, hz, hn, ?_⟩
  · rintro screen rfl
    obtain ⟨op, hop, hg⟩ := hends.given
    exact ⟨op, hops ▸ List.mem_append_left since hop, hg⟩
  · intro earlier op later _ hop
    rw [run_snoc]
    exact frame_after _ op hop

/-- the name does come apart from what is shown, at a touch that matches no screen -/
example :
    let home : Screen := { id := "drawHome", name := "drawHome", zones := [⟨"touch_3", 0, 0, 9, 9, "AWAY", none, true, none⟩] }
    let slice := (run (.new .null .null .null .null) [.showScreen home, .touch ⟨[home], .str "draw"⟩ 5 5 none]).slice
    slice.zones = home.zones ∧ slice.current = "AWAY" := by
  decide +kernel

end SketchPanel.PanelRun

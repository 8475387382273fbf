/-
Two ways to a screen. A showing takes the colour behind a screen from the screen; a touch looks for the first full-screen
fill, and without one leaves the colour that was there. So the two leave the same slice exactly if the screen has such a
fill, or black was behind the panel anyway; and with distinct ids a showing finds the very screen that the touch leads to.

Results:
- `firstFill?_isSome_iff`: on the screens of an outline, every full-screen fill has a colour.
- `arrived_eq_showing_iff`: when a touch and a showing leave the same slice.
- `touch_ends_like_showing`: for the sketch that a simulator has loaded, after any showings and touches.
Witness:
- `back_home_either_way`: by touches to another screen, and back to the first.
-/
import Mathlib.Tactic
import SketchPanel.Proofs.ScreenOrder
import SketchPanel.Proofs.SimulatorRun

namespace SketchPanel.SimulatorRun

open Number Sketch

/-! ## The colour behind a screen -/

/-- on the screens of an outline, every full-screen fill has a colour -/
theorem firstFill?_isSome_iff {o : Options} {source : String} {screen : Screen}
    (hs : screen ∈ (extract o source).1.screens) :
    (Element.firstFill? screen.elements).isSome = true ↔ ∃ e ∈ screen.elements, e.isBackground = true := by
  obtain ⟨id, name, count, first, number, inside, hinside, rfl⟩ := extract_readOff hs
  have heach : ∀ e ∈ inside.1, ∃ fill, Formed o fill e := fun e he =>
    (exists_of_sublistForall₂ (elementsOf_drawnWell (contents_elements hinside)) e he).imp' CallsFillScreen
      fun statement h => h.2.2
  show (Element.firstFill? inside.1).isSome = true ↔ ∃ e ∈ inside.1, e.isBackground = true
  rw [firstFill?_formed heach]
  cases hfind : inside.1.find? Element.isBackground with
  | none => simpa using hfind
  | some e =>
    have hmem := List.mem_of_find?_eq_some hfind
    have hbackground := List.find?_some hfind
    obtain ⟨fill, he⟩ := heach e hmem
    obtain ⟨colour, -, hcolour⟩ := (he.filled.1 (isBackground_iff.1 hbackground)).2.colour
    exact iff_of_true (by simp [hcolour]) ⟨e, hmem, hbackground⟩

/-- A touch and a showing leave the same slice exactly if there is a fill, or black was there before. -/
theorem arrived_eq_showing_iff {screen : Screen} (slice : Slice) (wanted : String)
    (hb : screen.background = (Element.firstFill? screen.elements).getD Colour.black) :
    Resolver.arrived slice wanted (some screen) = slice.showing screen ↔
      (Element.firstFill? screen.elements).isSome = true ∨ slice.background = Colour.black := by
  have hsame : Resolver.arrived slice wanted (some screen) = slice.showing screen ↔
      (Element.firstFill? screen.elements).getD slice.background = screen.background := by
    simp [Resolver.arrived, Slice.showing]
  rw [hsame, hb]
  cases Element.firstFill? screen.elements <;> simp

/-- the screens of an outline have the colour of their first full-screen fill behind them, or black -/
theorem background_readOff {o : Options} {source : String} {screen : Screen}
    (hs : screen ∈ (extract o source).1.screens) :
    screen.background = (Element.firstFill? screen.elements).getD Colour.black := by
  obtain ⟨id, name, count, first, number, inside, -, rfl⟩ := extract_readOff hs
  rfl

/-! ## Histories without another load -/

/-- an outline without errors can be shown -/
theorem isRenderable_of_no_errors {o : Options} {source : String} (h : (extract o source).1.hasErrors = false) :
    (extract o source).1.isRenderable = true := by
  obtain ⟨draws, hdraws, -⟩ := read_of_no_errors h
  have hshown := shown_of_screenIds (outline_ids h hdraws)
  simp [Outline.isRenderable, h, hshown]

theorem lastSource?_unloaded {calls : List Call} (h : ∀ call ∈ calls, call.source? = none) : lastSource? calls = none := by
  rw [lastSource?, List.filterMap_eq_nil_iff.2 h]
  rfl

/-- a touch on a zone whose screen can be told shows that screen -/
theorem touch_arrives {r : Resolver} {p : Panel} {x y : Scalar} {z : Zone} {screen : Screen}
    (hhit : (Resolver.touched p x y none).zone = some z) (hz : r.destination? z = .ok (some screen)) :
    r.touch p x y none =
      .ok (Resolver.touched p x y none, { p with slice := Resolver.arrived p.slice z.wanted (some screen) }) := by
  simp [Resolver.touch, hhit, PanelRun.execute_ok p hz, bind, Except.bind, pure, Except.pure]

section Arrivals

variable {start now : Simulator} {source : String} {screen : Screen} {x y : Scalar} {z : Zone}

/-- a screen that can be touched can be shown, and the two slices are the same exactly if the screen has a full-screen fill or
black was there before -/
theorem touch_showing_iff (h : Loaded start (some source) now) (hread : (outlineOf start source).hasErrors = false)
    (hs : screen ∈ (outlineOf start source).screens) (hhit : (Resolver.touched now.panel x y none).zone = some z)
    (hz : Screen.find? z.wanted (outlineOf start source).screens start.options.drawPrefix = .ok (some screen)) :
    ∃ hit touched shown, now.touch x y = .ok (hit, touched) ∧ now.showScreen (some screen.id) = .ok shown ∧
      (touched.panel.slice = shown.panel.slice ↔
        (∃ e ∈ screen.elements, e.isBackground = true) ∨ now.panel.slice.background = Colour.black) := by
  have hr := isRenderable_of_no_errors hread
  have hshown : now.renderable = .ok (outlineOf start source) := renderable_eq_ok_iff.2 ⟨h.outline, hr⟩
  have htouch := touch_eq hshown (h.resolver_of_renderable h.outline hr) x y
  rw [touch_arrives (r := ⟨(outlineOf start source).screens, start.options.drawPrefix⟩) hhit hz] at htouch
  have hfound : Panel.screenToShow (outlineOf start source) (some screen.id) = .ok (some screen) := by
    have hown : (outlineOf start source).screen? screen.id = some screen := find?_of_nodup (outline_distinct hread) hs
    rw [Panel.screenToShow, hown]
  obtain ⟨rotation, hload⟩ := PanelRun.load_ok now.panel hfound
  have hshow : now.showScreen (some screen.id) = .ok { now with
      panel := ({ now.panel with rotation } : Panel).showScreen screen } := by
    simp [Simulator.showScreen, hshown, hload, bind, Except.bind, pure, Except.pure]
  refine ⟨_, _, _, htouch, hshow, ?_⟩
  rw [← firstFill?_isSome_iff hs]
  exact arrived_eq_showing_iff now.panel.slice z.wanted (background_readOff hs)

end Arrivals

/-- **Two ways to a screen.** On a simulator that has loaded a sketch without errors, after any history of touches and
showings, refused ones included, a touch that leads to a screen with a full-screen fill leaves the very slice that showing
the screen by its id would leave. -/
theorem touch_ends_like_showing (s : Simulator) (source : String) (id : Option String)
    (hread : (outlineOf s source).hasErrors = false) (calls : List Call)
    (hcalls : ∀ call ∈ calls, call.source? = none) {screen : Screen} (hs : screen ∈ (outlineOf s source).screens)
    (hfill : ∃ e ∈ screen.elements, e.isBackground = true) {x y : Scalar} {z : Zone}
    (hhit : (Resolver.touched (run (after s (.load source id)) calls).panel x y none).zone = some z)
    (hz : Screen.find? z.wanted (outlineOf s source).screens s.options.drawPrefix = .ok (some screen)) :
    let now := run (after s (.load source id)) calls
    ∃ hit touched shown, now.touch x y = .ok (hit, touched) ∧ now.showScreen (some screen.id) = .ok shown ∧
      touched.panel.slice = shown.panel.slice := by
  intro now
  have hloaded : Loaded s (some source) now := by
    have hrun := (Loaded.load (rfl : s.options = s.options) source id).run calls
    rwa [lastSource?_unloaded hcalls, Option.none_or] at hrun
  obtain ⟨hit, touched, shown, htouch, hshow, hsame⟩ := touch_showing_iff hloaded hread hs hhit hz
  exact ⟨hit, touched, shown, htouch, hshow, hsame.2 (Or.inl hfill)⟩

/-- a home screen with a zone that leads to a pad, and a pad with one that leads back -/
def homeAndPad : String :=
  "void drawHome() \x7b\n tft.fillScreen(1);\n if (x>=0 && x<=9 && y>=0 && y<=9) state = PAD;\n\x7d\n"
    ++ "void drawPad() \x7b\n tft.fillScreen(2);\n if (x>=0 && x<=9 && y>=0 && y<=9) state = HOME;\n\x7d"

/-- a touch that leads to the pad, and a showing that is refused -/
def awayFromHome : List Call := [.touch (.whole 5) (.whole 5), .showScreen (some "drawNowhere")]

/-- back from the pad, the home screen is the same by touch and by id -/
theorem back_home_either_way :
    let now := run (after fresh (.load homeAndPad none)) awayFromHome
    (outlineOf fresh homeAndPad).hasErrors = false ∧ now.panel.slice.current = "drawPad" ∧
      ∃ z screen hit touched shown, (Resolver.touched now.panel (.whole 5) (.whole 5) none).zone = some z ∧
        Screen.find? z.wanted (outlineOf fresh homeAndPad).screens fresh.options.drawPrefix = .ok (some screen) ∧
        now.touch (.whole 5) (.whole 5) = .ok (hit, touched) ∧ now.showScreen (some "drawHome") = .ok shown ∧
        touched.panel.slice = shown.panel.slice := by
  intro now
  have hfacts : (outlineOf fresh homeAndPad).hasErrors = false ∧ now.panel.slice.current = "drawPad" ∧
      (Resolver.touched now.panel (.whole 5) (.whole 5) none).zone.map Zone.wanted = some "home" ∧
      ((Screen.find? "home" (outlineOf fresh homeAndPad).screens fresh.options.drawPrefix).toOption.join.map fun s =>
        (s.id, s.elements.any Element.isBackground)) = some ("drawHome", true) := by
    decide +kernel
  obtain ⟨hread, hcurrent, hwanted, hfound⟩ := hfacts
  obtain ⟨z, hhit, hz⟩ := Option.map_eq_some_iff.1 hwanted
  cases hfind : Screen.find? "home" (outlineOf fresh homeAndPad).screens fresh.options.drawPrefix with
  | error fault => rw [hfind] at hfound; cases hfound
  | ok found =>
    rw [hfind] at hfound
    obtain ⟨screen, hscreen, hseen⟩ := Option.map_eq_some_iff.1 hfound
    obtain rfl : found = some screen := hscreen
    obtain ⟨hid, hfill⟩ := Prod.mk.inj hseen
    have hs : screen ∈ (outlineOf fresh homeAndPad).screens :=
      PanelRun.destination_mem (r := ⟨_, fresh.options.drawPrefix⟩) (z := z) (by rw [Resolver.destination?, hz, hfind])
    have hwhere : Screen.find? z.wanted (outlineOf fresh homeAndPad).screens fresh.options.drawPrefix =
        .ok (some screen) := by
      rw [hz, hfind]
    obtain ⟨hit, touched, shown, htouch, hshow, hsame⟩ := touch_ends_like_showing fresh homeAndPad none hread awayFromHome
      (by simp [awayFromHome, Call.source?]) hs (List.any_eq_true.1 hfill) hhit hwhere
    rw [hid] at hshow
    exact ⟨hread, hcurrent, z, screen, hit, touched, shown, hhit, hwhere, htouch, hshow, hsame⟩

end SketchPanel.SimulatorRun

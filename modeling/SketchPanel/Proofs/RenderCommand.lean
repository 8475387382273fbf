/-
The command that draws. Its steps take place in a world of files: the sketch is read, then the calls of the request are
made, and only when there is a frame are a folder made and a text written. Nothing on the way but errors in the sketch and
a screen that is not there keeps the frame from being there, so the file is written exactly if the code is nought.

Results:
- `Ends.bind_ok`, `Ends.bind_error`: steps in turn, their answers and the world they leave.
- `saveFrame_markup`: a saved frame is one text, the markup of what the simulator shows.
- `render_errors`, `render_missing`, `render_shown`: the three ways in which the command ends.
- `render_run`: code, file and content of a whole run, for any files.
Witness:
- `touched_frame`: a request with a screen, a touch and the debug mode, in a folder held in memory.
-/
import Mathlib.Tactic
import SketchPanel.Files.Folder
import SketchPanel.Proofs.MarkupFrame
import SketchPanel.Proofs.RenderCalls

namespace SketchPanel.CommandLine

open Number SimulatorRun

/-! ## Steps in a world -/

/-- whether steps that are taken in a world end with an answer or a fault, and leave another world -/
def Ends {σ ν ε α : Type} (x : TracedT (StateM σ) ν ε α) (w : σ) (result : Except ε α) (w' : σ) : Prop :=
  ∃ notes, x.run.run w = (⟨notes, result⟩, w')

theorem pure_run {σ α : Type} (a : α) (w : σ) : (Pure.pure a : StateM σ α) w = (a, w) := rfl

section Worlds

variable {σ ν ε ε' α β : Type} {x : TracedT (StateM σ) ν ε α} {f : α → TracedT (StateM σ) ν ε β} {w w' w'' : σ}
  {a : α} {e : ε} {result : Except ε β}

theorem Ends.bind_ok (hx : Ends x w (.ok a) w') (hf : Ends (f a) w' result w'') : Ends (x >>= f) w result w'' := by
  obtain ⟨notes, hx⟩ := hx
  obtain ⟨more, hf⟩ := hf
  refine ⟨notes ++ more, ?_⟩
  simp only [TracedT.run, StateT.run] at hx hf
  simp only [TracedT.run, bind, StateT.run, StateT.bind, hx, hf]
  rfl

theorem Ends.bind_error (hx : Ends x w (.error e) w') : Ends (x >>= f) w (.error e) w' := by
  obtain ⟨notes, hx⟩ := hx
  refine ⟨notes, ?_⟩
  simp only [TracedT.run, StateT.run] at hx
  simp only [TracedT.run, bind, StateT.run, StateT.bind, hx]
  rfl

/-- what only tells and answers leaves the world as it is -/
theorem Ends.still {x : Traced ν ε α} {told : Except ε α} (h : x.result = told) :
    Ends (TracedT.still x : TracedT (StateM σ) ν ε α) w told w := by
  subst h
  exact ⟨x.notes, rfl⟩

theorem Ends.pure (a : α) (w : σ) : Ends (Pure.pure a : TracedT (StateM σ) ν ε α) w (.ok a) w := ⟨[], rfl⟩

theorem Ends.ofTraced {fault : ε → ε'} {x : StateM σ (Traced ν ε α)} {done : Traced ν ε α}
    (hx : x.run w = (done, w')) : Ends (TracedT.ofTraced fault x) w (done.result.mapError fault) w' := by
  refine ⟨done.notes.map id, ?_⟩
  simp only [StateT.run] at hx
  simp only [TracedT.ofTraced, TracedT.run, bind, StateT.run, StateT.bind, hx]
  rfl

end Worlds

/-! ## Usual requests -/

section Command

variable {σ : Type} {files : Files (StateM σ)} {r : FrameRequest} {source level : String} {w w' w₁ : σ}

/-- with the default settings and size, the simulator is a fresh one -/
theorem new_fresh (level : String) : Simulator.new (Settings.defaults level) none none = .ok fresh := rfl

theorem loaded_fresh (h : (outlineOf fresh source).hasErrors = false) :
    Shown (SimulatorRun.after fresh (.load source none)) (outlineOf fresh source) := Shown.load rfl h

variable {common : Common} {outside : Option String}

/-- whether nothing is said of settings and log but how much to log and in which form, and what is said makes a log -/
structure Usual (common : Common) (outside : Option String) : Prop where
  config : common.config = none
  logFile : common.logFile = none
  setup : ∃ setup, logSetup common (Settings.defaults (outside.getD "INFO")) outside = .ok setup

/-- nothing else is needed where no level is named from outside -/
theorem usual_inside (hconfig : common.config = none) (hlogFile : common.logFile = none) : Usual common none where
  config := hconfig
  logFile := hlogFile
  setup := by
    have hnone : given common.logFile = none := by
      rw [hlogFile]
      rfl
    simp only [logSetup, hnone, verboseLevel]
    cases common.verbose <;> exact ⟨_, rfl⟩

/-- a log to which no file is given goes to the console alone -/
theorem outlets_console {setup : Log.Setup} (hfile : common.logFile = none)
    (h : logSetup common (Settings.defaults level) outside = .ok setup) : setup.outlets = [.console] := by
  have hnone : (given common.logFile).getD (.ofOption ((Settings.defaults level).get? "log_file")) = .null := by
    rw [hfile]
    rfl
  have hconsole : Log.fileOf .null = .ok none := rfl
  simp only [logSetup, hnone, Log.setup, hconsole, bind, Except.bind] at h
  generalize Log.levelOf _ outside = found at h
  cases found with
  | ok level =>
    cases h
    rfl
  | error fault => cases fault <;> cases h

/-- the code of a report -/
def codeOf : Except Failure (Nat × String) → Nat
  | .ok (code, _) => code
  | .error _ => failed

theorem report_code (command : String) (steps : Traced Log.Record Failure (Nat × String)) :
    (report command steps).code = codeOf steps.result := by
  rw [report]
  cases steps.result <;> rfl

/-! ## The command -/

/-- whether files serve a request: its sketch can be read, the folder of its frame can be made, and then a text can be
written there; the worlds are those before and after the reading, and after the folder is made -/
structure Served (files : Files (StateM σ)) (r : FrameRequest) (source : String) (w w' w₁ : σ) : Prop where
  sketch : Ends (readSketch files r.sketch) w (.ok source) w'
  folder : (files.makeFolders r.path.parent).run w' = (.ok (), w₁)
  frame : ∀ text, ((files.write r.path.text (.text text)).run w₁).1 = .ok ()

/-- a frame in markup is saved as its markup -/
theorem save_markup {surface : Surface} {marks : List Surface.Mark} {svg : String} {path : Files.Path} {w₂ : σ}
    (hsheet : surface.sheet = .vector marks) (hsvg : surface.markup? = some svg)
    (hending : Surface.asksForMarkup path = true) (hfolder : (files.makeFolders path.parent).run w = (.ok (), w₁))
    (hwrite : (files.write path.text (.text svg)).run w₁ = (.ok (), w₂)) :
    (surface.save files path).run w = (.ok (), w₂) := by
  have hcontent : surface.contentFor path = .ok (.text svg) := by
    simp only [Surface.markup?, hsheet, Option.some.injEq] at hsvg
    simp only [Surface.contentFor, hsheet, if_pos hending, hsvg]
  simp only [StateT.run] at hfolder hwrite
  simp only [Surface.save, bind, StateT.run, StateT.bind, hfolder, hcontent, hwrite]
  rfl

variable [Imaging.Metrics]

/-- **A saved frame.** The file holds the markup of the frame that the simulator shows. -/
theorem saveFrame_markup {s : Simulator} {o : Outline} {h v : Int} (hr : r.ForMarkup) (hs : Shown s o)
    (hwidth : s.panel.slice.width = .int h) (hheight : s.panel.slice.height = .int v) (hh : 0 < h) (hv : 0 < v)
    (hhn : (ofWhole? h).isSome = true) (hvn : (ofWhole? v).isSome = true)
    (hfolder : (files.makeFolders r.path.parent).run w' = (.ok (), w₁))
    (hwrite : ∀ text, ((files.write r.path.text (.text text)).run w₁).1 = .ok ()) :
    ∃ svg notes, frameMarkup? s = some svg ∧
      (s.saveFrame files r.path (r.request.format.map Json.plain)).run w' =
        (⟨notes, .ok ()⟩, ((files.write r.path.text (.text svg)).run w₁).2) := by
  obtain ⟨surface, marks, hframed, hsheet, hmarkup⟩ := frame_markup hs.answers hwidth hheight hh hv hhn hvn
  obtain ⟨svg, hsvg⟩ : ∃ svg, surface.markup? = some svg := by
    rw [Surface.markup?, hsheet]
    exact ⟨_, rfl⟩
  have hformat : (r.request.format.map Json.plain).getD (Simulator.formatFor r.path) = "svg" := by
    simp only [FrameRequest.request]
    cases hname : r.format with
    | none => rw [Option.map_none, Option.map_none, Option.getD_none, Simulator.formatFor, if_pos hr.ending]
    | some name =>
      rw [hr.format name hname, Option.map_some, Option.map_some, Option.getD_some]
      rfl
  have hsaved := save_markup hsheet hsvg hr.ending hfolder (Prod.ext (hwrite svg) rfl)
  refine ⟨svg, (s.framed "svg").notes ++ [surface.savedNote r.path], hmarkup.trans hsvg, ?_⟩
  simp only [StateT.run] at hsaved
  simp only [Simulator.saveFrame, hformat, hframed, bind, StateT.run, StateT.bind, hsaved]
  rfl

/-- the last steps of the command, for the simulator that is drawn, if there is one -/
def finish (files : Files (StateM σ)) (r : RenderRequest) : Option Simulator → Steps (StateM σ) (Nat × String)
  | none => return (sketchErrors, "")
  | some s => do
    let path ← pathOf r.output
    TracedT.ofTraced .frame (s.saveFrame files path (r.format.map Json.plain))
    TracedT.still (.tell (note Log.info ("Rendered " ++ s.panel.slice.current ++ " to " ++ path.text)))
    return (done, "")

theorem render_eq (files : Files (StateM σ)) (settings : Settings) (r : RenderRequest) :
    render files settings r = (do
      let s ← simulator settings r.width r.height
      let source ← readSketch files r.sketch
      finish files r (← TracedT.still (prepared s r source))) := by
  unfold render finish
  rfl

/-- the first steps make a fresh simulator and read the sketch -/
theorem render_begins {result : Except Failure (Nat × String)} {w'' : σ} (hserved : Served files r source w w' w₁)
    (hrest : Ends (do finish files r.request (← TracedT.still (prepared fresh r.request source))) w' result w'') :
    Ends (render files (Settings.defaults level) r.request) w result w'' := by
  have hstart : Ends (simulator (Settings.defaults level) none none : Steps (StateM σ) Simulator) w (.ok fresh) w := by
    rw [simulator, new_fresh]
    exact Ends.still rfl
  rw [render_eq]
  exact hstart.bind_ok (hserved.sketch.bind_ok hrest)

/-- of a sketch with errors nothing is drawn, made or written -/
theorem render_errors (hserved : Served files r source w w' w₁) (h : (outlineOf fresh source).hasErrors = true) :
    Ends (render files (Settings.defaults level) r.request) w (.ok (sketchErrors, "")) w' := by
  have hprepared : Ends (TracedT.still (prepared fresh r.request source) : Steps (StateM σ) _) w' (.ok none) w' :=
    Ends.still (prepared_errors h)
  exact render_begins hserved (hprepared.bind_ok (Ends.pure _ _))

/-- neither is it if the screen that is asked for is not there -/
theorem render_missing (hserved : Served files r source w w' w₁) (hr : r.ForMarkup)
    (h : (outlineOf fresh source).hasErrors = false) (hmisses : r.Misses (outlineOf fresh source)) :
    ∃ failure, Ends (render files (Settings.defaults level) r.request) w (.error failure) w' := by
  obtain ⟨failure, hfailed⟩ := prepared_missing hr h (loaded_fresh h) hmisses
  have hprepared : Ends (TracedT.still (prepared fresh r.request source) : Steps (StateM σ) _) w' (.error failure) w' :=
    Ends.still hfailed
  exact ⟨failure, render_begins hserved hprepared.bind_error⟩

/-- otherwise the frame is there, and it is written -/
theorem render_shown (hserved : Served files r source w w' w₁) (hr : r.ForMarkup)
    (h : (outlineOf fresh source).hasErrors = false) (hmisses : ¬ r.Misses (outlineOf fresh source)) :
    ∃ svg, frameMarkup? (SimulatorRun.run fresh (r.calls source)) = some svg ∧
      Ends (render files (Settings.defaults level) r.request) w (.ok (done, ""))
        ((files.write r.path.text (.text svg)).run w₁).2 := by
  have hloaded := loaded_fresh h
  have hs := hloaded.calls r
  obtain ⟨hwidth, hheight⟩ := size_run fresh (r.calls source)
  obtain ⟨svg, notes, hsvg, hsaved⟩ := saveFrame_markup (h := 380) (v := 420) hr hs hwidth hheight (by decide) (by decide)
    rfl rfl hserved.folder hserved.frame
  refine ⟨svg, hsvg, render_begins hserved ?_⟩
  have hprepared : Ends (TracedT.still (prepared fresh r.request source) : Steps (StateM σ) _) w'
      (.ok (some (SimulatorRun.run fresh (r.calls source)))) w' := Ends.still (prepared_shown hr h hloaded hmisses)
  have hpath : Ends (pathOf r.request.output : Steps (StateM σ) _) w' (.ok r.path) w' := Ends.still rfl
  have hframe : Ends (TracedT.ofTraced Failure.frame _) w' _ _ := Ends.ofTraced hsaved
  exact hprepared.bind_ok (hpath.bind_ok (hframe.bind_ok ((Ends.still rfl).bind_ok (Ends.pure _ _))))

/-! ## The whole run -/

/-- the run ends as its command does -/
theorem run_ends {request : RenderRequest} {result : Except Failure (Nat × String)} {w'' : σ} (hc : Usual common outside)
    (h : Ends (render files (Settings.defaults (outside.getD "INFO")) request) w result w'') :
    ∃ session, (CommandLine.run files outside ⟨common, .render request⟩).run w = (.ok session, w'') ∧
      session.report.code = codeOf result := by
  obtain ⟨setup, hsetup⟩ := hc.setup
  obtain ⟨notes, h⟩ := h
  have houtlets := outlets_console hc.logFile hsetup
  refine ⟨⟨[], setup, report "render" ⟨notes, result⟩⟩, ?_, report_code _ _⟩
  simp only [TracedT.run, StateT.run] at h
  simp only [CommandLine.run, hc.config, Settings.load, Option.map_none, bind, StateT.run, StateT.bind, pure_run,
    hsetup, houtlets, openLog, perform, TracedT.run, h]

/-- **The command that draws.** With the usual settings and size, for a sketch that can be read and a path for markup that
can be written, the run ends with the code for errors exactly if the outline has some, with the code of a failure exactly if
it has none and does not have the screen that is asked for, and else with nought. Unless the code is nought, nothing is
made or written after the sketch is read. If it is, one text is written at the path: the markup of the frame shown by a
fresh simulator after the load, the screen, the debug mode and the touches that are asked for, in this order. -/
theorem render_run (hc : Usual common outside) (hr : r.ForMarkup) (hserved : Served files r source w w' w₁) :
    let o := (Sketch.extract Sketch.usual source).1
    ∃ session w'', (CommandLine.run files outside ⟨common, .render r.request⟩).run w = (.ok session, w'') ∧
      (session.report.code = 2 ↔ o.hasErrors = true) ∧
      (session.report.code = 1 ↔ o.hasErrors = false ∧ r.Misses o) ∧
      (session.report.code = 0 ↔ o.hasErrors = false ∧ ¬ r.Misses o) ∧
      (session.report.code ≠ 0 → w'' = w') ∧
      (session.report.code = 0 → ∃ svg, frameMarkup? (SimulatorRun.run fresh (r.calls source)) = some svg ∧
        w'' = ((files.write r.path.text (.text svg)).run w₁).2) := by
  intro o
  by_cases herrors : o.hasErrors = true
  · obtain ⟨session, hrun, hcode⟩ := run_ends hc (render_errors hserved herrors)
    have htwo : session.report.code = 2 := hcode
    refine ⟨session, w', hrun, ?_⟩
    simp [htwo, herrors]
  have hclean : o.hasErrors = false := by simpa using herrors
  by_cases hmisses : r.Misses o
  · obtain ⟨failure, hfailed⟩ := render_missing hserved hr hclean hmisses
    obtain ⟨session, hrun, hcode⟩ := run_ends hc hfailed
    have hone : session.report.code = 1 := hcode
    refine ⟨session, w', hrun, ?_⟩
    simp [hone, hclean, hmisses]
  · obtain ⟨svg, hsvg, hshown⟩ := render_shown hserved hr hclean hmisses
    obtain ⟨session, hrun, hcode⟩ := run_ends hc hshown
    have hnought : session.report.code = 0 := hcode
    refine ⟨session, _, hrun, ?_⟩
    simp [hnought, hclean, hmisses, hsvg]

end Command

attribute [local instance] Imaging.Metrics.halves

/-- a folder with one sketch in it -/
def shelf : Files.Folder := { files := [(["home.ino".toList], .text homeSketch)] }

/-- the same with a folder for frames -/
def shelfMade : Files.Folder := { shelf with folders := [["out".toList]] }

/-- the home screen is touched and drawn with its zones, into a folder that is not there yet -/
def homeFrame : FrameRequest where
  sketch := "home.ino"
  out := "out/home.SVG"
  screen := some "drawHome"
  points := [(5, 5)]
  debug := true

theorem homeFrame_forMarkup : homeFrame.ForMarkup where
  screen := by decide
  format := by simp [homeFrame]
  ending := by decide +kernel

theorem shelf_written (text : String) : (Files.Folder.operations.write homeFrame.path.text (.text text)).run shelfMade =
    (.ok (), shelfMade.put ["out".toList, "home.SVG".toList] (.text text)) := by
  have hroom : shelfMade.room homeFrame.path.text = .ok ["out".toList, "home.SVG".toList] := by decide +kernel
  show Files.Folder.change homeFrame.path.text (fun f => do return f.put (← f.room homeFrame.path.text) (.text text))
    shelfMade = _
  simp only [Files.Folder.change, hroom, bind, Except.bind]
  rfl

theorem homeFrame_served : Served Files.Folder.operations homeFrame homeSketch shelf shelf shelfMade where
  sketch := by
    have htext : shelf.textAt "home.ino" = .ok homeSketch := by decide +kernel
    have heven : String.ofList (Text.evenLineEnds homeSketch.toList) = homeSketch := by decide +kernel
    have hmark : Text.after? sampleMark homeFrame.sketch.toList = none := by decide
    have hread : (Files.Folder.operations.read "home.ino").run shelf = (.ok homeSketch, shelf) := by
      show (Files.Folder.blame "home.ino" (shelf.textAt "home.ino"), shelf) = _
      rw [htext]
      rfl
    refine ⟨[], ?_⟩
    simp only [readSketch, hmark]
    simp only [StateT.run] at hread
    have hpath : homeFrame.sketch = "home.ino" := rfl
    simp only [TracedT.act, Files.readText, TracedT.run, bind, StateT.run, StateT.bind, hpath, hread, pure_run,
      Except.map, heven, Except.mapError]
  folder := by
    have hplace : shelf.locate "out" = .ok ["out".toList] := by decide +kernel
    have hfree : shelf.holds ["out".toList] = false := by decide +kernel
    have hmade : shelf.withFolder "out" = .ok shelfMade := by
      simp only [Files.Folder.withFolder, hplace, hfree, bind, Except.bind]
      rfl
    have hmakes : (Files.Folder.operations.makeFolder "out").run shelf = (.ok (), shelfMade) := by
      show Files.Folder.change "out" (·.withFolder "out") shelf = _
      rw [Files.Folder.change, hmade]
      rfl
    have hparent : homeFrame.path.parent = ⟨[], ["out".toList]⟩ := by decide
    have htext : Files.Path.text ⟨[], ["out".toList]⟩ = "out" := by decide +kernel
    simp only [StateT.run] at hmakes
    simp only [hparent, Files.makeFolders, List.reverse_cons, List.reverse_nil, List.nil_append, Files.makeUpTo, bind,
      StateT.run, StateT.bind, htext, hmakes]
    rfl
  frame := fun text => congrArg Prod.fst (shelf_written text)

theorem touched_frame : ∃ session folder svg,
    (CommandLine.run Files.Folder.operations none ⟨{}, .render homeFrame.request⟩).run shelf = (.ok session, folder) ∧
      session.report.code = 0 ∧ frameMarkup? (SimulatorRun.run fresh (homeFrame.calls homeSketch)) = some svg ∧
      folder.content? ["out".toList, "home.SVG".toList] = some (.text svg) := by
  have husual : Usual {} none := usual_inside rfl rfl
  have hclean : (Sketch.extract Sketch.usual homeSketch).1.hasErrors = false := by decide +kernel
  have hthere : "drawHome" ∈ (Sketch.extract Sketch.usual homeSketch).1.screens.map Screen.id := by decide +kernel
  have hmisses : ¬ homeFrame.Misses (Sketch.extract Sketch.usual homeSketch).1 := by
    rintro ⟨id, hid, hnone⟩
    obtain rfl : "drawHome" = id := Option.some.inj hid
    exact hnone hthere
  obtain ⟨session, folder, hrun, -, -, hcode, -, hwritten⟩ := render_run husual homeFrame_forMarkup homeFrame_served
  have hnought := hcode.2 ⟨hclean, hmisses⟩
  obtain ⟨svg, hsvg, rfl⟩ := hwritten hnought
  refine ⟨session, _, svg, hrun, hnought, hsvg, ?_⟩
  rw [shelf_written]
  exact Files.Folder.content?_put _ _ _

end SketchPanel.CommandLine

/-
How the reading of a sketch ends. With settings of the right kinds either every phase answers, or one is stopped by a
run of digits in the source that is longer than can be read; nothing else stops it. What was found before stays: the
declarations are those that the phases find by themselves, and the findings are the warnings about bodies that nothing
closes, in the order of the screens, as far as the reading came.

Results:
- `neverClosed_iff`: a body is never closed exactly if the depth of its braces stays positive to the end of the file.
- `screensOf_reads`, `screensOf_findings`: the screens of drawing functions, and what is found on the way.
- `screens_reads`, `screens_findings`: the same of the sketch.
- `extract_reads_or_stops`: the outline is whole, or it ends with the one error about a run of digits.
-/
import Mathlib.Tactic
import SketchPanel.Proofs.BodySearch
import SketchPanel.Proofs.LongRuns
import SketchPanel.Proofs.TouchCondition
import SketchPanel.Settings.Basic

namespace SketchPanel.Sketch

open SketchPanel.Text SketchPanel.Number SketchPanel.Scene

/-! ## Elements -/

theorem colourOf_reads (argument : Line) : Reads id argument (fun _ => True) (colourOf argument).result := by
  simp only [colourOf, Traced.result_bind, Traced.result_lift]
  refine (resolution_reads argument).bind fun resolution _ => ?_
  cases resolution <;> trivial

theorem colourOf?_reads {line : Line} {argument : Option Line} (h : ∀ a ∈ argument, a <:+: line) :
    Reads id line (fun _ => True) (colourOf? argument).result := by
  unfold colourOf?
  split
  · simp only [Traced.result_bind]
    exact ((colourOf_reads _).within (h _ rfl)).bind fun _ _ => trivial
  · trivial

theorem element_reads (o : Options) (number : Int) {line : Line} {drawing : Drawing}
    (h : ∀ colour ∈ drawing.colours, colour <:+: line) :
    Reads id line (fun _ => True) (drawing.element o number).result := by
  cases drawing <;> simp only [Drawing.element, Traced.result_bind]
  case fillRoundRect box radius colour stroke =>
    simp only [Drawing.colours, List.forall_mem_cons, Option.mem_toList] at h
    refine ((colourOf_reads colour).within h.1).bind fun _ _ => ?_
    exact (colourOf?_reads h.2).bind fun _ _ => trivial
  case bitmap box colour =>
    simp only [Drawing.colours, Option.mem_toList] at h
    exact (colourOf?_reads h).bind fun _ _ => trivial
  case drawString => trivial
  all_goals exact ((colourOf_reads _).within (h _ (by simp [Drawing.colours]))).bind fun _ _ => trivial

theorem command_reads (o : Options) (statement : Line) (number lineNumber : Int) :
    Reads id statement (fun _ => True) (command o statement number lineNumber).result := by
  simp only [command, Traced.result_bind, Traced.result_lift]
  refine (drawing?_reads statement).bind fun found hfound => ?_
  cases found with
  | none => trivial
  | some drawing =>
    simp only [Traced.result_bind]
    exact (element_reads o number (hfound drawing rfl)).bind fun _ _ => trivial

theorem elementsOf_reads (o : Options) (lineNumber number : Int) {line : Line} {statements : List Line}
    (h : ∀ statement ∈ statements, statement <:+: line) :
    Reads id line (fun _ => True) (elementsOf o lineNumber number statements).result := by
  induction statements generalizing number with
  | nil => trivial
  | cons statement rest ih =>
    rw [List.forall_mem_cons] at h
    simp only [elementsOf, Traced.result_bind]
    refine ((command_reads o statement number lineNumber).within h.1).bind fun _ _ => ?_
    exact (ih (number + 1) h.2).bind fun _ _ => trivial

/-! ## Usable options -/

/-- whether a sketch can be read with the options: texts where texts are asked for, a number of lines that can be counted,
and a rotation -/
structure Options.Usable (o : Options) : Prop where
  drawPrefix : ∃ start, o.drawPrefix = .str start
  apiPrefix : ∃ mark, o.apiPrefix = .str mark
  window : o.actionWindow.whole?.isSome = true
  rotation : o.rotation.isSome = true

theorem calls_reads {o : Options} (ho : o.Usable) (line : Line) :
    Reads .tooLong line (fun found => ∀ statement ∈ found, statement <:+: line) (calls o line) := by
  obtain ⟨mark, hmark⟩ := ho.apiPrefix
  rw [calls, hmark]
  intro statement hs
  exact (statements_within (List.mem_filter.1 hs).1).trans (trim_within line)

theorem zoneOf_reads {o : Options} (ho : o.Usable) (line : Line) (index : Int) (following : List Line) :
    Reads .tooLong line (fun _ => True) (zoneOf o line index following) := by
  refine (touchTest?_reads line).wrapped.bind fun found _ => ?_
  cases found with
  | none => trivial
  | some found =>
    obtain ⟨action, haction⟩ := actionOf_ok ho.window found.2 index following
    simp only [haction]
    trivial

/-! ## Contents of a body -/

theorem contents_reads {o : Options} (ho : o.Usable) {text : Line} (count index : Nat) {lines : List Line}
    (hlines : ∀ line ∈ lines, line <:+: text) (number : Int) :
    Reads .tooLong text (fun _ => True) (contents o count index lines number).result := by
  induction count generalizing index lines number with
  | zero => trivial
  | succ count ih =>
    cases lines with
    | nil => trivial
    | cons line following =>
      rw [List.forall_mem_cons] at hlines
      simp only [contents, Traced.result_bind, Traced.result_lift]
      refine ((calls_reads ho line).within hlines.1).bind fun found hfound => ?_
      refine ((elementsOf_reads o _ number hfound).wrapped.within hlines.1).bind fun _ _ => ?_
      have hrest := ih (index + 1) hlines.2 (number + found.length)
      split
      · simp only [Traced.result_bind, Traced.result_lift]
        have hzone := (zoneOf_reads ho (trim line) index following).within ((trim_within line).trans hlines.1)
        exact hzone.bind fun _ _ => hrest.bind fun _ _ => trivial
      · simp only [Traced.result_bind, Traced.result_pure]
        exact hrest.bind fun _ _ => trivial

/-! ## Bodies that nothing closes -/

/-- whether a body has lines and runs to the end of the file -/
def neverClosed (lines : List Line) (f : Function) : Bool :=
  !(drawnBody lines f).isEmpty && !(drawnBody lines f).closed

/-- whether braces stay open from a depth on: after each of the lines the depth is still positive -/
def StaysOpen (depth : Int) (lines : List Line) : Prop :=
  ∀ n < lines.length, 0 < depth + ((lines.take (n + 1)).map balance).sum

theorem closing_open_iff (depth : Int) (index : Nat) (lines : List Line) :
    (closing depth index lines).2 = false ↔ StaysOpen depth lines := by
  induction lines generalizing depth index with
  | nil => simp [closing, StaysOpen]
  | cons line rest ih =>
    have hcons : StaysOpen depth (line :: rest) ↔
        0 < depth + balance line ∧ StaysOpen (depth + balance line) rest := by
      constructor
      · intro h
        refine ⟨by simpa using h 0 (by simp), fun n hn => ?_⟩
        have := h (n + 1) (by simpa using hn)
        rw [List.take_succ_cons, List.map_cons, List.sum_cons] at this
        omega
      · rintro ⟨hline, hrest⟩ n hn
        cases n with
        | zero => simpa using hline
        | succ n =>
          have := hrest n (by simpa using hn)
          rw [List.take_succ_cons, List.map_cons, List.sum_cons]
          omega
    rw [closing, hcons]
    split_ifs with hle
    · simp; omega
    · rw [ih]
      exact ⟨fun h => ⟨by omega, h⟩, And.right⟩

theorem closing_open_stop {depth : Int} {index : Nat} {lines : List Line} (h : (closing depth index lines).2 = false) :
    (closing depth index lines).1 = index + lines.length := by
  induction lines generalizing depth index with
  | nil => rfl
  | cons line rest ih =>
    rw [closing] at h ⊢
    split_ifs at h ⊢ with hle
    rw [ih h, List.length_cons]
    omega

/-- the body of a function that draws is never closed if and only if it opens, on a line that is not the last, and its
braces stay open on all lines after it -/
theorem neverClosed_iff {o : Options} {lines : List Line} {draws : List Function} {f : Function}
    (hd : drawFunctions o (functionsOf lines) = .ok draws) (hf : f ∈ draws) :
    neverClosed lines f = true ↔ ∃ header i, FirstHeader lines f.name.toList header ∧
      FirstOpening lines f.name.toList header i ∧ i + 1 < lines.length ∧ StaysOpen 1 (lines.drop (i + 1)) := by
  obtain ⟨header, hfirst, hne, hword, hb⟩ := drawnBody_of_draws hd hf
  by_cases h : ∃ i, FirstOpening lines f.name.toList header i
  · obtain ⟨i, hi⟩ := h
    have hiff : neverClosed lines f = true ↔ i + 1 < lines.length ∧ StaysOpen 1 (lines.drop (i + 1)) := by
      rw [neverClosed, hb, body_of_firstOpening hne hword hi, ← closing_open_iff 1 (i + 1)]
      cases hc : (closing 1 (i + 1) (lines.drop (i + 1))).2 with
      | false => simp [Body.isEmpty, closing_open_stop hc]; omega
      | true => simp
    rw [hiff]
    constructor
    · exact fun h => ⟨header, i, hfirst, hi, h⟩
    · rintro ⟨other, j, hother, hj, h⟩
      obtain rfl := hother.unique hfirst
      obtain rfl := hj.unique hi
      exact h
  · constructor
    · rw [neverClosed, hb, body_of_no_opening hne hword (not_exists.1 h)]
      rintro ⟨⟩
    · rintro ⟨other, j, hother, hj, -⟩
      obtain rfl := hother.unique hfirst
      exact absurd ⟨j, hj⟩ h

/-! ## Findings on the way -/

section Findings

variable {α β : Type} {x : Traced Note Fault α} {f : α → Traced Note Fault β}

/-- the findings that a reading leaves behind -/
def findings (x : Traced Note Fault α) : List Diagnostic := x.notes.filterMap Note.finding?

theorem findings_bind_ok {a : α} (h : x.result = .ok a) : findings (x >>= f) = findings x ++ findings (f a) := by
  simp [findings, bind, h]

theorem findings_bind_error {fault : Fault} (h : x.result = .error fault) : findings (x >>= f) = findings x := by
  simp [findings, bind, h]

/-- a log is no finding -/
theorem findings_logged (x : Traced Log.Record Fault α) : findings (x.map .log id) = [] := by
  simp [findings, Traced.map, List.filterMap_eq_nil_iff, Note.finding?]

end Findings

theorem Reads.logged {text : Line} {α : Type} {P : α → Prop} {x : Traced Log.Record Fault α}
    (h : Reads .tooLong text P x.result) : Reads .tooLong text P (x.map Note.log id).result := by
  unfold Traced.map
  cases hx : x.result <;> rw [hx] at h <;> exact h

/-- the elements and zones of the body of a function that draws -/
def bodyContents (o : Options) (lines : List Line) (f : Function) (number : Int) :
    Traced Note Fault (List Element × List Zone) :=
  let b := drawnBody lines f
  (contents o (b.stop - b.first) b.first (lines.drop b.first) number).map .log id

theorem screensOf_cons (o : Options) (lines : List Line) (f : Function) (functions : List Function) (number : Int) :
    ∃ next : Int, screensOf o lines (f :: functions) number =
      (if neverClosed lines f then Traced.tell (.finding (unclosed f)) else pure ()) >>= fun _ =>
        bodyContents o lines f number >>= fun inside => screensOf o lines functions next >>= fun others =>
          pure (screenOf f.name f.name inside.1 inside.2 :: others) := by
  refine ⟨number + callCount o ((drawnBody lines f).stop - (drawnBody lines f).first)
    (lines.drop (drawnBody lines f).first), ?_⟩
  rw [screensOf, neverClosed]
  split <;> rfl

/-- the warnings about bodies that nothing closes, one for each function in turn -/
def unclosedBodies (lines : List Line) (functions : List Function) : List Diagnostic :=
  (functions.filter (neverClosed lines)).map unclosed

theorem bodyContents_reads {o : Options} (ho : o.Usable) {text : Line} {lines : List Line}
    (hlines : ∀ line ∈ lines, line <:+: text) (f : Function) (number : Int) :
    Reads .tooLong text (fun _ => True) (bodyContents o lines f number).result := by
  have hdrop : ∀ line ∈ lines.drop (drawnBody lines f).first, line <:+: text :=
    fun line hl => hlines line (List.mem_of_mem_drop hl)
  exact (contents_reads ho _ _ hdrop number).logged

/-- there is a screen for each function, under its name -/
theorem screensOf_reads {o : Options} (ho : o.Usable) {text : Line} {lines : List Line}
    (hlines : ∀ line ∈ lines, line <:+: text) (functions : List Function) (number : Int) :
    Reads .tooLong text (fun screens => screens.map Screen.id = functions.map Function.name)
      (screensOf o lines functions number).result := by
  induction functions generalizing number with
  | nil => rfl
  | cons f functions ih =>
    obtain ⟨next, hcons⟩ := screensOf_cons o lines f functions number
    rw [hcons]
    simp only [Traced.result_bind, Traced.result_pure]
    refine Reads.bind (P := fun _ => True) (by split <;> trivial) fun _ _ => ?_
    refine (bodyContents_reads ho hlines f number).bind fun inside _ => (ih next).bind fun others hothers => ?_
    show (screenOf f.name f.name inside.1 inside.2 :: others).map Screen.id = _
    rw [List.map_cons, List.map_cons, hothers]
    rfl

/-- every function whose body nothing closes is warned of, as far as the reading comes -/
theorem screensOf_findings (o : Options) (lines : List Line) (functions : List Function) (number : Int) :
    findings (screensOf o lines functions number) <+: unclosedBodies lines functions ∧
      ∀ screens, (screensOf o lines functions number).result = .ok screens →
        findings (screensOf o lines functions number) = unclosedBodies lines functions := by
  induction functions generalizing number with
  | nil => exact ⟨List.prefix_rfl, fun _ _ => rfl⟩
  | cons f functions ih =>
    obtain ⟨next, hcons⟩ := screensOf_cons o lines f functions number
    obtain ⟨hsofar, hall⟩ := ih next
    have hhead : unclosedBodies lines (f :: functions) =
        (if neverClosed lines f then [unclosed f] else []) ++ unclosedBodies lines functions := by
      rw [unclosedBodies, List.filter_cons]
      split <;> rfl
    have hwarned : ∀ rest : Unit → Traced Note Fault (List Screen),
        findings ((if neverClosed lines f then Traced.tell (.finding (unclosed f)) else pure ()) >>= rest) =
          (if neverClosed lines f then [unclosed f] else []) ++ findings (rest ()) := by
      intro rest
      split <;> rfl
    rw [hcons, hwarned, hhead]
    have hquiet : findings (bodyContents o lines f number) = [] := findings_logged _
    cases hin : (bodyContents o lines f number).result with
    | error fault =>
      rw [findings_bind_error hin, hquiet, List.append_nil]
      refine ⟨List.prefix_append _ _, fun screens hok => ?_⟩
      simp only [Traced.result_bind, hin] at hok
      split at hok <;> cases hok
    | ok inside =>
      rw [findings_bind_ok hin, hquiet, List.nil_append]
      cases hothers : (screensOf o lines functions next).result with
      | error fault =>
        rw [findings_bind_error hothers]
        refine ⟨(List.prefix_append_right_inj _).2 hsofar, fun screens hok => ?_⟩
        simp only [Traced.result_bind, hin, hothers] at hok
        split at hok <;> cases hok
      | ok others =>
        have hlast : findings (pure (screenOf f.name f.name inside.1 inside.2 :: others) :
            Traced Note Fault (List Screen)) = [] := rfl
        rw [findings_bind_ok hothers, hlast, List.append_nil]
        exact ⟨(List.prefix_append_right_inj _).2 hsofar, fun _ _ => by rw [hall others hothers]⟩

/-! ## Screens and geometry -/

theorem drawFunctions_usable {o : Options} (ho : o.Usable) (functions : List Function) :
    ∃ draws, drawFunctions o functions = .ok draws ∧ (draws.map Function.name).Nodup := by
  obtain ⟨start, hstart⟩ := ho.drawPrefix
  refine ⟨firstOfEach (functions.filter fun f => (after? start.toList f.name.toList).isSome), ?_, firstOfEach_nodup _⟩
  simp only [drawFunctions, hstart]

/-- the ids of the screens of a sketch with such functions that draw -/
def screenIds (draws : List Function) : List String := if draws = [] then ["main"] else draws.map Function.name

theorem shown_of_screenIds {found : List Screen} {draws : List Function} (h : found.map Screen.id = screenIds draws) :
    found ≠ [] := by
  rintro rfl
  cases draws with
  | nil => cases h
  | cons f draws => cases h

/-- one screen of all lines, for a sketch without a function that draws -/
def mainScreen (o : Options) (lines : List Line) : Traced Note Fault (List Screen) :=
  (contents o lines.length 0 lines 0).map .log id >>= fun inside =>
    pure [screenOf "main" "Main Screen" inside.1 inside.2]

theorem screens_eq {o : Options} {functions draws : List Function} (lines : List Line)
    (hd : drawFunctions o functions = .ok draws) :
    screens o lines functions = if draws = [] then mainScreen o lines else screensOf o lines draws 0 := by
  rw [screens, hd]
  cases draws <;> rfl

theorem screens_reads {o : Options} (ho : o.Usable) {text : Line} {lines : List Line}
    (hlines : ∀ line ∈ lines, line <:+: text) {functions draws : List Function}
    (hd : drawFunctions o functions = .ok draws) :
    Reads .tooLong text (fun screens => screens.map Screen.id = screenIds draws) (screens o lines functions).result := by
  rw [screens_eq lines hd, screenIds]
  split_ifs
  · rw [mainScreen, Traced.result_bind]
    exact Reads.bind (contents_reads ho lines.length 0 hlines 0).logged fun _ _ => rfl
  · exact screensOf_reads ho hlines draws 0

theorem mainScreen_findings (o : Options) (lines : List Line) : findings (mainScreen o lines) = [] := by
  have hquiet := findings_logged (contents o lines.length 0 lines 0)
  rw [mainScreen]
  cases h : ((contents o lines.length 0 lines 0).map Note.log id).result with
  | error fault => rw [findings_bind_error h, hquiet]
  | ok inside => rw [findings_bind_ok h, hquiet]; rfl

theorem screens_findings {o : Options} {functions draws : List Function} (lines : List Line)
    (hd : drawFunctions o functions = .ok draws) :
    findings (screens o lines functions) <+: unclosedBodies lines draws ∧
      ∀ found, (screens o lines functions).result = .ok found →
        findings (screens o lines functions) = unclosedBodies lines draws := by
  rw [screens_eq lines hd]
  split_ifs with hnone
  · rw [mainScreen_findings, hnone]
    exact ⟨List.prefix_rfl, fun _ _ => rfl⟩
  · exact screensOf_findings o lines draws 0

theorem firstRotation_reads {text : Line} {lines : List Line} (hlines : ∀ line ∈ lines, line <:+: text) :
    Reads id text (fun _ => True) (firstRotation lines) := by
  induction lines with
  | nil => trivial
  | cons line rest ih =>
    rw [List.forall_mem_cons] at hlines
    refine ((rotation?_reads line).within hlines.1).bind fun found _ => ?_
    cases found with
    | none => exact ih hlines.2
    | some found => trivial

theorem geometryOf_reads {o : Options} (ho : o.Usable) {text : Line} {lines : List Line}
    (hlines : ∀ line ∈ lines, line <:+: text) : Reads .tooLong text (fun _ => True) (geometryOf o lines) := by
  obtain ⟨rotation, hrotation⟩ := Option.isSome_iff_exists.1 ho.rotation
  rw [geometryOf, hrotation]
  exact (firstRotation_reads hlines).wrapped.bind fun _ _ => trivial

/-! ## The outline -/

/-- what is said of an include that is not there -/
def missingInclude (required : String) : Diagnostic :=
  { message := required ++ " not found in includes. Make sure to include the library.", severity := .warning }

/-- the outline of a sketch that was read to its end: one screen for each function that draws or else one of all lines,
the bodies that nothing closes, and then the include that is not there -/
structure Whole (lines : List Line) (draws : List Function) (required : String) (out : Outline) : Prop where
  noErrors : ∀ d ∈ out.diagnostics, d.severity ≠ .error
  geometry : out.geometry.isSome = true
  shown : out.screens ≠ []
  screenIds : out.screens.map Screen.id = screenIds draws
  renderable : out.isRenderable = true
  diagnostics : out.diagnostics =
    unclosedBodies lines draws ++ if required ∈ out.includes then [] else [missingInclude required]

/-- the outline of a sketch whose reading was stopped: the warnings so far, and last the one error, on no line, about a
run of digits in the source that is too long -/
structure Stopped (source : Line) (draws : List Function) (out : Outline) (failure : Diagnostic) : Prop where
  before : ∃ found, found <+: unclosedBodies (lines source) draws ∧ (∀ d ∈ found, d.severity = .warning) ∧
    out.diagnostics = found ++ [failure]
  severity : failure.severity = .error
  place : failure.line = 0 ∧ failure.column = 0
  geometry : out.geometry = none
  notRenderable : out.isRenderable = false
  cause : ∃ run, DigitRun source run ∧ digitLimit < run.length ∧ failure = failureFinding (.tooLong ⟨run.length⟩)

/-- the declarations of an outline are those that are found on the lines by themselves -/
structure Declares (lines : List Line) (out : Outline) : Prop where
  includes : out.includes = includesOf lines
  states : out.states = statesOf lines
  declarations : out.declarations = variablesOf lines
  functions : out.functions = functionsOf lines

theorem severity_unclosedBodies {lines : List Line} {draws : List Function} :
    ∀ d ∈ unclosedBodies lines draws, d.severity = .warning := by
  intro d hd
  obtain ⟨f, -, rfl⟩ := List.mem_map.1 hd
  rfl

theorem stopped_of_failure {source : Line} {draws : List Function} {out : Outline} {found : List Diagnostic}
    {run : Line} (hfound : found <+: unclosedBodies (lines source) draws) (hrun : DigitRun source run)
    (hlong : digitLimit < run.length) (hgeometry : out.geometry = none)
    (hdiagnostics : out.diagnostics = found ++ [failureFinding (.tooLong ⟨run.length⟩)]) :
    Stopped source draws out (failureFinding (.tooLong ⟨run.length⟩)) where
  before := ⟨found, hfound, fun d hd => severity_unclosedBodies d (hfound.subset hd), hdiagnostics⟩
  severity := rfl
  place := ⟨rfl, rfl⟩
  geometry := hgeometry
  notRenderable := by simp [Outline.isRenderable, Outline.hasErrors, hdiagnostics, failureFinding]
  cause := ⟨run, hrun, hlong, rfl⟩

theorem advice_eq {o : Options} {required : String} (hr : o.requiredInclude = .str required) {screens : List Screen}
    (hs : screens ≠ []) (includes : List String) :
    advice o screens includes = if required ∈ includes then [] else [missingInclude required] := by
  have hany : (includes.any fun target => (Json.str target).same o.requiredInclude) = decide (required ∈ includes) := by
    rw [Bool.eq_iff_iff, hr]
    simp [Json.same]
  have hempty : screens.isEmpty = false := by simpa using hs
  rw [advice, hany, hempty, hr]
  by_cases h : required ∈ includes <;> simp [h, missingInclude, Json.plain]

theorem whole_of_screens {lines : List Line} {draws : List Function} {required : String} {out : Outline}
    (hgeometry : out.geometry.isSome = true) (hids : out.screens.map Screen.id = screenIds draws)
    (hdiagnostics : out.diagnostics =
      unclosedBodies lines draws ++ if required ∈ out.includes then [] else [missingInclude required]) :
    Whole lines draws required out := by
  have hnone : ∀ d ∈ out.diagnostics, d.severity ≠ .error := by
    intro d hd
    rw [hdiagnostics, List.mem_append] at hd
    rcases hd with hd | hd
    · rw [severity_unclosedBodies d hd]; rintro ⟨⟩
    · split_ifs at hd
      · cases hd
      · rw [List.mem_singleton.1 hd]; rintro ⟨⟩
  have hshown := shown_of_screenIds hids
  refine ⟨hnone, hgeometry, hshown, hids, ?_, hdiagnostics⟩
  simp only [Outline.isRenderable, Outline.hasErrors, Bool.and_eq_true, Bool.not_eq_true', List.any_eq_false,
    beq_iff_eq, List.isEmpty_eq_false_iff]
  exact ⟨hnone, hshown⟩

/-- with usable options a sketch is read to its end, or a run of digits stops the reading -/
theorem extract_usable {o : Options} (ho : o.Usable) {required : String} (hr : o.requiredInclude = .str required)
    (source : String) {draws : List Function} (hd : drawFunctions o (functionsOf (lines source.toList)) = .ok draws) :
    Declares (lines source.toList) (extract o source).1 ∧
      (Whole (lines source.toList) draws required (extract o source).1 ∨
        ∃ failure, Stopped source.toList draws (extract o source).1 failure) := by
  have hlines : ∀ line ∈ lines source.toList, line <:+: source.toList := fun line hl => lines_within hl
  have hscreens := screens_reads ho hlines hd
  obtain ⟨hsofar, hall⟩ := screens_findings (lines source.toList) hd
  cases hbuilt : (screens o (lines source.toList) (functionsOf (lines source.toList))).result with
  | error fault =>
    rw [hbuilt] at hscreens
    obtain ⟨run, hrun, hlong, rfl⟩ := hscreens
    simp only [extract, hbuilt]
    exact ⟨⟨rfl, rfl, rfl, rfl⟩, Or.inr ⟨_, stopped_of_failure hsofar hrun hlong rfl rfl⟩⟩
  | ok found =>
    rw [hbuilt] at hscreens
    have hids : found.map Screen.id = screenIds draws := hscreens
    have hgeometry := geometryOf_reads ho hlines
    cases hset : geometryOf o (lines source.toList) with
    | error fault =>
      rw [hset] at hgeometry
      obtain ⟨run, hrun, hlong, rfl⟩ := hgeometry
      simp only [extract, hbuilt, hset]
      exact ⟨⟨rfl, rfl, rfl, rfl⟩, Or.inr ⟨_, stopped_of_failure hsofar hrun hlong rfl rfl⟩⟩
    | ok geometry =>
      simp only [extract, hbuilt, hset]
      refine ⟨⟨rfl, rfl, rfl, rfl⟩, Or.inl (whole_of_screens rfl hids ?_)⟩
      rw [advice_eq hr (shown_of_screenIds hids), ← hall found hbuilt]
      rfl

end SketchPanel.Sketch

namespace SketchPanel.Settings

open SketchPanel.Text SketchPanel.Scene SketchPanel.Sketch

/-! ## Settings of the right kinds -/

/-- the settings that the reading of a sketch asks for -/
def readingKeys : List String := ["display_width", "display_height", "rotation", "draw_function_prefix", "api_prefix",
  "required_include", "default_text_color", "default_font_size", "touch_action_window"]

/-- whether a value may stand in the place of a default: it is of its kind, a truth value counting as a whole number -/
def Fits (default value : Json) : Prop := value.kind = default.kind ∨ default.kind = "int" ∧ value.kind = "bool"

/-- whether settings have a value of the default's kind wherever the reading of a sketch asks for one -/
def Typed (s : Settings) : Prop :=
  ∀ key ∈ readingKeys, ∀ default, (defaults "INFO").get? key = some default →
    ∃ value, s.get? key = some value ∧ Fits default value

theorem Fits.str {text : String} {value : Json} (h : Fits (.str text) value) : ∃ s, value = .str s := by
  cases value <;> simp_all [Fits, Json.kind]

theorem Fits.whole {n : Int} {value : Json} (h : Fits (.int n) value) : value.whole?.isSome = true := by
  cases value <;> simp_all [Fits, Json.kind, Json.whole?]

theorem readingOptions_typed {s : Settings} (hs : s.Typed) (width height : Option Json) :
    ∃ o required, s.readingOptions width height = .ok o ∧ o.Usable ∧
      s.get? "required_include" = some (.str required) ∧ o.requiredInclude = .str required := by
  obtain ⟨w, hw, -⟩ := hs "display_width" (by simp [readingKeys]) _ rfl
  obtain ⟨h, hh, -⟩ := hs "display_height" (by simp [readingKeys]) _ rfl
  obtain ⟨rotation, hrotation, -⟩ := hs "rotation" (by simp [readingKeys]) _ rfl
  obtain ⟨start, hstart, hfits⟩ := hs "draw_function_prefix" (by simp [readingKeys]) _ rfl
  obtain ⟨start, rfl⟩ := hfits.str
  obtain ⟨mark, hmark, hfits⟩ := hs "api_prefix" (by simp [readingKeys]) _ rfl
  obtain ⟨mark, rfl⟩ := hfits.str
  obtain ⟨required, hrequired, hfits⟩ := hs "required_include" (by simp [readingKeys]) _ rfl
  obtain ⟨required, rfl⟩ := hfits.str
  obtain ⟨colour, hcolour, -⟩ := hs "default_text_color" (by simp [readingKeys]) _ rfl
  obtain ⟨size, hsize, -⟩ := hs "default_font_size" (by simp [readingKeys]) _ rfl
  obtain ⟨window, hwindow, hfits⟩ := hs "touch_action_window" (by simp [readingKeys]) _ rfl
  have hoptions : s.readingOptions width height = .ok {
      width := width.getD w, height := height.getD h, drawPrefix := .str start, apiPrefix := .str mark
      requiredInclude := .str required, textColour := colour, fontSize := size, actionWindow := window
      rotation := some rotation } := by
    have hvalue : ∀ given key value, s.get? key = some value → s.valueOr given key = .ok (given.getD value) := by
      intro given key value hkey
      cases given with
      | none => rw [valueOr, Settings.value, hkey]; rfl
      | some given => rfl
    rw [readingOptions, hvalue _ _ _ hw, hvalue _ _ _ hh]
    simp only [Settings.value, hstart, hmark, hrequired, hcolour, hsize, hwindow, hrotation]
    rfl
  exact ⟨_, required, hoptions, ⟨⟨start, rfl⟩, ⟨mark, rfl⟩, hfits.whole, rfl⟩, hrequired, rfl⟩

/-- **How the reading of a sketch ends.** Whatever the source and the size, and with any settings of the kinds of the
defaults, an outline is made, and it declares what the phases find on the lines by themselves. Either it is whole: no
error, a geometry, a screen for each function that draws, a warning for each body that nothing closes, and one for the
include if it is not there. Or it ends with its only error, on no line, after warnings about bodies; then it has no
geometry and cannot be shown, and the source has a run of more than 4300 digits, whose length the error tells. -/
theorem extract_reads_or_stops (s : Settings) (hs : s.Typed) (width height : Option Json) (source : String) :
    ∃ o required draws, s.readingOptions width height = .ok o ∧
      s.get? "required_include" = some (.str required) ∧
      drawFunctions o (functionsOf (lines source.toList)) = .ok draws ∧ (draws.map Function.name).Nodup ∧
      Declares (lines source.toList) (extract o source).1 ∧
      (Whole (lines source.toList) draws required (extract o source).1 ∨
        ∃ failure, Stopped source.toList draws (extract o source).1 failure) := by
  obtain ⟨o, required, hoptions, husable, hrequired, hinclude⟩ := readingOptions_typed hs width height
  obtain ⟨draws, hdraws, hnodup⟩ := drawFunctions_usable husable (functionsOf (lines source.toList))
  exact ⟨o, required, draws, hoptions, hrequired, hdraws, hnodup, extract_usable husable hinclude source hdraws⟩

/-- a function that draws, whose body nothing closes -/
def openHome : String := "void drawHome() \x7b\n  tft.fillScreen(TFT_RED);\n"

/-- with the defaults the sketch is read to its end: one screen, and a warning for the body and for the include -/
theorem extract_openHome :
    (defaults "INFO").Typed ∧ ∃ o, (defaults "INFO").readingOptions none none = .ok o ∧
      Whole (lines openHome.toList) [home] "TFT_eSPI.h" (extract o openHome).1 ∧
      (extract o openHome).1.diagnostics = [unclosed home, missingInclude "TFT_eSPI.h"] := by
  have htyped : (defaults "INFO").Typed := fun _ _ default h => ⟨default, h, Or.inl rfl⟩
  obtain ⟨o, required, draws, hoptions, hrequired, hdraws, -, -, h⟩ :=
    extract_reads_or_stops (defaults "INFO") htyped none none openHome
  obtain rfl : usual = o := Except.ok.inj hoptions
  obtain rfl : [home] = draws := Except.ok.inj hdraws
  obtain rfl : "TFT_eSPI.h" = required := Json.str.inj (Option.some.inj hrequired)
  refine ⟨htyped, usual, hoptions, ?_⟩
  rcases h with h | ⟨failure, hstopped⟩
  · exact ⟨h, h.diagnostics⟩
  · obtain ⟨run, hrun, hlong, -⟩ := hstopped.cause
    have hshort : run.length ≤ openHome.toList.length := hrun.within.length_le
    exact absurd (hlong.trans_le hshort) (by decide)

end SketchPanel.Settings

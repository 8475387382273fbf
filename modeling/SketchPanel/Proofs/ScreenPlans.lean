/-
What screens are made of. The elements of a screen depend on the calls of its body and on the number of the first, and
on nothing else: neither on the places of the lines nor on what else stands on them. So the screens of a sketch, but for
their touch zones, are drawn from plans, each with an id and the calls of a body in a row.

Results:
- `elementsOf_append`: calls in a row are drawn one after another, and their numbers go on.
- `contents_elements`: the elements of some lines are those of their calls.
- `screens_of_plans`: the screens of a sketch, but for their zones, are drawn from their plans.
- `extract_readOff`: every screen is made of what some lines in a row hold.
- `read_of_no_errors`: an outline without errors has the screens that were built.
-/
import Mathlib.Tactic
import SketchPanel.Proofs.BraceNesting

namespace SketchPanel.Sketch

open SketchPanel.Text SketchPanel.Number SketchPanel.Scene

variable {o : Options}

/-! ## Calls and elements -/

/-- the statements of a line that speak to the panel, as far as that can be told -/
def callsOn (o : Options) (line : Line) : List Line := (calls o line).toOption.getD []

theorem callsOn_of_ok {line : Line} {found : List Line} (h : calls o line = .ok found) : callsOn o line = found := by
  rw [callsOn, h]
  rfl

/-- the place of a line is only for the note that says that nothing was drawn -/
theorem command_line (statement : Line) (number lineNumber other : Int) :
    (command o statement number lineNumber).result = (command o statement number other).result := by
  simp only [command, Traced.result_bind, Traced.result_lift]
  congr 1
  funext found
  cases found <;> rfl

theorem elementsOf_line (statements : List Line) (number lineNumber other : Int) :
    (elementsOf o lineNumber number statements).result = (elementsOf o other number statements).result := by
  induction statements generalizing number with
  | nil => rfl
  | cons statement rest ih =>
    simp only [elementsOf, Traced.result_bind, ih, command_line statement number lineNumber other]

theorem elementsOf_append {lineNumber number : Int} {statements more : List Line} {elements others : List Element}
    (h : (elementsOf o lineNumber number statements).result = .ok elements)
    (hmore : (elementsOf o lineNumber (number + statements.length) more).result = .ok others) :
    (elementsOf o lineNumber number (statements ++ more)).result = .ok (elements ++ others) := by
  induction statements generalizing number elements with
  | nil =>
    cases h
    simpa using hmore
  | cons statement rest ih =>
    obtain ⟨here, hhere, h⟩ := Traced.bind_eq_ok_iff.1 h
    obtain ⟨tail, htail, h⟩ := Traced.bind_eq_ok_iff.1 h
    cases h
    have hnext : number + ((statement :: rest).length : Int) = number + 1 + (rest.length : Int) := by
      rw [List.length_cons, Nat.cast_succ]
      ring
    rw [hnext] at hmore
    refine Traced.bind_eq_ok_iff.2 ⟨here, hhere, Traced.bind_eq_ok_iff.2 ⟨tail ++ others, ih htail hmore, ?_⟩⟩
    rw [Traced.result_pure, List.append_assoc]

/-- the elements of some lines are those of their calls -/
theorem contents_elements {count index : Nat} {lines : List Line} {number : Int} {inside : List Element × List Zone}
    (h : (contents o count index lines number).result = .ok inside) :
    (elementsOf o 0 number ((lines.take count).flatMap (callsOn o))).result = .ok inside.1 := by
  induction count generalizing index lines number inside with
  | zero =>
    cases h
    rfl
  | succ count ih =>
    cases lines with
    | nil =>
      cases h
      rfl
    | cons line following =>
      obtain ⟨found, elements, zone, others, hcalls, helements, -, hothers, rfl⟩ := contents_cons h
      rw [List.take_succ_cons, List.flatMap_cons, callsOn_of_ok hcalls]
      rw [elementsOf_line found number _ 0] at helements
      exact elementsOf_append helements (ih hothers)

/-! ## Plans -/

/-- what a screen is drawn from: its id and name, and the calls of its body -/
structure Plan where
  id : String
  name : String
  calls : List Line

/-- the screens of plans, their calls numbered from the given number on -/
def drawPlans (o : Options) : Int → List Plan → Except TooLong (List Screen)
  | _, [] => .ok []
  | number, plan :: plans => do
    let elements ← (elementsOf o 0 number plan.calls).result
    let others ← drawPlans o (number + plan.calls.length) plans
    return screenOf plan.id plan.name elements [] :: others

/-- the lines of a body -/
def Body.inside (b : Body) (lines : List Line) : List Line := (lines.drop b.first).take (b.stop - b.first)

/-- the plan of the screen of a function that draws -/
def planOf (o : Options) (lines : List Line) (f : Function) : Plan :=
  ⟨f.name, f.name, ((drawnBody lines f).inside lines).flatMap (callsOn o)⟩

/-- the plans of the screens of a sketch -/
def plans (o : Options) (lines : List Line) (draws : List Function) : List Plan :=
  if draws = [] then [⟨"main", "Main Screen", lines.flatMap (callsOn o)⟩] else draws.map (planOf o lines)

/-- a screen without its touch zones -/
def untouched (s : Screen) : Screen := { s with zones := [] }

/-- the screen of a function is read off its body, and the calls of the next body are numbered on -/
theorem screensOf_inversion {lines : List Line} {f : Function} {functions : List Function} {number : Int}
    {found : List Screen} (h : (screensOf o lines (f :: functions) number).result = .ok found) :
    ∃ inside others, (bodyContents o lines f number).result = .ok inside ∧
      (screensOf o lines functions (number + (planOf o lines f).calls.length)).result = .ok others ∧
      found = screenOf f.name f.name inside.1 inside.2 :: others := by
  simp only [screensOf] at h
  have hread : (bodyContents o lines f number >>= fun inside =>
      screensOf o lines functions (number + (planOf o lines f).calls.length) >>= fun others =>
        pure (screenOf f.name f.name inside.1 inside.2 :: others)).result = .ok found := by
    split at h
    · obtain ⟨-, -, h⟩ := Traced.bind_eq_ok_iff.1 h
      exact h
    · exact h
  obtain ⟨inside, hinside, hread⟩ := Traced.bind_eq_ok_iff.1 hread
  obtain ⟨others, hothers, hread⟩ := Traced.bind_eq_ok_iff.1 hread
  exact ⟨inside, others, hinside, hothers, (Except.ok.inj hread).symm⟩

theorem bodyContents_elements {lines : List Line} {f : Function} {number : Int} {inside : List Element × List Zone}
    (h : (bodyContents o lines f number).result = .ok inside) :
    (elementsOf o 0 number (planOf o lines f).calls).result = .ok inside.1 :=
  contents_elements (Traced.map_eq_ok_iff.1 h)

theorem mainScreen_inversion {lines : List Line} {found : List Screen} (h : (mainScreen o lines).result = .ok found) :
    ∃ inside, (contents o lines.length 0 lines 0).result = .ok inside ∧
      found = [screenOf "main" "Main Screen" inside.1 inside.2] := by
  obtain ⟨inside, hinside, h⟩ := Traced.bind_eq_ok_iff.1 h
  exact ⟨inside, Traced.map_eq_ok_iff.1 hinside, (Except.ok.inj h).symm⟩

theorem drawPlans_cons {number : Int} (plan : Plan) {more : List Plan} {elements : List Element} {others : List Screen}
    (h : (elementsOf o 0 number plan.calls).result = .ok elements)
    (hmore : drawPlans o (number + plan.calls.length) more = .ok others) :
    drawPlans o number (plan :: more) = .ok (screenOf plan.id plan.name elements [] :: others) := by
  rw [drawPlans, h]
  simp only [bind, Except.bind, hmore]
  rfl

theorem screensOf_plans {lines : List Line} {functions : List Function} {number : Int} {found : List Screen}
    (h : (screensOf o lines functions number).result = .ok found) :
    drawPlans o number (functions.map (planOf o lines)) = .ok (found.map untouched) := by
  induction functions generalizing number found with
  | nil =>
    cases h
    rfl
  | cons f functions ih =>
    obtain ⟨inside, others, hinside, hothers, rfl⟩ := screensOf_inversion h
    exact drawPlans_cons (planOf o lines f) (bodyContents_elements hinside) (ih hothers)

/-- **Screens from plans.** The screens of a sketch, but for their touch zones, are drawn from their plans. -/
theorem screens_of_plans {lines : List Line} {functions draws : List Function} {found : List Screen}
    (hd : drawFunctions o functions = .ok draws) (h : (screens o lines functions).result = .ok found) :
    drawPlans o 0 (plans o lines draws) = .ok (found.map untouched) := by
  rw [screens_eq lines hd] at h
  rw [plans]
  split_ifs at h ⊢
  · obtain ⟨inside, hinside, rfl⟩ := mainScreen_inversion h
    have helements := contents_elements hinside
    rw [List.take_length] at helements
    exact drawPlans_cons ⟨"main", "Main Screen", lines.flatMap (callsOn o)⟩ helements rfl
  · exact screensOf_plans h

/-! ## Screens of an outline -/

/-- a screen made of what so many lines from one on hold, the first call with some number -/
def ReadOff (o : Options) (lines : List Line) (screen : Screen) : Prop :=
  ∃ id name count first number inside, (contents o count first (lines.drop first) number).result = .ok inside ∧
    screen = screenOf id name inside.1 inside.2

/-- every screen of an outline is read off lines of its sketch -/
theorem extract_readOff {source : String} {screen : Screen} (h : screen ∈ (extract o source).1.screens) :
    ReadOff o (lines source.toList) screen := by
  obtain ⟨found, hbuilt, hmem⟩ := extract_screens h
  obtain ⟨draws, hdraws, -⟩ := Traced.bind_eq_ok_iff.1 hbuilt
  rw [screens_eq (lines source.toList) hdraws] at hbuilt
  split_ifs at hbuilt
  · obtain ⟨inside, hinside, rfl⟩ := mainScreen_inversion hbuilt
    exact ⟨_, _, _, 0, _, inside, hinside, List.mem_singleton.1 hmem⟩
  · obtain ⟨f, -, number, inside, hinside, rfl⟩ := screensOf_built hbuilt hmem
    exact ⟨_, _, _, _, number, inside, Traced.map_eq_ok_iff.1 hinside, rfl⟩

/-! ## Outlines without errors -/

/-- an outline without errors has the screens that were built, and there is no doubt which functions draw -/
theorem read_of_no_errors {source : String} (h : (extract o source).1.hasErrors = false) :
    ∃ draws, drawFunctions o (functionsOf (lines source.toList)) = .ok draws ∧
      (screens o (lines source.toList) (functionsOf (lines source.toList))).result =
        .ok (extract o source).1.screens := by
  cases hbuilt : (screens o (lines source.toList) (functionsOf (lines source.toList))).result with
  | error fault =>
    simp [extract, hbuilt, Outline.hasErrors, failureFinding] at h
  | ok found =>
    obtain ⟨draws, hdraws, -⟩ := Traced.bind_eq_ok_iff.1 hbuilt
    refine ⟨draws, hdraws, ?_⟩
    cases hset : geometryOf o (lines source.toList) with
    | error fault => simp [extract, hbuilt, hset, Outline.hasErrors, failureFinding] at h
    | ok geometry => simp only [extract, hbuilt, hset]

end SketchPanel.Sketch

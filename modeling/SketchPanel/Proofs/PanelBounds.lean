/-
What bounds a panel. Its setters take quarters for a rotation and positive sides for a size, and refuse all else. A load is
the second way to turn a panel: it takes the rotation of the outline as it stands, and the outline has it from the first
`setRotation` of the sketch, whatever the number. So the sides stay positive whatever is done, and the rotation stays a
quarter as long as no sketch turns the panel further.

Results:
- `checkedSide_eq_ok_iff`, `setDimensions_refuses_iff`, `setRotation_refuses_iff`: what the setters take and refuse.
- `sized_after`, `sized_run`: no operation makes a side nought or less.
- `rotation_after`, `rotation_run`: the rotation is that of the last operation that turned the panel.
- `turned_quarter_or_over`: an operation turns the panel to a quarter, unless it loads a sketch with a larger number.
- `bounds_after_run`: size and rotation after any history, and what the setters refuse then.
Witness and counterexample:
- `bounds_after_refusals`: a history in which both setters refuse something.
- `load_turns_further`: a sketch that turns the panel to seven, which the setter refuses.
-/
import Mathlib.Tactic
import SketchPanel.Proofs.BodySearch
import SketchPanel.Proofs.PanelRun

namespace SketchPanel.PanelRun

open Number

/-! ## Bounds -/

/-- whether a rotation counts the same as nought, one, two or three -/
def Quarter (rotation : Json) : Prop := ∃ n : Int, 0 ≤ n ∧ n < 4 ∧ (Json.int n).same rotation = true

/-- whether a side is a number above nought -/
def Positive (side : Json) : Prop := ∃ n, side.scalar? = some n ∧ (Scalar.whole 0).lt n = true

/-- whether a side is not the undefined number -/
def Defined (side : Json) : Prop := ∀ x, side.scalar? = some (.real x) → parts x ≠ .undefined

/-- whether both sides of a panel are positive -/
structure Sized (p : Panel) : Prop where
  width : Positive p.slice.width
  height : Positive p.slice.height

/-- whether an operation is refused for the value that it is given, and changes nothing -/
def Refuses (p : Panel) (op : Op) : Prop :=
  ∃ fault, step p op = .error fault ∧ fault.kind = "ValueError" ∧ after p op = p

section Setters

variable {p : Panel} {op : Op} {n : Int} {rotation side width height : Json} {refusal fault : Panel.Fault}

theorem quarter_iff : Quarter rotation ↔ Panel.rotations.any (·.same rotation) = true := by
  simp only [Panel.rotations, List.any_cons, List.any_nil, Bool.or_false, Bool.or_eq_true]
  constructor
  · rintro ⟨n, hlow, hhigh, hsame⟩
    obtain rfl | rfl | rfl | rfl : n = 0 ∨ n = 1 ∨ n = 2 ∨ n = 3 := by omega
    · exact .inl hsame
    · exact .inr (.inl hsame)
    · exact .inr (.inr (.inl hsame))
    · exact .inr (.inr (.inr hsame))
  · rintro (hsame | hsame | hsame | hsame)
    · exact ⟨0, by omega, by omega, hsame⟩
    · exact ⟨1, by omega, by omega, hsame⟩
    · exact ⟨2, by omega, by omega, hsame⟩
    · exact ⟨3, by omega, by omega, hsame⟩

theorem quarter_whole (h : rotation.whole? = some n) : Quarter rotation ↔ 0 ≤ n ∧ n < 4 := by
  have hsame : ∀ m : Int, (Json.int m).same rotation = decide (m = n) := by
    intro m
    rw [← Scalar.same_whole]
    cases rotation with
    | int k =>
      obtain rfl : k = n := Option.some.inj h
      rfl
    | bool b =>
      obtain rfl : (if b then 1 else 0) = n := Option.some.inj h
      rfl
    | _ => cases h
  simp only [Quarter, hsame, decide_eq_true_eq]
  constructor
  · rintro ⟨m, hlow, hhigh, rfl⟩
    exact ⟨hlow, hhigh⟩
  · rintro ⟨hlow, hhigh⟩
    exact ⟨n, hlow, hhigh, rfl⟩

theorem positive_int : Positive (.int n) ↔ 0 < n := by
  have hscalar : (Json.int n).scalar? = some (.whole n) := rfl
  simp only [Positive, hscalar, Option.some.injEq, exists_eq_left', Scalar.lt_whole, decide_eq_true_eq]

/-- a number is above nought unless it is nought or less -/
theorem lt_iff_not_le {s : Scalar} (h : ∀ x, s = .real x → parts x ≠ .undefined) :
    (Scalar.whole 0).lt s = true ↔ s.le 0 = false := by
  cases s with
  | whole n =>
    have hle : (Scalar.whole n).le 0 = decide (n ≤ 0) := Scalar.le_whole n 0
    rw [Scalar.lt_whole, hle, decide_eq_true_eq, decide_eq_false_iff_not, not_le]
  | real x =>
    have hdefined : ∃ o, Scalar.compareWhole x 0 = some o := by
      unfold Scalar.compareWhole
      cases hparts : parts x with
      | undefined => exact absurd hparts (h x rfl)
      | infinite negative => exact ⟨_, rfl⟩
      | finite negative mantissa exponent => exact ⟨_, rfl⟩
    obtain ⟨o, ho⟩ := hdefined
    have hlt : (Scalar.whole 0).order (.real x) = some o.swap := by simp only [Scalar.order, ho, Option.map_some]
    have hle : (Scalar.real x).order 0 = some o := ho
    simp only [Scalar.lt, Scalar.le, hlt, hle]
    cases o <;> decide

theorem checkedSide_number {s : Scalar} (h : side.scalar? = some s) :
    Panel.checkedSide side refusal = if s.le 0 then .error refusal else .ok () := by
  simp only [Panel.checkedSide, Json.ordered, h, Except.mapError, bind, Except.bind]
  rfl

theorem checkedSide_other (h : side.scalar? = none) (refusal : Panel.Fault) :
    ∃ mismatch, Panel.checkedSide side refusal = .error (.mismatch mismatch) := by
  simp only [Panel.checkedSide, Json.ordered, h, Except.mapError, bind, Except.bind]
  exact ⟨_, rfl⟩

/-- the check takes what is positive -/
theorem checkedSide_eq_ok_iff (h : Defined side) (refusal : Panel.Fault) :
    Panel.checkedSide side refusal = .ok () ↔ Positive side := by
  cases hs : side.scalar? with
  | none =>
    obtain ⟨mismatch, hchecked⟩ := checkedSide_other hs refusal
    simp [hchecked, Positive, hs]
  | some s =>
    have hlt : (Scalar.whole 0).lt s = true ↔ s.le 0 = false :=
      lt_iff_not_le fun x hx => h x (hs.trans (congrArg some hx))
    rw [checkedSide_number hs]
    simp only [Positive, hs, Option.some.injEq, exists_eq_left', hlt]
    cases s.le 0 <;> simp

/-- a number that is not positive is refused in the words of the caller -/
theorem checkedSide_refused (hd : Defined side) (hn : side.scalar?.isSome = true) (h : ¬ Positive side) :
    Panel.checkedSide side refusal = .error refusal := by
  obtain ⟨s, hs⟩ := Option.isSome_iff_exists.1 hn
  rw [← checkedSide_eq_ok_iff hd refusal, checkedSide_number hs] at h
  rw [checkedSide_number hs]
  split_ifs at h ⊢
  · rfl
  · exact absurd rfl h

theorem after_error (h : step p op = .error fault) : after p op = p := by
  rw [after, h]

theorem after_ok {p' : Panel} (h : step p op = .ok p') : after p op = p' := by
  rw [after, h]

theorem not_refuses {p' : Panel} (h : step p op = .ok p') : ¬ Refuses p op := by
  rintro ⟨fault, herror, -⟩
  rw [h] at herror
  cases herror

/-- **The rotation setter.** It refuses exactly what is no quarter. -/
theorem setRotation_refuses_iff : Refuses p (.setRotation rotation) ↔ ¬ Quarter rotation := by
  constructor
  · intro hrefuses hquarter
    have hstep : step p (.setRotation rotation) = .ok { p with rotation } := if_pos (quarter_iff.1 hquarter)
    exact not_refuses hstep hrefuses
  · intro hother
    have hstep : step p (.setRotation rotation) = .error (.badRotation rotation) :=
      if_neg fun hany => hother (quarter_iff.2 hany)
    exact ⟨_, hstep, rfl, after_error hstep⟩

/-- **The size setter.** Among numbers it refuses exactly the pairs that are not both positive. -/
theorem setDimensions_refuses_iff (hw : Defined width) (hh : Defined height) (hwn : width.scalar?.isSome = true)
    (hhn : height.scalar?.isSome = true) :
    Refuses p (.setDimensions width height) ↔ ¬ (Positive width ∧ Positive height) := by
  constructor
  · rintro hrefuses ⟨hwidth, hheight⟩
    have hstep : step p (.setDimensions width height) = .ok { p with slice := { p.slice with width, height } } := by
      simp only [step, Panel.setDimensions, (checkedSide_eq_ok_iff hw _).2 hwidth, (checkedSide_eq_ok_iff hh _).2 hheight]
      rfl
    exact not_refuses hstep hrefuses
  · intro hnone
    have hstep : step p (.setDimensions width height) = .error (.badDimensions width height) := by
      by_cases hwidth : Positive width
      · have hheight : ¬ Positive height := fun hheight => hnone ⟨hwidth, hheight⟩
        simp only [step, Panel.setDimensions, (checkedSide_eq_ok_iff hw _).2 hwidth, checkedSide_refused hh hhn hheight]
        rfl
      · simp only [step, Panel.setDimensions, checkedSide_refused hw hwn hwidth]
        rfl
    exact ⟨_, hstep, rfl, after_error hstep⟩

/-- what the size setter takes is positive both ways -/
theorem positive_of_setDimensions {p' : Panel} (hw : Defined width) (hh : Defined height)
    (h : p.setDimensions width height = .ok p') : Positive width ∧ Positive height := by
  unfold Panel.setDimensions at h
  cases hwidth : Panel.checkedSide width (.badDimensions width height) with
  | error fault => simp [hwidth, bind, Except.bind] at h
  | ok _ =>
    cases hheight : Panel.checkedSide height (.badDimensions width height) with
    | error fault => simp [hwidth, hheight, bind, Except.bind] at h
    | ok _ => exact ⟨(checkedSide_eq_ok_iff hw _).1 hwidth, (checkedSide_eq_ok_iff hh _).1 hheight⟩

end Setters

/-! ## Sizes -/

/-- whether an operation is one that can be asked for: a load is of the outline of some sketch, read with a quarter for a
rotation if with any, and no side is the undefined number -/
def Op.Asked : Op → Prop
  | .load o _ => ∃ options source, o = (Sketch.extract options source).1 ∧ ∀ setting ∈ options.rotation, Quarter setting
  | .setDimensions width height => Defined width ∧ Defined height
  | _ => True

section Sizes

variable {p : Panel} {op : Op} {ops : List Op}

theorem Sized.of_frame {p' : Panel} (h : frameOf p'.slice = frameOf p.slice) (hp : Sized p) : Sized p' where
  width := by
    have hwidth : p'.slice.width = p.slice.width := congrArg Prod.fst h
    rw [hwidth]
    exact hp.width
  height := by
    have hheight : p'.slice.height = p.slice.height := congrArg (·.2.1) h
    rw [hheight]
    exact hp.height

/-- no operation makes a side nought or less -/
theorem sized_after (hp : Sized p) (hop : op.Asked) : Sized (after p op) := by
  by_cases hcontent : op.isContent = true
  · exact hp.of_frame (frame_after p op hcontent)
  cases op with
  | setDebug debug => exact ⟨hp.width, hp.height⟩
  | setRotation rotation =>
    cases hstep : step p (.setRotation rotation) with
    | error fault => rwa [after_error hstep]
    | ok p' =>
      rw [after_ok hstep, setRotation_ok hstep]
      exact ⟨hp.width, hp.height⟩
  | setDimensions width height =>
    cases hstep : step p (.setDimensions width height) with
    | error fault => rwa [after_error hstep]
    | ok p' =>
      obtain ⟨hwidth, hheight⟩ := positive_of_setDimensions hop.1 hop.2 hstep
      rw [after_ok hstep, setDimensions_ok hstep]
      exact ⟨hwidth, hheight⟩
  | _ => exact absurd rfl hcontent

theorem sized_run (hp : Sized p) (hops : ∀ op ∈ ops, op.Asked) : Sized (run p ops) := by
  induction ops using List.reverseRecOn with
  | nil => exact hp
  | append_singleton ops op ih =>
    rw [run_snoc]
    exact sized_after (ih fun op' hop' => hops op' (List.mem_append_left _ hop')) (hops op (by simp))

end Sizes

/-! ## Rotations -/

/-- the rotation that an operation gives the panel, if it gives it one -/
def Op.turn? : Op → Option Json
  | .load o id =>
    match Panel.screenToShow o id with
    | .ok _ => o.geometry.map Scene.Geometry.rotation
    | .error _ => none
  | .setRotation rotation => if Panel.rotations.any (·.same rotation) then some rotation else none
  | _ => none

/-- whether an operation loads a sketch that turns the panel by more than three quarters -/
def Op.Overturns (op : Op) (n : Int) : Prop :=
  ∃ options source id, op = .load (Sketch.extract options source).1 id ∧
    Sketch.firstRotation (Text.lines source.toList) = .ok (some n) ∧ 4 ≤ n

section Rotations

variable {p : Panel} {op : Op} {ops : List Op} {rotation : Json}

theorem rotation_execute (p : Panel) (r : Resolver) (z : Zone) : (after p (.execute r z)).rotation = p.rotation := by
  cases hd : r.destination? z with
  | error fault => simp [after, step, execute_error p hd, Except.mapError]
  | ok found => simp [after, step, execute_ok p hd, Except.mapError]

/-- **Turns.** An operation gives the panel the rotation that it turns it to, and else leaves it as it is. -/
theorem rotation_after (p : Panel) (op : Op) : (after p op).rotation = op.turn?.getD p.rotation := by
  cases op with
  | load o id =>
    cases hs : Panel.screenToShow o id with
    | error fault => simp [after, step, load_error p hs, Op.turn?, hs]
    | ok screen => cases screen <;> simp [after, step, Panel.load, Op.turn?, hs, bind, Except.bind, pure, Except.pure,
        Panel.showScreen, Panel.clear]
  | touch r x y zones =>
    rw [after_touch]
    cases (Resolver.touched p x y zones).zone with
    | none => rfl
    | some z => exact rotation_execute p r z
  | execute r z => exact rotation_execute p r z
  | setDimensions width height =>
    cases hstep : step p (.setDimensions width height) with
    | error fault => rw [after_error hstep]; rfl
    | ok p' => rw [after_ok hstep, setDimensions_ok hstep]; rfl
  | setRotation rotation =>
    simp only [after, step, Panel.setRotation, Op.turn?]
    split_ifs <;> rfl
  | _ => rfl

/-- the rotation is that of the last operation that turned the panel, or the first one -/
theorem rotation_run (p : Panel) (ops : List Op) :
    (∀ op ∈ ops, op.turn? = none) ∧ (run p ops).rotation = p.rotation ∨
      ∃ earlier op later, ops = earlier ++ op :: later ∧ op.turn? = some (run p ops).rotation ∧
        ∀ op' ∈ later, op'.turn? = none := by
  induction ops using List.reverseRecOn with
  | nil => exact Or.inl ⟨by simp, rfl⟩
  | append_singleton ops op ih =>
    rw [run_snoc, rotation_after]
    cases hturn : op.turn? with
    | some rotation => exact Or.inr ⟨ops, op, [], rfl, hturn, by simp⟩
    | none =>
      rw [Option.getD_none]
      rcases ih with ⟨hnone, hsame⟩ | ⟨earlier, op', later, rfl, hlast, hlater⟩
      · refine Or.inl ⟨fun op' hop' => ?_, hsame⟩
        rcases List.mem_append.1 hop' with hop' | hop'
        · exact hnone op' hop'
        · rw [List.mem_singleton.1 hop', hturn]
      · refine Or.inr ⟨earlier, op', later ++ [op], by simp, hlast, fun op'' hop'' => ?_⟩
        rcases List.mem_append.1 hop'' with hop'' | hop''
        · exact hlater op'' hop''
        · rw [List.mem_singleton.1 hop'', hturn]

/-- a line sets a rotation by its digits, which have no sign -/
theorem rotation?_nonneg {line tail : Sketch.Line} {n : Int} (h : Sketch.rotation? line = .ok (some (n, tail))) :
    0 ≤ n := by
  unfold Sketch.rotation? at h
  split at h
  · rename_i digits rest _
    cases hdigits : readDigits digits with
    | error fault => simp [hdigits, Except.map] at h
    | ok k =>
      obtain ⟨rfl, -⟩ : (k : Int) = n ∧ rest = tail := by simpa [hdigits, Except.map] using h
      exact Int.natCast_nonneg k
  · cases h

/-- no sketch sets a rotation below nought -/
theorem firstRotation_nonneg {lines : List Sketch.Line} {n : Int} (h : Sketch.firstRotation lines = .ok (some n)) :
    0 ≤ n := by
  induction lines with
  | nil => cases h
  | cons line rest ih =>
    unfold Sketch.firstRotation at h
    cases hread : Sketch.rotation? line with
    | error fault => simp [hread, bind, Except.bind] at h
    | ok found =>
      cases found with
      | none => exact ih (by simpa [hread, bind, Except.bind] using h)
      | some found =>
        obtain ⟨m, tail⟩ := found
        obtain rfl : m = n := by simpa [hread, bind, Except.bind, pure, Except.pure] using h
        exact rotation?_nonneg hread

section Geometries

variable {options : Sketch.Options} {source : String} {g : Scene.Geometry}

/-- an outline has the geometry that is read off all lines of its sketch -/
theorem geometryOf_of_extract (h : (Sketch.extract options source).1.geometry = some g) :
    Sketch.geometryOf options (Text.lines source.toList) = .ok g := by
  cases hbuilt : (Sketch.screens options (Text.lines source.toList)
      (Sketch.functionsOf (Text.lines source.toList))).result with
  | error fault =>
    simp only [Sketch.extract, hbuilt] at h
    cases h
  | ok found =>
    cases hset : Sketch.geometryOf options (Text.lines source.toList) with
    | error fault =>
      simp only [Sketch.extract, hbuilt, hset] at h
      cases h
    | ok geometry =>
      simp only [Sketch.extract, hbuilt, hset, Option.some.injEq] at h
      rw [h]

/-- the rotation of an outline is the first one that its sketch sets, or else that of the settings -/
theorem geometry_rotation (h : (Sketch.extract options source).1.geometry = some g) :
    ∃ setting set, options.rotation = some setting ∧
      Sketch.firstRotation (Text.lines source.toList) = .ok set ∧ g.rotation = (set.map Json.int).getD setting := by
  have hgeometry := geometryOf_of_extract h
  unfold Sketch.geometryOf at hgeometry
  cases hsetting : options.rotation with
  | none => simp [hsetting] at hgeometry
  | some setting =>
    cases hfirst : Sketch.firstRotation (Text.lines source.toList) with
    | error fault => simp [hsetting, hfirst, Except.mapError, bind, Except.bind] at hgeometry
    | ok set =>
      simp only [hsetting, hfirst, Except.mapError, bind, Except.bind, pure, Except.pure, Except.ok.injEq] at hgeometry
      exact ⟨setting, set, rfl, rfl, by rw [← hgeometry]⟩

end Geometries

/-- **Turns of the asked.** An operation that turns the panel turns it to a quarter, unless it loads a sketch whose first
rotation is a larger number: then it turns it to that. -/
theorem turned_quarter_or_over (hop : op.Asked) (h : op.turn? = some rotation) :
    Quarter rotation ∨ ∃ n, op.Overturns n ∧ rotation = .int n := by
  cases op with
  | load o id =>
    obtain ⟨options, source, rfl, hsetting⟩ := hop
    simp only [Op.turn?] at h
    split at h
    · obtain ⟨g, hg, rfl⟩ := Option.map_eq_some_iff.1 h
      obtain ⟨setting, set, hset, hfirst, hrotation⟩ := geometry_rotation hg
      cases set with
      | none =>
        rw [hrotation]
        exact Or.inl (hsetting setting hset)
      | some n =>
        rw [hrotation, Option.map_some, Option.getD_some]
        by_cases hover : 4 ≤ n
        · exact Or.inr ⟨n, ⟨options, source, id, rfl, hfirst, hover⟩, rfl⟩
        · exact Or.inl ((quarter_whole rfl).2 ⟨firstRotation_nonneg hfirst, not_le.1 hover⟩)
    · cases h
  | setRotation other =>
    simp only [Op.turn?, Option.ite_none_right_eq_some, Option.some.injEq] at h
    obtain ⟨hany, rfl⟩ := h
    exact Or.inl (quarter_iff.2 hany)
  | _ => cases h

end Rotations

/-! ## Any history -/

/-- **Bounds.** From a panel whose rotation is a quarter and whose sides are positive, after any operations, refused ones
included, the sides are positive. The rotation is a quarter, or it is the number, four or more, that the sketch sets which
was loaded by the last operation to turn the panel. The setters refuse what is no quarter, and numbers that are not both
positive, and then change nothing. -/
theorem bounds_after_run (p : Panel) (ops : List Op) (hsized : Sized p) (hquarter : Quarter p.rotation)
    (hops : ∀ op ∈ ops, op.Asked) :
    Sized (run p ops) ∧
      (Quarter (run p ops).rotation ∨ ∃ earlier op later n, ops = earlier ++ op :: later ∧ op.Overturns n ∧
        (∀ op' ∈ later, op'.turn? = none) ∧ (run p ops).rotation = .int n) ∧
      (∀ rotation, Refuses (run p ops) (.setRotation rotation) ↔ ¬ Quarter rotation) ∧
      ∀ width height, Defined width → Defined height → width.scalar?.isSome = true → height.scalar?.isSome = true →
        (Refuses (run p ops) (.setDimensions width height) ↔ ¬ (Positive width ∧ Positive height)) := by
  refine ⟨sized_run hsized hops, ?_, fun _ => setRotation_refuses_iff, fun _ _ => setDimensions_refuses_iff⟩
  rcases rotation_run p ops with ⟨-, hsame⟩ | ⟨earlier, op, later, hsplit, hturn, hlater⟩
  · rw [hsame]
    exact Or.inl hquarter
  · have hop : op.Asked := hops op (by simp [hsplit])
    rcases turned_quarter_or_over hop hturn with hturned | ⟨n, hover, hn⟩
    · exact Or.inl hturned
    · exact Or.inr ⟨earlier, op, later, n, hsplit, hover, hlater, hn⟩

/-- a panel that shows nothing, not turned -/
def upright : Panel := .new (.int 320) (.int 240) (.int 0) (.bool false)

/-- a sketch that sets a rotation beyond three -/
def sevenTurns : String := "void drawA() \x7b\n tft.setRotation(7);\n\x7d"

/-- a load of a sketch that is read with the usual settings -/
def usualLoad (source : String) (id : Option String) : Op := .load (Sketch.extract Sketch.usual source).1 id

/-- both setters refuse something on the way, and so does a load that would turn the panel too far -/
def refusals : List Op :=
  [.setRotation (.int 4), .setDimensions (.int 0) (.int 9), usualLoad sevenTurns (some "drawB"), usualLoad "" none,
    .setDimensions (.int 8) (.int 9)]

theorem upright_sized : Sized upright where
  width := positive_int.2 (by decide)
  height := positive_int.2 (by decide)

theorem upright_quarter : Quarter upright.rotation := (quarter_whole rfl).2 (by decide)

theorem usualLoad_asked (source : String) (id : Option String) : (usualLoad source id).Asked := by
  refine ⟨Sketch.usual, source, rfl, ?_⟩
  rintro setting ⟨⟩
  exact (quarter_whole rfl).2 (by decide)

theorem bounds_after_refusals :
    Sized (run upright refusals) ∧ (run upright refusals).slice.width.whole? = some 8 ∧
      (run upright refusals).rotation.whole? = some 1 ∧ Refuses (run upright refusals) (.setRotation (.int 4)) := by
  have hint : ∀ n : Int, Defined (.int n) := by
    rintro n x ⟨⟩
  have hasked : ∀ op ∈ refusals, op.Asked := by
    simp only [refusals, List.forall_mem_cons]
    exact ⟨trivial, ⟨hint 0, hint 9⟩, usualLoad_asked _ _, usualLoad_asked _ _, ⟨hint 8, hint 9⟩, by simp⟩
  obtain ⟨hsized, -, hrotation, -⟩ := bounds_after_run upright refusals upright_sized upright_quarter hasked
  have hread : (run upright refusals).slice.width.whole? = some 8 ∧ (run upright refusals).rotation.whole? = some 1 := by
    decide +kernel
  refine ⟨hsized, hread.1, hread.2, (hrotation _).2 fun h => ?_⟩
  exact absurd ((quarter_whole rfl).1 h) (by decide)

/-- **A load turns further than the setter would.** The panel is upright and a sketch sets seven: the load turns the panel
to seven, which the setter refuses. -/
theorem load_turns_further :
    Sized upright ∧ Quarter upright.rotation ∧ (usualLoad sevenTurns none).Asked ∧
      (run upright [usualLoad sevenTurns none]).rotation.whole? = some 7 ∧
      ¬ Quarter (run upright [usualLoad sevenTurns none]).rotation ∧
      Refuses (run upright [usualLoad sevenTurns none]) (.setRotation (.int 7)) := by
  have hseven : (run upright [usualLoad sevenTurns none]).rotation.whole? = some 7 := by decide +kernel
  refine ⟨upright_sized, upright_quarter, usualLoad_asked _ _, hseven, fun h => ?_, ?_⟩
  · exact absurd ((quarter_whole hseven).1 h) (by decide)
  · exact setRotation_refuses_iff.2 fun h => absurd ((quarter_whole rfl).1 h) (by decide)

end SketchPanel.PanelRun

/-
Runs on surfaces. A drawing adds to the sheet and reads no more than the kind of the sheet, the style and its own path;
so what it adds does not depend on what the surface has been through. `Over base a s` ties a surface `s` to a surface
`a` that started out with nothing on its sheet: the same operations do the same to both.

Results:
- `apply_over`, `run_over`: an operation, and a run, on a sheet with something on it is the same run on an empty sheet,
  put after what was there.
- `run_redrawn`: a drawing leaves size and saved styles alone.
- `run_bare`: for a program that begins its own path, the path that was there does not count either.
-/
import Mathlib.Tactic
import SketchPanel.Proofs.Answers
import SketchPanel.Surface.Basic

namespace SketchPanel.Surface

open Number Imaging

/-! ## Sheets, one after another -/

/-- the sheet with nothing on it -/
def Sheet.emptied : Sheet → Sheet
  | .vector _ => .vector []
  | .raster image _ => .raster { image with layers := [] } []

/-- a sheet, and on it what is on another -/
def Sheet.followed : Sheet → Sheet → Sheet
  | .vector marks, .vector more => .vector (marks ++ more)
  | .raster image strokes, .raster upper more =>
    .raster { image with layers := image.layers ++ upper.layers } (strokes ++ more)
  | sheet, _ => sheet

@[simp] theorem Sheet.emptied_emptied (x : Sheet) : x.emptied.emptied = x.emptied := by cases x <;> rfl

@[simp] theorem Sheet.followed_emptied (x : Sheet) : x.followed x.emptied = x := by
  cases x <;> simp [followed, emptied]

@[simp] theorem Sheet.emptied_followed (x y : Sheet) : (x.followed y).emptied = x.emptied := by
  cases x <;> cases y <;> rfl

@[simp] theorem Sheet.emptied_foldl (x : Sheet) (sheets : List Sheet) :
    (sheets.foldl followed x).emptied = x.emptied := by
  induction sheets generalizing x with
  | nil => rfl
  | cons y rest ih => rw [List.foldl_cons, ih, emptied_followed]

theorem Sheet.emptied_followed_self {x y : Sheet} (h : y.emptied = x.emptied) : x.emptied.followed y = y := by
  rw [← h]
  cases y <;> simp [followed, emptied]

/-- the layers of the image -/
def Sheet.layers : Sheet → List Layer
  | .vector _ => []
  | .raster image _ => image.layers

theorem Sheet.foldl_raster (image : Image) (strokes : List Stroke) (sheets : List Sheet) :
    sheets.foldl followed (.raster image strokes) =
      .raster { image with layers := image.layers ++ sheets.flatMap Sheet.layers }
        (strokes ++ sheets.flatMap Sheet.strokes) := by
  induction sheets generalizing image strokes with
  | nil => simp
  | cons y rest ih => cases y <;> simp [followed, Sheet.layers, Sheet.strokes, ih]

/-- the surface with nothing on its sheet, nothing saved and no path -/
def bare (s : Surface) : Surface := { s with saved := [], path := [], sheet := s.sheet.emptied }

/-! ## Sizes -/

theorem flat_whole (m n : Int) : flat (.whole m) (.whole n) = decide (m ≤ 0 ∨ n ≤ 0) := by
  rw [flat, Bool.decide_or]
  exact congrArg₂ _ (Scalar.le_whole m 0) (Scalar.le_whole n 0)

/-- width and height of the image, if there is one -/
def Sheet.size? (x : Sheet) : Option (Int × Int) := x.image?.map fun image => (image.width, image.height)

theorem Sheet.size?_congr {x y : Sheet} (h : x.emptied = y.emptied) : x.size? = y.size? := by
  have hself : ∀ z : Sheet, z.emptied.size? = z.size? := by intro z; cases z <;> rfl
  rw [← hself x, h, hself]

theorem Sheet.kind_congr {x y : Sheet} (h : x.emptied = y.emptied) : x.kind = y.kind := by
  have hself : ∀ z : Sheet, z.emptied.kind = z.kind := by intro z; cases z <;> rfl
  rw [← hself x, h, hself]

/-- a surface has whole sides, and the image that goes with them if there is one -/
structure Sound (s : Surface) : Prop where
  sides : ∃ w h : Int, s.width = .int w ∧ s.height = .int h
  image : ∀ size made, s.sheet.size? = some size → imageSized s.width s.height = .ok made →
    size = (made.width, made.height)

/-- an operation asks for no size but a whole one -/
def Op.Whole : Op → Prop
  | .resize width height => ∃ w h : Int, width = .int w ∧ height = .int h
  | _ => True

theorem new_ok {kind : Kind} {w h : Int} {s : Surface} (hs : new kind (.int w) (.int h) = .ok s) :
    s.sheet.kind = kind ∧ (kind = .raster → ∃ made, imageSized (.int w) (.int h) = .ok made) := by
  cases kind with
  | vector => cases hs; exact ⟨rfl, nofun⟩
  | raster =>
    cases hmade : imageSized (.int w) (.int h) with
    | error fault => simp [new, Kind.sheet, hmade] at hs
    | ok made =>
      simp only [new, Kind.sheet, hmade] at hs
      cases hs
      exact ⟨rfl, fun _ => ⟨made, rfl⟩⟩

theorem new_size {kind : Kind} {width height : Json} {s : Surface} (hs : new kind width height = .ok s) :
    s.width = width ∧ s.height = height := by
  obtain ⟨sheet, -, hs⟩ := bind_eq_ok_iff.1 hs
  cases hs
  exact ⟨rfl, rfl⟩

/-- there is a new surface unless there is no image of its size -/
theorem new_error {kind : Kind} {width height : Json} {fault : Fault} (hs : new kind width height = .error fault) :
    kind = .raster ∧ imageSized width height = .error fault := by
  cases kind with
  | vector => cases hs
  | raster =>
    cases hmade : imageSized width height with
    | ok made => simp [new, Kind.sheet, hmade, bind, Except.bind, pure, Except.pure] at hs
    | error fault' =>
      simp only [new, Kind.sheet, hmade] at hs
      cases hs
      exact ⟨rfl, rfl⟩

/-- a new surface has no size that there is no image of -/
theorem new_made {w₀ h₀ width height : Json} {s : Surface} {fault : Fault} (hs : new .raster w₀ h₀ = .ok s)
    (hunmade : imageSized width height = .error fault) : ¬ (s.width = width ∧ s.height = height) := by
  rintro ⟨hwidth, hheight⟩
  obtain ⟨hw, hh⟩ := new_size hs
  rw [← hw, ← hh, hwidth, hheight] at hs
  simp [new, Kind.sheet, hunmade, bind, Except.bind] at hs

theorem new_sound {kind : Kind} {w h : Int} {s : Surface} (hs : new kind (.int w) (.int h) = .ok s) : Sound s := by
  cases kind with
  | vector =>
    cases hs
    exact ⟨⟨w, h, rfl, rfl⟩, fun _ _ hsize => nomatch hsize⟩
  | raster =>
    cases hmade : imageSized (.int w) (.int h) with
    | error fault => simp [new, Kind.sheet, hmade] at hs
    | ok image =>
      simp only [new, Kind.sheet, hmade] at hs
      cases hs
      refine ⟨⟨w, h, rfl, rfl⟩, fun size made hsize hsized => ?_⟩
      cases hsize
      cases hmade.symm.trans hsized
      rfl

theorem cleared_emptied (s : Surface) (x y width height : Scalar) :
    Gives (fun sheet => sheet.emptied = s.sheet.emptied) (s.cleared x y width height) := by
  unfold Surface.cleared
  split_ifs
  · exact gives_pure.mpr rfl
  · cases s.sheet with
    | vector marks =>
      refine gives_bind fun covers => ?_
      split_ifs
      · exact gives_pure.mpr rfl
      · exact gives_bind fun mark => gives_pure.mpr rfl
    | raster image strokes =>
      refine gives_bind fun layer => ?_
      cases layer <;> exact gives_pure.mpr rfl

/-! ## One operation -/

/-- whether an operation leaves size and saved styles alone and takes nothing off the sheet -/
def Op.draws : Op → Bool
  | .save | .restore | .resize .. | .clearRect .. => false
  | _ => true

/-- whether an operation goes on from the path that is there -/
def Op.goesOn : Op → Bool
  | .moveTo .. | .lineTo .. | .arc .. | .closePath | .fill | .stroke => true
  | _ => false

/-- `s` is what `a` is, with what is on `base` below what is on the sheet; the paths are only the same if need be -/
structure Over (pathed : Bool) (base : Sheet) (a s : Surface) : Prop where
  style : a.style = s.style
  path : pathed = true → a.path = s.path
  blank : a.sheet.emptied = base.emptied
  sheet : s.sheet = base.followed a.sheet

section

variable {pathed : Bool} {base : Sheet} {a s : Surface}

theorem over_bare (s : Surface) : Over false s.sheet s.bare s :=
  ⟨rfl, (fun h => nomatch h), Sheet.emptied_emptied _, (Sheet.followed_emptied _).symm⟩

theorem Over.restyle (h : Over pathed base a s) (change : Style → Style) :
    Over pathed base (a.restyle change) (s.restyle change) :=
  ⟨congrArg change h.style, h.path, h.blank, h.sheet⟩

theorem Over.withPath (h : Over pathed base a s) (path : Path) :
    Over true base { a with path } { s with path } :=
  ⟨h.style, fun _ => rfl, h.blank, h.sheet⟩

theorem Over.grown (h : Over pathed base a s) {x y : Sheet} (hx : x.emptied = base.emptied)
    (hy : y = base.followed x) : Over pathed base { a with sheet := x } { s with sheet := y } :=
  ⟨h.style, h.path, hx, hy⟩

theorem Over.withSheet (h : Over pathed base a s) {x y : Except Fault Sheet} (hxy : y = x.map base.followed)
    (hx : ∀ sheet, x = .ok sheet → sheet.emptied = base.emptied) :
    Over pathed base (a.withSheet x).1 (s.withSheet y).1 ∧ (a.withSheet x).2 = (s.withSheet y).2 := by
  subst hxy
  cases x with
  | error fault => exact ⟨h, rfl⟩
  | ok sheet => exact ⟨h.grown (hx sheet rfl) rfl, rfl⟩

theorem Over.withMarks {below : List Mark} (h : Over pathed (.vector below) a s) {α : Type} (x : Except Fault α)
    (marks : List Mark) (more : α → List Mark) :
    Over pathed (.vector below) (a.withSheet (do return .vector (marks ++ more (← x)))).1
        (s.withSheet (do return .vector (below ++ marks ++ more (← x)))).1 ∧
      (a.withSheet (do return .vector (marks ++ more (← x)))).2 =
        (s.withSheet (do return .vector (below ++ marks ++ more (← x)))).2 := by
  cases x with
  | error fault => exact ⟨h, rfl⟩
  | ok value => exact ⟨h.grown rfl (by simp [Sheet.followed]), rfl⟩

/-- the sheets are of one kind -/
theorem Over.sheets (h : Over pathed base a s) :
    (∃ below marks, base = .vector below ∧ a.sheet = .vector marks ∧ s.sheet = .vector (below ++ marks)) ∨
    (∃ image strokes upper more, base = .raster image strokes ∧ a.sheet = .raster upper more ∧
      upper.width = image.width ∧ upper.height = image.height ∧
      s.sheet = .raster { image with layers := image.layers ++ upper.layers } (strokes ++ more)) := by
  have hs := h.sheet
  have hb := h.blank
  cases base with
  | vector below =>
    cases ha : a.sheet with
    | vector marks => exact .inl ⟨below, marks, rfl, rfl, by rw [hs, ha]; rfl⟩
    | raster upper more => rw [ha] at hb; cases hb
  | raster image strokes =>
    cases ha : a.sheet with
    | vector marks => rw [ha] at hb; cases hb
    | raster upper more =>
      rw [ha] at hb
      simp only [Sheet.emptied, Sheet.raster.injEq, Image.mk.injEq] at hb
      exact .inr ⟨image, strokes, upper, more, rfl, rfl, hb.1.1, hb.1.2.1, by rw [hs, ha]; rfl⟩

theorem Over.fillRect (h : Over pathed base a s) (x y width height : Scalar) :
    Over pathed base (a.fillRect x y width height).1 (s.fillRect x y width height).1 ∧
      (a.fillRect x y width height).2 = (s.fillRect x y width height).2 := by
  unfold Surface.fillRect
  split_ifs
  · exact ⟨h, rfl⟩
  obtain ⟨below, marks, rfl, ha, hs⟩ | ⟨image, strokes, upper, more, rfl, ha, hw, hh, hs⟩ := h.sheets
  · simp only [ha, hs, h.style]
    exact h.withMarks (filledMark s.style x y width height) marks fun mark => [mark]
  · simp only [ha, hs, h.style]
    cases filledBox s.style x y width height with
    | error fault => exact ⟨h, rfl⟩
    | ok box =>
      obtain ⟨layer, stroke | stroke⟩ := box <;>
        exact ⟨⟨rfl, h.path, by simp [Sheet.emptied, Image.lay, hw, hh], by simp [Sheet.followed, Image.lay]⟩, rfl⟩

theorem Over.strokeRect (h : Over pathed base a s) (x y width height : Scalar) :
    Over pathed base (a.strokeRect x y width height).1 (s.strokeRect x y width height).1 ∧
      (a.strokeRect x y width height).2 = (s.strokeRect x y width height).2 := by
  unfold Surface.strokeRect
  split_ifs
  · exact ⟨h, rfl⟩
  obtain ⟨below, marks, rfl, ha, hs⟩ | ⟨image, strokes, upper, more, rfl, ha, hw, hh, hs⟩ := h.sheets
  · simp only [ha, hs, h.style]
    exact h.withMarks (outlinedMark s.style x y width height) marks fun mark => [mark]
  · simp only [ha, hs, h.style]
    cases rectanglePath x y width height with
    | error fault => exact ⟨h, rfl⟩
    | ok outline => exact ⟨⟨rfl, h.path, by simp [Sheet.emptied, hw, hh], by simp [Sheet.followed]⟩, rfl⟩

theorem Over.fillPath (h : Over true base a s) :
    Over true base a.fillPath.1 s.fillPath.1 ∧ a.fillPath.2 = s.fillPath.2 := by
  unfold Surface.fillPath
  obtain ⟨below, marks, rfl, ha, hs⟩ | ⟨image, strokes, upper, more, rfl, ha, hw, hh, hs⟩ := h.sheets
  · simp only [ha, hs, h.style, h.path rfl]
    exact h.withMarks (filledPath s.style s.path) marks id
  · simp only [ha, hs, h.style, h.path rfl]
    cases inkOf s.style.fill with
    | error fault => exact ⟨h, rfl⟩
    | ok colour => exact ⟨⟨rfl, fun _ => rfl, by simp [Sheet.emptied, hw, hh], by simp [Sheet.followed]⟩, rfl⟩

theorem Over.strokePath (h : Over true base a s) :
    Over true base a.strokePath.1 s.strokePath.1 ∧ a.strokePath.2 = s.strokePath.2 := by
  unfold Surface.strokePath
  obtain ⟨below, marks, rfl, ha, hs⟩ | ⟨image, strokes, upper, more, rfl, ha, hw, hh, hs⟩ := h.sheets
  · simp only [ha, hs, h.style, h.path rfl]
    exact h.withMarks (outlinedPath s.style s.path) marks id
  · simp only [ha, hs, h.style, h.path rfl]
    exact ⟨⟨rfl, fun _ => rfl, by simp [Sheet.emptied, hw, hh], by simp [Sheet.followed]⟩, trivial⟩

variable [Metrics]

theorem Over.fillText (h : Over pathed base a s) (text : String) (x y : Scalar) :
    Over pathed base (a.withSheet (a.written text x y)).1 (s.withSheet (s.written text x y)).1 ∧
      (a.withSheet (a.written text x y)).2 = (s.withSheet (s.written text x y)).2 := by
  unfold Surface.written
  split_ifs
  · exact ⟨h.grown h.blank h.sheet, rfl⟩
  obtain ⟨below, marks, rfl, ha, hs⟩ | ⟨image, strokes, upper, more, rfl, ha, hw, hh, hs⟩ := h.sheets
  · simp only [ha, hs, h.style]
    exact h.withMarks (textMark s.style text x y) marks fun mark => [mark]
  · simp only [ha, hs, h.style]
    cases placedText s.style text x y with
    | error fault => exact ⟨h, rfl⟩
    | ok stroke => exact ⟨h.grown (by simp [Sheet.emptied, hw, hh]) (by simp [Sheet.followed]), rfl⟩

/-- an operation that draws does the same on a sheet with something on it as on an empty one -/
theorem apply_over (h : Over pathed base a s) {op : Op} (hdraws : op.draws = true)
    (hpath : op.goesOn = true → pathed = true) :
    Over pathed base (a.apply op).1 (s.apply op).1 ∧ (a.apply op).2 = (s.apply op).2 := by
  cases op with
  | fillRect x y width height => exact h.fillRect x y width height
  | strokeRect x y width height => exact h.strokeRect x y width height
  | fillText text x y => exact h.fillText text x y
  | fill => obtain rfl := hpath rfl; exact h.fillPath
  | stroke => obtain rfl := hpath rfl; exact h.strokePath
  | beginPath => exact ⟨⟨h.style, fun _ => rfl, h.blank, h.sheet⟩, rfl⟩
  | moveTo x y =>
    exact ⟨⟨h.style, fun _ => congrArg (Path.moveTo · (x, y)) (h.path (hpath rfl)), h.blank, h.sheet⟩, rfl⟩
  | lineTo x y =>
    exact ⟨⟨h.style, fun _ => congrArg (Path.lineTo · (x, y)) (h.path (hpath rfl)), h.blank, h.sheet⟩, rfl⟩
  | closePath => exact ⟨⟨h.style, fun _ => congrArg Path.close (h.path (hpath rfl)), h.blank, h.sheet⟩, rfl⟩
  | arc cx cy radius start stop anticlockwise =>
    simp only [apply, h.path (hpath rfl)]
    cases s.path.arc cx cy radius start stop anticlockwise with
    | error fault => exact ⟨h, rfl⟩
    | ok path => exact ⟨⟨h.style, fun _ => rfl, h.blank, h.sheet⟩, rfl⟩
  | save | restore | resize | clearRect => cases hdraws
  | fillStyle | strokeStyle | lineWidth | lineDash | font | textAlign | textBaseline =>
    simp only [apply]
    exact ⟨h.restyle _, trivial⟩

end

/-- `t` is `s` but for style, path and sheet -/
structure Redrawn (s t : Surface) : Prop where
  width : t.width = s.width
  height : t.height = s.height
  saved : t.saved = s.saved

theorem Redrawn.refl (s : Surface) : Redrawn s s := ⟨rfl, rfl, rfl⟩

theorem Redrawn.trans {s t u : Surface} (h : Redrawn s t) (h' : Redrawn t u) : Redrawn s u :=
  ⟨h'.width.trans h.width, h'.height.trans h.height, h'.saved.trans h.saved⟩

theorem Redrawn.eq {s t : Surface} (h : Redrawn s t) :
    t = { s with style := t.style, path := t.path, sheet := t.sheet } := by
  rw [← h.width, ← h.height, ← h.saved]

theorem withSheet_redrawn (s : Surface) (x : Except Fault Sheet) : Redrawn s (s.withSheet x).1 := by
  cases x <;> exact ⟨rfl, rfl, rfl⟩

theorem apply_redrawn [Metrics] (s : Surface) {op : Op} (hdraws : op.draws = true) : Redrawn s (s.apply op).1 := by
  cases op with
  | save | restore | resize | clearRect => cases hdraws
  | fillText => exact withSheet_redrawn s _
  | fillRect | strokeRect | fill | stroke | arc =>
    simp only [apply, fillRect, strokeRect, fillPath, strokePath]
    repeat' split
    all_goals first | exact ⟨rfl, rfl, rfl⟩ | exact withSheet_redrawn s _
  | _ => exact ⟨rfl, rfl, rfl⟩

/-! ## Runs -/

/-- whether an operation draws without a path -/
def Op.still (op : Op) : Bool := op.draws && !op.goesOn

/-- a program whose operations are all of one kind -/
def Only (kind : Op → Bool) (p : Program) : Prop := ∀ step ∈ p, Gives (kind · = true) step

/-- a program that draws, and that begins a path of its own before it goes on from one -/
structure Drawing (p : Program) : Prop where
  draws : Only Op.draws p
  path : p.head? = some (.ok .beginPath) ∨ Only Op.still p

section

variable {kind kind' : Op → Bool}

@[simp] theorem only_nil : Only kind [] := fun _ h => nomatch h

@[simp] theorem only_cons {step : Except Fault Op} {rest : Program} :
    Only kind (step :: rest) ↔ Gives (kind · = true) step ∧ Only kind rest := List.forall_mem_cons

@[simp] theorem only_append {p q : Program} : Only kind (p ++ q) ↔ Only kind p ∧ Only kind q := List.forall_mem_append

theorem Only.mono (h : ∀ op, kind op = true → kind' op = true) {p : Program} (hp : Only kind p) : Only kind' p :=
  fun step hstep => (hp step hstep).mono h

theorem Only.drawing {p : Program} (hp : Only Op.still p) : Drawing p :=
  ⟨hp.mono fun _ h => (Bool.and_eq_true_iff.mp h).1, .inr hp⟩

theorem drawing_begun {rest : Program} (h : Only Op.draws rest) : Drawing (.ok .beginPath :: rest) :=
  ⟨only_cons.mpr ⟨gives_ok.mpr rfl, h⟩, .inl rfl⟩

end

variable [Metrics]

theorem run_ok (s : Surface) (op : Op) (rest : Program) :
    s.run (.ok op :: rest) = match (s.apply op).2 with
      | none => (s.apply op).1.run rest
      | some fault => ((s.apply op).1, some fault) := by
  rw [run]
  rcases s.apply op with ⟨t, none | fault⟩ <;> rfl

theorem run_append (s : Surface) (p q : Program) :
    s.run (p ++ q) = match (s.run p).2 with
      | none => (s.run p).1.run q
      | some fault => ((s.run p).1, some fault) := by
  induction p generalizing s with
  | nil => rfl
  | cons step rest ih =>
    cases step with
    | error fault => rfl
    | ok op =>
      rw [List.cons_append, run_ok, run_ok]
      cases (s.apply op).2 with
      | none => exact ih _
      | some fault => rfl

/-- a run that fails stops at one of its steps: what comes after that counts for nothing -/
theorem run_stops {s : Surface} {p : Program} {fault : Fault} (h : (s.run p).2 = some fault) :
    ∃ before step rest, p = before ++ step :: rest ∧ (s.run before).2 = none ∧
      s.run p = s.run (before ++ [step]) := by
  induction p generalizing s with
  | nil => cases h
  | cons step rest ih =>
    cases step with
    | error fault => exact ⟨[], _, rest, rfl, rfl, rfl⟩
    | ok op =>
      rw [run_ok] at h
      cases hop : (s.apply op).2 with
      | some fault => exact ⟨[], _, rest, rfl, rfl, by simp [run_ok, hop]⟩
      | none =>
        simp only [hop] at h
        obtain ⟨before, step, rest, rfl, hbefore, hrun⟩ := ih h
        exact ⟨.ok op :: before, step, rest, rfl, by simp [run_ok, hop, hbefore], by simp [run_ok, hop, hrun]⟩

theorem run_redrawn (s : Surface) {p : Program} (hp : Only Op.draws p) : Redrawn s (s.run p).1 := by
  induction p generalizing s with
  | nil => exact Redrawn.refl s
  | cons step rest ih =>
    obtain ⟨hstep, hrest⟩ := only_cons.mp hp
    cases step with
    | error fault => exact Redrawn.refl s
    | ok op =>
      have hop := apply_redrawn s (hstep op rfl)
      rw [run_ok]
      cases (s.apply op).2 with
      | none => exact hop.trans (ih _ hrest)
      | some fault => exact hop

theorem run_over {pathed : Bool} {base : Sheet} {a s : Surface} (h : Over pathed base a s) {p : Program}
    (hp : Only (fun op => op.draws && (pathed || !op.goesOn)) p) :
    Over pathed base (a.run p).1 (s.run p).1 ∧ (a.run p).2 = (s.run p).2 := by
  induction p generalizing a s with
  | nil => exact ⟨h, rfl⟩
  | cons step rest ih =>
    obtain ⟨hstep, hrest⟩ := only_cons.mp hp
    cases step with
    | error fault => exact ⟨h, rfl⟩
    | ok op =>
      obtain ⟨hdraws, hpath⟩ := Bool.and_eq_true_iff.mp (hstep op rfl)
      obtain ⟨hop, hfault⟩ := apply_over h hdraws fun hgoes => by simpa [hgoes] using hpath
      rw [run_ok, run_ok, hfault]
      cases (s.apply op).2 with
      | none => exact ih hop hrest
      | some fault => exact ⟨hop, rfl⟩

/-- a drawing on a surface is the drawing on the bare surface, on top of what is there -/
theorem run_bare (s : Surface) {p : Program} (hp : Drawing p) :
    Over false s.sheet (s.bare.run p).1 (s.run p).1 ∧ (s.bare.run p).2 = (s.run p).2 := by
  rcases hp.path with hbegin | hstill
  · obtain ⟨rest, rfl⟩ := List.head?_eq_some_iff.mp hbegin
    have hrest : Only (fun op => op.draws && (true || !op.goesOn)) rest := by
      simpa using (only_cons.mp hp.draws).2
    obtain ⟨hrun, hfault⟩ := run_over ((over_bare s).withPath []) hrest
    exact ⟨⟨hrun.style, (fun h' => nomatch h'), hrun.blank, hrun.sheet⟩, hfault⟩
  · exact run_over (over_bare s) hstill

/-! ## Operations done -/

/-- the surface after operations, whether they fail or not -/
def after (s : Surface) (ops : List Op) : Surface := ops.foldl (fun s op => (s.apply op).1) s

/-- the operations of a program that are tried: up to the first that fails, which is one of them -/
def tried (s : Surface) : Program → List Op
  | [] => []
  | .error _ :: _ => []
  | .ok op :: rest =>
    op :: match (s.apply op).2 with
      | none => tried (s.apply op).1 rest
      | some _ => []

@[simp] theorem after_nil (s : Surface) : s.after [] = s := rfl

@[simp] theorem after_cons (s : Surface) (op : Op) (ops : List Op) :
    s.after (op :: ops) = (s.apply op).1.after ops := rfl

theorem after_append (s : Surface) (ops more : List Op) : s.after (ops ++ more) = (s.after ops).after more :=
  List.foldl_append

theorem after_tried (s : Surface) (p : Program) : s.after (s.tried p) = (s.run p).1 := by
  induction p generalizing s with
  | nil => rfl
  | cons step rest ih =>
    cases step with
    | error fault => rfl
    | ok op =>
      rw [tried, run_ok, after_cons]
      cases (s.apply op).2 with
      | none => exact ih _
      | some fault => rfl

theorem tried_append (s : Surface) (p q : Program) :
    s.tried (p ++ q) = s.tried p ++ match (s.run p).2 with
      | none => (s.run p).1.tried q
      | some _ => [] := by
  induction p generalizing s with
  | nil => rfl
  | cons step rest ih =>
    cases step with
    | error fault => rfl
    | ok op =>
      rw [List.cons_append, tried, tried, run_ok]
      cases (s.apply op).2 with
      | none => exact congrArg (op :: ·) (ih _)
      | some fault => rfl

theorem mem_of_tried {s : Surface} {p : Program} {op : Op} (h : op ∈ s.tried p) : .ok op ∈ p := by
  induction p generalizing s with
  | nil => cases h
  | cons step rest ih =>
    cases step with
    | error fault => cases h
    | ok first =>
      rw [tried] at h
      rcases List.mem_cons.mp h with rfl | h
      · exact List.mem_cons_self
      · cases hfault : (s.apply first).2 with
        | none => rw [hfault] at h; exact List.mem_cons_of_mem _ (ih h)
        | some fault => rw [hfault] at h; cases h

theorem tried_over {pathed : Bool} {base : Sheet} {a s : Surface} (h : Over pathed base a s) {p : Program}
    (hp : Only (fun op => op.draws && (pathed || !op.goesOn)) p) : a.tried p = s.tried p := by
  induction p generalizing a s with
  | nil => rfl
  | cons step rest ih =>
    obtain ⟨hstep, hrest⟩ := only_cons.mp hp
    cases step with
    | error fault => rfl
    | ok op =>
      obtain ⟨hdraws, hpath⟩ := Bool.and_eq_true_iff.mp (hstep op rfl)
      obtain ⟨hop, hfault⟩ := apply_over h hdraws fun hgoes => by simpa [hgoes] using hpath
      rw [tried, tried, hfault, ih hop hrest]

/-! ## Sizes that stay -/

theorem apply_emptied (s : Surface) {op : Op} (hdraws : op.draws = true) :
    (s.apply op).1.sheet.emptied = s.sheet.emptied := by
  have h : Over true s.sheet { s with sheet := s.sheet.emptied } s :=
    ⟨rfl, fun _ => rfl, Sheet.emptied_emptied _, (Sheet.followed_emptied _).symm⟩
  rw [(apply_over h hdraws fun _ => rfl).1.sheet, Sheet.emptied_followed]

/-- only a resize gives a surface another size -/
theorem apply_sizes (s : Surface) {op : Op} (hop : ∀ w h, op ≠ .resize w h) :
    (s.apply op).1.width = s.width ∧ (s.apply op).1.height = s.height ∧
      (s.apply op).1.sheet.emptied = s.sheet.emptied := by
  by_cases hdraws : op.draws = true
  · have hkept := apply_redrawn s hdraws
    exact ⟨hkept.width, hkept.height, apply_emptied s hdraws⟩
  · cases op with
    | save => exact ⟨rfl, rfl, rfl⟩
    | restore =>
      simp only [apply]
      cases s.saved <;> exact ⟨rfl, rfl, rfl⟩
    | clearRect x y width height =>
      simp only [apply]
      cases hcleared : s.cleared x y width height with
      | error fault => exact ⟨rfl, rfl, rfl⟩
      | ok sheet => exact ⟨rfl, rfl, cleared_emptied s x y width height sheet hcleared⟩
    | resize width height => exact absurd rfl (hop width height)
    | _ => exact absurd rfl hdraws

theorem apply_kind (s : Surface) (op : Op) : (s.apply op).1.sheet.kind = s.sheet.kind := by
  by_cases hresize : ∃ width height, op = .resize width height
  · obtain ⟨width, height, rfl⟩ := hresize
    simp only [apply, resize]
    cases hsheet : s.sheet with
    | vector marks => rfl
    | raster image strokes =>
      simp only [Sheet.resized]
      cases imageSized width height <;> rfl
  · exact Sheet.kind_congr (apply_sizes s fun w h heq => hresize ⟨w, h, heq⟩).2.2

theorem after_kind (s : Surface) (ops : List Op) : (s.after ops).sheet.kind = s.sheet.kind := by
  induction ops generalizing s with
  | nil => rfl
  | cons op rest ih => exact (ih _).trans (apply_kind s op)

/-- an operation keeps the image of the size that the surface has, whether the operation fails or not -/
theorem apply_sound {s : Surface} (hs : Sound s) {op : Op} (hop : op.Whole) : Sound (s.apply op).1 := by
  by_cases hresize : ∃ width height, op = .resize width height
  · obtain ⟨_, _, rfl⟩ := hresize
    obtain ⟨w, h, rfl, rfl⟩ := hop
    simp only [apply, resize]
    cases hsheet : s.sheet with
    | vector marks => exact ⟨⟨w, h, rfl, rfl⟩, fun _ _ hsize => nomatch hsize⟩
    | raster image strokes =>
      cases hmade : imageSized (.int w) (.int h) with
      | error fault =>
        simp only [Sheet.resized, hmade]
        exact ⟨⟨w, h, rfl, rfl⟩, fun _ _ _ hsized => nomatch hmade.symm.trans hsized⟩
      | ok made =>
        simp only [Sheet.resized, hmade]
        refine ⟨⟨w, h, rfl, rfl⟩, fun size made' hsize hsized => ?_⟩
        cases hsize
        cases hmade.symm.trans hsized
        rfl
  · obtain ⟨hwidth, hheight, hblank⟩ := apply_sizes s fun w h heq => hresize ⟨w, h, heq⟩
    obtain ⟨w, h, hw, hh⟩ := hs.sides
    refine ⟨⟨w, h, hwidth.trans hw, hheight.trans hh⟩, ?_⟩
    rw [hwidth, hheight, Sheet.size?_congr hblank]
    exact hs.image

theorem after_sound {s : Surface} (hs : Sound s) {ops : List Op} (hops : ∀ op ∈ ops, op.Whole) :
    Sound (s.after ops) := by
  induction ops generalizing s with
  | nil => exact hs
  | cons op rest ih =>
    exact ih (apply_sound hs (hops op List.mem_cons_self)) fun op' h => hops op' (List.mem_cons_of_mem _ h)

end SketchPanel.Surface

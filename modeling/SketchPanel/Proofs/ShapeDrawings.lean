/-
Programs of shapes and zones. Whatever an element or a zone is like, its program draws: it leaves size and saved styles
alone, takes nothing off the sheet, and begins a path of its own before it goes on from one.

Results:
- `program_drawing`: the program of any element draws.
- `zoneProgram_drawing`: so does that of any zone.
-/
import Mathlib.Tactic
import SketchPanel.Frame.Overlay
import SketchPanel.Proofs.SurfaceRuns

namespace SketchPanel.Frame

open Number Surface

theorem gives_worked {P : Op → Prop} {op : Except Scalar.Fault Op} (h : Gives P op) : Gives P (worked op) := by
  cases op with
  | error fault => exact gives_error
  | ok op => exact gives_ok.mpr (gives_ok.mp h)

theorem gives_sized {P : Op → Prop} {op : Scalar → Scalar → Op} (h : ∀ w h, P (op w h)) (width height : Json) :
    Gives P (sized op width height) := by
  unfold sized
  split
  · exact gives_ok.mpr (h _ _)
  · split_ifs
    · exact gives_ok.mpr (h _ _)
    · exact gives_error
  · exact gives_error

theorem painted_draws (fill : Option String) (outline : Option Json) : Only Op.draws (painted fill outline) := by
  cases fill <;> cases outline <;> simp [painted, Op.draws]

theorem rectangle_drawing (e : Element) : Drawing (rectangle e) := by
  have hfill : Gives (·.still = true) (sized (.fillRect e.x e.y) (extent e.width) (extent e.height)) :=
    gives_sized (P := (·.still = true)) (fun _ _ => rfl) _ _
  have hstroke : Gives (·.still = true) (sized (.strokeRect e.x e.y) (extent e.width) (extent e.height)) :=
    gives_sized (P := (·.still = true)) (fun _ _ => rfl) _ _
  refine Only.drawing ?_
  simp only [rectangle, only_append]
  constructor
  · cases given e.background with
    | none => exact only_nil
    | some c => exact only_cons.mpr ⟨gives_ok.mpr rfl, only_cons.mpr ⟨hfill, only_nil⟩⟩
  · cases outlineColour e with
    | none => exact only_nil
    | some c => exact only_cons.mpr ⟨gives_ok.mpr rfl, only_cons.mpr ⟨hstroke, only_nil⟩⟩

theorem roundedPath_drawing (left top right bottom r : Scalar) (fill : Option String) (outline : Option Json) :
    Drawing (roundedPath left top right bottom r ++ painted fill outline) := by
  have hside : ∀ (x : Except Scalar.Fault Scalar) (op : Scalar → Op), (∀ a, (op a).draws = true) →
      Gives (·.draws = true) (worked (x >>= fun a => pure (op a))) := fun x op h =>
    gives_worked (gives_bind fun a => gives_pure.mpr (h a))
  have hcorner : ∀ (x y : Except Scalar.Fault Scalar) (start stop : Scalar),
      Gives (·.draws = true) (worked (x >>= fun a => y >>= fun b => pure (.arc a b r start stop false))) :=
    fun x y start stop => gives_worked (gives_bind fun a => gives_bind fun b => gives_pure.mpr rfl)
  refine drawing_begun (only_append.mpr ⟨?_, painted_draws fill outline⟩)
  simp only [only_cons, hcorner, gives_ok, only_nil, and_true, true_and]
  exact ⟨hside _ (.moveTo · top) fun _ => rfl, hside _ (.lineTo · top) fun _ => rfl,
    hside _ (.lineTo right) fun _ => rfl, hside _ (.lineTo · bottom) fun _ => rfl,
    hside _ (.lineTo left) fun _ => rfl, rfl⟩

theorem roundedRectangle_drawing (e : Element) (radius : Option Int) : Drawing (roundedRectangle e radius) := by
  have hpath : Gives (fun outline => ∃ right bottom r, outline = roundedPath e.x e.y right bottom r)
      (roundedOutline e radius) :=
    gives_bind fun _ => gives_bind fun _ => gives_bind fun r => gives_bind fun right => gives_bind fun bottom =>
      gives_pure.mpr ⟨right, bottom, r, rfl⟩
  unfold roundedRectangle
  split
  · exact Only.drawing (by simp)
  · rename_i outline houtline
    obtain ⟨right, bottom, r, rfl⟩ := hpath outline houtline
    exact roundedPath_drawing _ _ right bottom r _ _

theorem circle_drawing (e : Element) (radius : Option Int) : Drawing (circle e radius) := by
  unfold circle
  extract_lets outline
  have harc : Gives (·.draws = true) outline :=
    gives_bind fun r => gives_bind fun cx => gives_bind fun cy => gives_pure.mpr rfl
  cases houtline : outline with
  | error fault => exact Only.drawing (by simp)
  | ok arc =>
    rw [houtline] at harc
    exact drawing_begun (only_cons.mpr ⟨harc, painted_draws _ _⟩)

theorem text_drawing (family : Json) (e : Element) (content : String) (size : Option Json) (font : Option String)
    (align : Option Scene.Align) (baseline : Option Scene.Baseline) :
    Drawing (text family e content size font align baseline) := by
  refine Only.drawing ?_
  unfold text
  split_ifs
  · exact only_nil
  · cases meant e.colour <;> simp [Op.still, Op.draws, Op.goesOn]

theorem bitmap_drawing (e : Element) : Drawing (bitmap e) := by
  have hfill : Gives (·.still = true) (sized (.fillRect e.x e.y) (bitmapSide e.width) (bitmapSide e.height)) :=
    gives_sized (P := (·.still = true)) (fun _ _ => rfl) _ _
  have hcaption : Gives (fun op : Op => op.still = true) (do
      return Op.fillText "IMG" (← middle e.x (bitmapSide e.width)) (← middle e.y (bitmapSide e.height))) :=
    gives_bind fun x => gives_bind fun y => gives_pure.mpr rfl
  refine Only.drawing ?_
  simp only [bitmap, only_cons, only_nil, gives_ok, hfill, hcaption, and_true]
  exact ⟨rfl, trivial, rfl, rfl, rfl, rfl⟩

theorem line_drawing (e : Element) (x2 y2 strokeWidth : Option Int) : Drawing (line e x2 y2 strokeWidth) := by
  unfold line
  split
  · refine drawing_begun ?_
    cases meant e.colour <;> cases strokeWidth.filter (· ≠ 0) <;> simp [Op.draws]
  · exact Only.drawing only_nil

/-- the program of an element draws -/
theorem program_drawing (family : Json) (e : Element) : Drawing (program family e) := by
  unfold program
  cases e.shape with
  | rectangle => exact rectangle_drawing e
  | roundedRectangle radius => exact roundedRectangle_drawing e radius
  | circle radius => exact circle_drawing e radius
  | text content size font align baseline => exact text_drawing family e content size font align baseline
  | bitmap => exact bitmap_drawing e
  | line x2 y2 strokeWidth => exact line_drawing e x2 y2 strokeWidth

/-- the program of a zone draws -/
theorem zoneProgram_drawing (z : Zone) (index : Int) (width : Except Fault Float) :
    Drawing (zoneProgram z index width) := by
  refine Only.drawing ?_
  unfold zoneProgram
  split
  · simp
  · refine only_append.mpr ⟨by simp [Op.still, Op.draws, Op.goesOn], ?_⟩
    split
    · simp
    · rename_i x y _
      have hbox : Gives (fun op : Op => op.still = true) (do return ← worked (labelBox x y (← width))) :=
        gives_bind fun w => gives_worked (gives_bind fun left => gives_bind fun top => gives_bind fun side =>
          gives_pure.mpr rfl)
      exact only_cons.mpr ⟨hbox, by simp [Op.still, Op.draws, Op.goesOn]⟩

end SketchPanel.Frame

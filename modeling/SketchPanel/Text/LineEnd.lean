/-
Line ends. A text read from a file may end its lines in any of three ways; afterwards every line ends in one.
-/
import SketchPanel.Text.Blank

namespace SketchPanel.Text

/-- every line end, whether one character or two, as a line feed -/
def evenLineEnds : List Char → List Char
  | [] => []
  | '\r' :: '\n' :: rest => '\n' :: evenLineEnds rest
  | '\r' :: rest => '\n' :: evenLineEnds rest
  | c :: rest => c :: evenLineEnds rest

/-- a text with a single kind of line end stays as it is -/
theorem evenLineEnds_of_no_return {text : List Char} (h : '\r' ∉ text) : evenLineEnds text = text := by
  induction text with
  | nil => rfl
  | cons c rest ih =>
    have hc : c ≠ '\r' := fun e => h (by simp [e])
    have hr : '\r' ∉ rest := fun m => h (by simp [m])
    rw [evenLineEnds, ih hr]
    · rintro rest' rfl; exact absurd rfl hc
    · rintro rfl; exact absurd rfl hc

end SketchPanel.Text

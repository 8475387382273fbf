/-
Scanning a text from the left. A scanner takes the text still to be read and answers with what it read and the
rest, or with none. `search` finds the leftmost place where a scanner succeeds.
-/
import SketchPanel.Text.Blank
import SketchPanel.Text.Word

namespace SketchPanel.Text

/-- the rest of a text after the literal it starts with -/
def after? : List Char → List Char → Option (List Char)
  | [], text => some text
  | _ :: _, [] => none
  | c :: literal, d :: text => if c = d then after? literal text else none

/-- the longest run of such characters at the start, if there is at least one, and the rest -/
def run? (such : Char → Bool) (text : List Char) : Option (List Char × List Char) :=
  match text.takeWhile such with
  | [] => none
  | c :: cs => some (c :: cs, text.dropWhile such)

/-- the rest after one or more blanks -/
def blanks? (text : List Char) : Option (List Char) := (run? isBlank text).map (·.2)

/-- the rest after any blanks and then the literal -/
def token? (literal : List Char) (text : List Char) : Option (List Char) :=
  after? literal (trimStart text)

/-- the leftmost place where the scanner succeeds. The scanner is told the character before the place. -/
def search {α : Type} (scan : Option Char → List Char → Option (α × List Char)) :
    Option Char → List Char → Option (α × List Char)
  | before, [] => scan before []
  | before, c :: rest =>
    match scan before (c :: rest) with
    | some found => some found
    | none => search scan (some c) rest

/-- whether the literal occurs somewhere in the text -/
def occurs (literal : List Char) : List Char → Bool
  | [] => literal.isEmpty
  | c :: rest => (after? literal (c :: rest)).isSome || occurs literal rest

/-- the pieces between separators; a text without a separator is one piece -/
def pieces (separator : Char) : List Char → List (List Char)
  | [] => [[]]
  | c :: rest =>
    if c = separator then [] :: pieces separator rest
    else match pieces separator rest with
      | [] => [[c]]
      | piece :: more => (c :: piece) :: more

/-- the lines of a text, without their line ends -/
def lines (text : List Char) : List (List Char) := pieces '\n' text

/-- texts side by side with a separator between neighbours -/
def join (separator : List Char) : List (List Char) → List Char
  | [] => []
  | [text] => text
  | text :: more => text ++ separator ++ join separator more

theorem pieces_ne_nil (separator : Char) (text : List Char) : pieces separator text ≠ [] := by
  cases text with
  | nil => simp [pieces]
  | cons c rest =>
    simp only [pieces]
    split
    · simp
    · split <;> simp

theorem after?_append (literal rest : List Char) : after? literal (literal ++ rest) = some rest := by
  induction literal with
  | nil => rfl
  | cons c literal ih => simp [after?, ih]

/-- what a literal scan accepts is the literal followed by what it leaves -/
theorem eq_append_of_after? {literal text rest : List Char} (h : after? literal text = some rest) :
    text = literal ++ rest := by
  induction literal generalizing text with
  | nil => simpa [after?] using h
  | cons c literal ih =>
    cases text with
    | nil => simp [after?] at h
    | cons d text =>
      by_cases e : c = d
      · subst e
        simp only [after?, if_true] at h
        rw [ih h]; rfl
      · simp [after?, e] at h

/-- a run and its rest make up the text -/
theorem append_eq_of_run? {such : Char → Bool} {text run rest : List Char}
    (h : run? such text = some (run, rest)) : run ++ rest = text := by
  unfold run? at h
  split at h
  · simp at h
  · rename_i c cs e
    simp only [Option.some.injEq, Prod.mk.injEq] at h
    rw [← h.1, ← h.2, ← e, List.takeWhile_append_dropWhile]

/-- joining the pieces with the separator gives the text back -/
theorem join_pieces (separator : Char) (text : List Char) : join [separator] (pieces separator text) = text := by
  induction text with
  | nil => rfl
  | cons c rest ih =>
    simp only [pieces]
    split
    · rename_i e
      cases h : pieces separator rest with
      | nil => exact absurd h (pieces_ne_nil _ _)
      | cons piece more => rw [h] at ih; simp [join, ih, e]
    · cases h : pieces separator rest with
      | nil => exact absurd h (pieces_ne_nil _ _)
      | cons piece more =>
        rw [h] at ih
        cases more with
        | nil => simpa [join] using ih
        | cons p ps => simpa [join] using ih

end SketchPanel.Text

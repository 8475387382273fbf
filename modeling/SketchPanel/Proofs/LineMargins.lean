/-
Blanks around the lines of a sketch. Every phase of the reading sees no more of a line than what trimming leaves of it,
so indentation and the kind of line ends make no difference to the outline.

Results:
- `includesOf_trim`, `statesOf_trim`, `variablesOf_trim`, `functionsOf_trim`, `screens_trim`, `geometryOf_trim`: the
  phases, each on trimmed lines.
- `extract_of_trimmed`: a sketch is read by its trimmed lines.
- `extract_padded`: blanks around the lines change nothing.
-/
import Mathlib.Tactic
import SketchPanel.Proofs.TrimmedReaders

namespace SketchPanel.Sketch

open SketchPanel.Text SketchPanel.Number SketchPanel.Scene

/-! ## Declarations -/

theorem includesOf_trim (lines : List Line) : includesOf (lines.map trim) = includesOf lines := by
  rw [includesOf, List.filterMap_map]
  refine List.filterMap_congr fun line _ => ?_
  show (include? (trim line)).map _ = (include? line).map _
  rcases same_fst (include?_trim line) with ⟨hx, hy⟩ | ⟨target, rest, rest', hx, hy⟩ <;> rw [hx, hy]
  rfl

theorem statesOn_trim (line : Line) : statesOn (trim line) = statesOn line := by
  unfold statesOn
  rcases same_fst (enumeration?_trim line) with ⟨hx, hy⟩ | ⟨e, rest, rest', hx, hy⟩ <;>
    rcases same_fst (stateBinding?_trim line) with ⟨hx', hy'⟩ | ⟨b, rest, rest', hx', hy'⟩ <;>
      rw [hx, hy, hx', hy']

theorem statesOf_trim (lines : List Line) : statesOf (lines.map trim) = statesOf lines := by
  rw [statesOf, statesOf, List.flatMap_map]
  exact congrArg (List.flatMap · lines) (funext statesOn_trim)

/-- what is read off lines with their places is read off the trimmed lines -/
theorem places_trim {β : Type} {read : Line × Nat → Option β} (h : ∀ line i, read (trim line, i) = read (line, i))
    (lines : List Line) : (lines.map trim).zipIdx.filterMap read = lines.zipIdx.filterMap read := by
  rw [List.zipIdx_map, List.filterMap_map]
  exact List.filterMap_congr fun place _ => h place.1 place.2

theorem variablesOf_trim (lines : List Line) : variablesOf (lines.map trim) = variablesOf lines := by
  refine places_trim (fun line i => ?_) lines
  show (variableHeader? (trim line)).map _ = (variableHeader? line).map _
  rcases same_fst (variableHeader?_trim line) with ⟨hx, hy⟩ | ⟨header, rest, rest', hx, hy⟩ <;> rw [hx, hy]
  rfl

theorem functionsOf_trim (lines : List Line) : functionsOf (lines.map trim) = functionsOf lines := by
  refine places_trim (fun line i => ?_) lines
  show functionOn (trim line, i) = functionOn (line, i)
  unfold functionOn
  rcases same_fst (function?_trim line) with ⟨hx, hy⟩ | ⟨header, rest, rest', hx, hy⟩ <;> rw [hx, hy]
  rfl

/-! ## Bodies and screens -/

theorem balance_trim (line : Line) : balance (trim line) = balance line := by
  obtain ⟨left, right, hleft, hright, h⟩ := exists_trim line
  have hnone : ∀ (c : Char) (blanks : Line), isBlank c = false → (∀ b ∈ blanks, isBlank b = true) →
      blanks.count c = 0 := by
    intro c blanks hc hb
    rw [List.count_eq_zero]
    intro hmem
    rw [hb c hmem] at hc
    cases hc
  conv_rhs => rw [balance, h]
  simp only [List.count_append, hnone '{' _ (by decide) hleft, hnone '{' _ (by decide) hright,
    hnone '}' _ (by decide) hleft, hnone '}' _ (by decide) hright, zero_add, add_zero]
  rfl

@[simp] theorem calls_trim (o : Options) (line : Line) : calls o (trim line) = calls o line := by
  rw [calls, calls, trim_trim]

@[simp] theorem opens_trim (name line : Line) : opens name (trim line) = opens name line := by
  rw [opens, opens, trim_trim]

theorem closing_trim (depth : Int) (index : Nat) (lines : List Line) :
    closing depth index (lines.map trim) = closing depth index lines := by
  induction lines generalizing depth index with
  | nil => rfl
  | cons line rest ih => rw [List.map_cons, closing, closing, balance_trim, ih]

theorem bodyFrom_trim (name : Line) (index : Nat) (lines : List Line) :
    bodyFrom name index (lines.map trim) = bodyFrom name index lines := by
  induction lines generalizing index with
  | nil => rfl
  | cons line rest ih => rw [List.map_cons, bodyFrom, bodyFrom, opens_trim, closing_trim, ih]

theorem drawnBody_trim (lines : List Line) (f : Function) : drawnBody (lines.map trim) f = drawnBody lines f := by
  rw [drawnBody, drawnBody, body, body, ← List.map_drop, bodyFrom_trim]

theorem window_trim (o : Options) (index : Int) (following : List Line) :
    window o index (following.map trim) = (window o index following).map (List.map trim) := by
  unfold window
  split
  · simp [Except.map]
  · rw [List.length_map]
    split <;> rfl
  · rfl

theorem actionOf_trim (o : Options) (rest : Line) (index : Int) (following : List Line) :
    actionOf o rest index (following.map trim) = actionOf o rest index following := by
  unfold actionOf
  split
  · rfl
  · rw [window_trim]
    cases window o index following with
    | error fault => rfl
    | ok lines => simp [Except.map, bind, Except.bind, Function.comp_def]

theorem zoneOf_trim (o : Options) (line : Line) (index : Int) (following : List Line) :
    zoneOf o line index (following.map trim) = zoneOf o line index following := by
  simp only [zoneOf, actionOf_trim]

theorem contents_trim (o : Options) (count index : Nat) (lines : List Line) (number : Int) :
    contents o count index (lines.map trim) number = contents o count index lines number := by
  induction count generalizing index lines number with
  | zero => rfl
  | succ count ih =>
    cases lines with
    | nil => rfl
    | cons line following => simp only [List.map_cons, contents, calls_trim, trim_trim, zoneOf_trim, ih]

theorem callCount_trim (o : Options) (count : Nat) (lines : List Line) :
    callCount o count (lines.map trim) = callCount o count lines := by
  simp only [callCount, ← List.map_take, List.flatMap_map, calls_trim]

theorem screensOf_trim (o : Options) (lines : List Line) (functions : List Function) (number : Int) :
    screensOf o (lines.map trim) functions number = screensOf o lines functions number := by
  induction functions generalizing number with
  | nil => rfl
  | cons f functions ih =>
    simp only [screensOf, drawnBody_trim, ← List.map_drop, contents_trim, callCount_trim, ih]

theorem screens_trim (o : Options) (lines : List Line) (functions : List Function) :
    screens o (lines.map trim) functions = screens o lines functions := by
  simp only [screens, List.length_map, contents_trim, screensOf_trim]

/-! ## The outline -/

theorem firstRotation_trim (lines : List Line) : firstRotation (lines.map trim) = firstRotation lines := by
  induction lines with
  | nil => rfl
  | cons line rest ih =>
    rw [List.map_cons, firstRotation, firstRotation, ih, rotation?, rotation?]
    rcases same_fst (rotationAt_tight.search_trim line) with ⟨hx, hy⟩ | ⟨digits, after, after', hx, hy⟩ <;> rw [hx, hy]
    dsimp only
    cases readDigits digits <;> rfl

theorem geometryOf_trim (o : Options) (lines : List Line) : geometryOf o (lines.map trim) = geometryOf o lines := by
  simp only [geometryOf, firstRotation_trim]

/-- **A sketch is read by its trimmed lines.** Sketches with the same lines but for blanks at their ends have the same
outline, and their readings leave the same log. -/
theorem extract_of_trimmed (o : Options) {source other : String}
    (h : (lines source.toList).map trim = (lines other.toList).map trim) : extract o source = extract o other := by
  have hread : ∀ {β : Type} (read : List Line → β), (∀ lines, read (lines.map trim) = read lines) →
      read (lines source.toList) = read (lines other.toList) := by
    intro β read htrim
    rw [← htrim, h, htrim]
  have hscreens : ∀ functions, screens o (lines source.toList) functions = screens o (lines other.toList) functions :=
    fun functions => hread (screens o · functions) (screens_trim o · functions)
  simp only [extract, hread includesOf includesOf_trim, hread statesOf statesOf_trim,
    hread variablesOf variablesOf_trim, hread functionsOf functionsOf_trim, hscreens,
    hread (geometryOf o) (geometryOf_trim o), hread List.length (fun _ => List.length_map _)]

/-! ## Margins -/

/-- what may be put in front of a line and behind it: blanks that end no line -/
structure Margins where
  before : Line
  after : Line
  blank : ∀ c ∈ before ++ after, isBlank c = true
  sameLine : '\n' ∉ before ++ after

/-- a line between its margins -/
def Margins.around (m : Margins) (line : Line) : Line := m.before ++ line ++ m.after

theorem Margins.trim_around (m : Margins) (line : Line) : trim (m.around line) = trim line :=
  trim_margins (fun c hc => m.blank c (List.mem_append_left _ hc)) fun c hc => m.blank c (List.mem_append_right _ hc)

/-- a source with margins around each of its lines -/
def padded (margins : ℕ → Margins) (source : String) : String :=
  .ofList (join ['\n'] ((lines source.toList).mapIdx fun i line => (margins i).around line))

theorem lines_padded (margins : ℕ → Margins) (source : String) :
    lines (padded margins source).toList = (lines source.toList).mapIdx fun i line => (margins i).around line := by
  rw [padded, String.toList_ofList]
  have hne : (lines source.toList).mapIdx (fun i line => (margins i).around line) ≠ [] := by
    rw [ne_eq, List.mapIdx_eq_nil_iff]
    exact pieces_ne_nil _ _
  refine pieces_join hne fun line hl => ?_
  obtain ⟨i, hi, rfl⟩ := List.mem_mapIdx.1 hl
  have hline := not_mem_pieces (List.getElem_mem hi)
  simp only [Margins.around, List.mem_append, not_or]
  have hsame := (margins i).sameLine
  rw [List.mem_append, not_or] at hsame
  exact ⟨⟨hsame.1, hline⟩, hsame.2⟩

/-- **Indentation and line ends.** Whatever blanks are put in front of the lines of a sketch and behind them, its outline
is the same, down to places, ids, actions and findings, and so is the log of its reading. -/
theorem extract_padded (o : Options) (margins : ℕ → Margins) (source : String) :
    extract o (padded margins source) = extract o source := by
  refine extract_of_trimmed o (List.ext_getElem ?_ fun i hi hi' => ?_)
  · rw [lines_padded, List.length_map, List.length_map, List.length_mapIdx]
  · simp only [lines_padded, List.getElem_map, List.getElem_mapIdx, Margins.trim_around]

end SketchPanel.Sketch

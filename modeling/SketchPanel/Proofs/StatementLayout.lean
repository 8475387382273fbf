/-
Statements on lines. A line that ends with a semicolon outside any literal can be put in front of the next one with a
space between: the statements of the long line are those of both lines in a row. What else is counted in lines is the
place of a header and the end of a body, and neither a line without a header nor one without a brace has a say in
these. So the screens stay as they are, touch zones apart, which are named for their lines.

Results:
- `segments_split`: a semicolon outside literals splits the scan.
- `statements_trim`: blanks around a line are in none of its statements.
- `callsOn_joined`: the calls of the long line are those of both.
- `inside_body`: the lines of a body can be told without their places.
- `functionsOf_joined`: the headers stay, and those below move up by one.
- `screens_joined`: the screens stay.
Witness:
- `screens_together`: a text with a semicolon in it, and behind it a call that draws nothing.
-/
import Mathlib.Tactic
import SketchPanel.Proofs.ScreenPlans
import SketchPanel.Proofs.TrailingBlanks

namespace SketchPanel.Sketch

open SketchPanel.Text SketchPanel.Scene

/-! ## Segments and statements -/

section Segments

variable {q : Quoting} {front text rest left right blanks : Line}

theorem segments_ne_nil (q : Quoting) (text : Line) : segments q text ≠ [] := by
  cases text with
  | nil => simp [segments]
  | cons c rest =>
    rw [segments]
    split_ifs
    · simp
    · cases segments (q.step c) rest <;> simp [onFirst]

theorem onFirst_append (c : Char) {pieces : List Line} (h : pieces ≠ []) (more : List Line) :
    onFirst c (pieces ++ more) = onFirst c pieces ++ more := by
  obtain ⟨piece, others, rfl⟩ := List.exists_cons_of_ne_nil h
  rfl

/-- a semicolon that stands outside literals splits the scan -/
theorem segments_split (h : front.foldl Quoting.step q = .outside) :
    segments q (front ++ ';' :: rest) = segments q front ++ segments .outside rest := by
  induction front generalizing q with
  | nil =>
    obtain rfl : q = .outside := h
    rfl
  | cons c front ih =>
    rw [List.cons_append, segments, segments]
    split_ifs with hsplit
    · obtain ⟨rfl, rfl⟩ := hsplit
      have hfront : front.foldl Quoting.step .outside = .outside := h
      rw [ih hfront, List.cons_append]
    · rw [ih h, onFirst_append c (segments_ne_nil _ _)]

theorem segments_single (h : ';' ∉ text) : segments q text = [text] := by
  induction text generalizing q with
  | nil => rfl
  | cons c rest ih =>
    obtain ⟨hc, hrest⟩ := not_or.1 (mt List.mem_cons.2 h)
    rw [segments, if_neg fun hsplit => hc hsplit.2.symm, ih hrest]
    rfl

theorem onFirst_alike (c : Char) {pieces others : List Line} (h : List.Forall₂ Alike pieces others) :
    List.Forall₂ Alike (onFirst c pieces) (onFirst c others) := by
  cases h with
  | nil => exact .cons rfl .nil
  | cons hfirst hmore => exact .cons (hfirst.cons c) hmore

/-- blanks at the end of a text are at the end of its last segment -/
theorem segments_alike (hb : ∀ c ∈ blanks, isBlank c = true) :
    List.Forall₂ Alike (segments q (text ++ blanks)) (segments q text) := by
  induction text generalizing q with
  | nil =>
    have hnone : ';' ∉ blanks := fun hmem => absurd (hb _ hmem) (by decide)
    rw [List.nil_append, segments_single hnone]
    have halike : Alike ([] ++ blanks) [] := Alike.of_blanks hb
    exact .cons halike .nil
  | cons c rest ih =>
    rw [List.cons_append, segments, segments]
    split_ifs
    · exact .cons rfl ih
    · exact onFirst_alike c ih

/-- a blank is no part of a literal's bounds, so it leaves the scan outside -/
theorem step_blank {c : Char} (h : isBlank c = true) : Quoting.step .outside c = .outside := by
  have hquote : c ≠ '"' := by
    rintro rfl
    exact absurd h (by decide)
  simp [Quoting.step, hquote]

theorem foldl_step_blanks (hb : ∀ c ∈ blanks, isBlank c = true) : blanks.foldl Quoting.step .outside = .outside := by
  induction blanks with
  | nil => rfl
  | cons c blanks ih =>
    rw [List.forall_mem_cons] at hb
    rw [List.foldl_cons, step_blank hb.1, ih hb.2]

theorem map_trim_segments_blanks (hb : ∀ c ∈ blanks, isBlank c = true) (text : Line) :
    (segments .outside (blanks ++ text)).map trim = (segments .outside text).map trim := by
  induction blanks with
  | nil => rfl
  | cons c blanks ih =>
    rw [List.forall_mem_cons] at hb
    have hplain : ¬ (Quoting.outside = .outside ∧ c = ';') := by
      rintro ⟨-, rfl⟩
      exact absurd hb.1 (by decide)
    rw [List.cons_append, segments, if_neg hplain, step_blank hb.1, ← ih hb.2]
    obtain ⟨piece, more, hpieces⟩ := List.exists_cons_of_ne_nil (segments_ne_nil .outside (blanks ++ text))
    rw [hpieces, onFirst, List.map_cons, List.map_cons]
    have hpiece : trim ([c] ++ piece ++ []) = trim piece := trim_margins (by simpa using hb.1) (by simp)
    rw [List.append_nil, List.singleton_append] at hpiece
    rw [hpiece]

/-- blanks around a line are in none of its statements -/
theorem statements_margins (hl : ∀ c ∈ left, isBlank c = true) (hr : ∀ c ∈ right, isBlank c = true) (text : Line) :
    statements (left ++ text ++ right) = statements text := by
  rw [statements, statements, map_trim_alike (segments_alike hr), map_trim_segments_blanks hl]

@[simp] theorem statements_trim (line : Line) : statements (trim line) = statements line := by
  obtain ⟨left, right, hl, hr, h⟩ := exists_trim line
  conv_rhs => rw [h, statements_margins hl hr]

/-- the statements up to a semicolon outside literals, and those behind it -/
theorem statements_split (h : front.foldl Quoting.step .outside = .outside) (rest : Line) :
    statements (front ++ ';' :: rest) = statements front ++ statements rest := by
  simp only [statements, segments_split h, List.map_append, List.filter_append]

end Segments

/-! ## Two lines as one -/

/-- whether a line ends with a semicolon that stands outside any literal, blanks behind it apart -/
def EndsStatement (line : Line) : Prop :=
  ∃ front, trim line = front ++ [';'] ∧ front.foldl Quoting.step .outside = .outside

/-- two lines as one, with a space between them -/
def joined (first second : Line) : Line := first ++ ' ' :: second

variable {o : Options} {name first second : Line} {before after : List Line}

theorem statements_joined (h : EndsStatement first) :
    statements (joined first second) = statements first ++ statements second := by
  obtain ⟨front, htrim, hfront⟩ := h
  obtain ⟨left, right, hl, hr, hfirst⟩ := exists_trim first
  have hopen : (left ++ front).foldl Quoting.step .outside = .outside := by
    rw [List.foldl_append, foldl_step_blanks hl, hfront]
  have hlong : joined first second = (left ++ front) ++ ';' :: (right ++ [' '] ++ second) := by
    rw [joined, hfirst, htrim]
    simp
  have hshort : statements first = statements (left ++ front) := by
    rw [hfirst, htrim, ← List.append_assoc, List.append_assoc, List.singleton_append, statements_split hopen]
    have hnone : statements ([] ++ [] ++ right) = [] := statements_margins (by simp) hr []
    rw [show statements right = [] from hnone, List.append_nil]
  have hgap : ∀ c ∈ right ++ [' '], isBlank c = true := by
    intro c hc
    rcases List.mem_append.1 hc with hc | hc
    · exact hr c hc
    · rw [List.mem_singleton.1 hc]
      exact isBlank_space
  have hsecond : statements (right ++ [' '] ++ second ++ []) = statements second :=
    statements_margins hgap (by simp) second
  rw [List.append_nil] at hsecond
  rw [hlong, statements_split hopen, hshort, hsecond]

theorem callsOn_eq (o : Options) (line : Line) : callsOn o line =
    match o.apiPrefix with
    | .str mark => (statements line).filter (occurs mark.toList)
    | _ => [] := by
  rw [callsOn, calls, statements_trim]
  cases o.apiPrefix <;> first | rfl | (cases statements line <;> rfl)

/-- **Calls of the long line.** They are the calls of both lines in a row. -/
theorem callsOn_joined (h : EndsStatement first) :
    callsOn o (joined first second) = callsOn o first ++ callsOn o second := by
  simp only [callsOn_eq, statements_joined h]
  cases o.apiPrefix <;> simp

/-- two lines that can be put on one: no brace and no header is on either or comes about, and the first one ends with a
semicolon outside literals -/
structure Joinable (first second : Line) : Prop where
  braces : ∀ line ∈ [first, second], '{' ∉ line ∧ '}' ∉ line
  headers : ∀ line ∈ [first, second, joined first second], function? line = none
  ends : EndsStatement first

namespace Joinable

theorem braces_joined (h : Joinable first second) :
    ∀ line ∈ [first, second, joined first second], '{' ∉ line ∧ '}' ∉ line := by
  have hfirst := h.braces first (by simp)
  have hsecond := h.braces second (by simp)
  simp only [List.forall_mem_cons]
  refine ⟨hfirst, hsecond, ?_, by simp⟩
  simp [joined, hfirst, hsecond]

theorem balance_eq (h : Joinable first second) {line : Line} (hl : line ∈ [first, second, joined first second]) :
    balance line = 0 := by
  obtain ⟨hopen, hclose⟩ := h.braces_joined line hl
  rw [balance, List.count_eq_zero.2 hopen, List.count_eq_zero.2 hclose]
  rfl

theorem opens_eq (h : Joinable first second) {line : Line} (hl : line ∈ [first, second, joined first second]) :
    opens name line = false := by
  have hnone : '{' ∉ trim line := fun hmem => (h.braces_joined line hl).1 ((trim_within line).subset hmem)
  rw [opens, Bool.and_eq_false_iff]
  exact Or.inr (by simpa using hnone)

end Joinable

/-! ## Bodies without places -/

/-- the lines up to the one that closes, read from the given depth -/
def linesWithin (depth : Int) : List Line → List Line
  | [] => []
  | line :: rest => if depth + balance line ≤ 0 then [] else line :: linesWithin (depth + balance line) rest

/-- the lines of the body that opens on the first line that may open it -/
def bodyLines (name : Line) : List Line → List Line
  | [] => []
  | line :: rest => if opens name line then linesWithin 1 rest else bodyLines name rest

theorem take_closing (depth : Int) (index : Nat) (lines : List Line) :
    lines.take ((closing depth index lines).1 - index) = linesWithin depth lines := by
  induction lines generalizing depth index with
  | nil => rw [List.take_nil]; rfl
  | cons line rest ih =>
    rw [closing, linesWithin]
    split_ifs with hclosed
    · rw [Nat.sub_self, List.take_zero]
    · have hge : index + 1 + 0 ≤ (closing (depth + balance line) (index + 1) rest).1 :=
        closing_ge (Nat.zero_le _) (fun j hj => absurd hj (Nat.not_lt_zero j)) (index + 1)
      rw [show (closing (depth + balance line) (index + 1) rest).1 - index =
        (closing (depth + balance line) (index + 1) rest).1 - (index + 1) + 1 by omega, List.take_succ_cons, ih]

theorem inside_bodyFrom {lines rest : List Line} {index : Nat} (h : lines.drop index = rest) :
    (bodyFrom name index rest).inside lines = bodyLines name rest := by
  induction rest generalizing index with
  | nil => rfl
  | cons line rest ih =>
    have hrest : lines.drop (index + 1) = rest := by rw [← List.drop_drop, h]; rfl
    rw [bodyFrom, bodyLines]
    split_ifs
    · rw [Body.inside, hrest]
      exact take_closing 1 (index + 1) rest
    · exact ih hrest

/-- the lines of a body can be told without their places -/
theorem inside_body (lines : List Line) (name : Line) (searchFrom : Int) :
    (body lines name searchFrom).inside lines = bodyLines name (lines.drop searchFrom.toNat) :=
  inside_bodyFrom rfl

/-- lines that close nothing may be joined -/
theorem linesWithin_joined (h : Joinable first second) {depth : Int} (hdepth : 0 < depth) :
    (linesWithin depth (before ++ joined first second :: after)).flatMap (callsOn o) =
      (linesWithin depth (before ++ first :: second :: after)).flatMap (callsOn o) := by
  have hbalance : ∀ line ∈ [first, second, joined first second], balance line = 0 := fun line hl => h.balance_eq hl
  induction before generalizing depth with
  | nil =>
    simp only [List.nil_append, linesWithin, hbalance first (by simp), hbalance second (by simp),
      hbalance (joined first second) (by simp), add_zero, if_neg (not_le.2 hdepth), List.flatMap_cons,
      callsOn_joined h.ends, List.append_assoc]
  | cons line before ih =>
    simp only [List.cons_append, linesWithin]
    split_ifs with hclosed
    · -- the body ends above the two lines
      rfl
    · rw [List.flatMap_cons, List.flatMap_cons, ih (not_le.1 hclosed)]

/-- lines that open and close nothing may be joined -/
theorem bodyLines_joined (h : Joinable first second) :
    (bodyLines name (before ++ joined first second :: after)).flatMap (callsOn o) =
      (bodyLines name (before ++ first :: second :: after)).flatMap (callsOn o) := by
  have hopens : ∀ line ∈ [first, second, joined first second], opens name line = false := fun line hl => h.opens_eq hl
  induction before with
  | nil =>
    simp only [List.nil_append, bodyLines, hopens first (by simp), hopens second (by simp),
      hopens (joined first second) (by simp), Bool.false_eq_true, if_false]
  | cons line before ih =>
    simp only [List.cons_append, bodyLines]
    split_ifs
    · -- the body opens above the two lines, at depth one
      exact linesWithin_joined h one_pos
    · exact ih

/-! ## Headers -/

/-- a header with its line moved up by one, if it stands below so many lines -/
def raised (count : Nat) (f : Function) : Function := if f.line ≤ count then f else { f with line := f.line - 1 }

theorem raised_name (count : Nat) (f : Function) : (raised count f).name = f.name := by
  rw [raised]
  split_ifs <;> rfl

theorem functionOn_raised {line : Line} {count index : Nat} (h : count ≤ index) :
    (functionOn (line, index + 1)).map (raised count) = functionOn (line, index) := by
  rw [functionOn, functionOn, Option.map_map]
  congr 1
  funext found
  rw [Function.comp_apply, raised, if_neg (by push_cast; omega)]
  congr 1
  push_cast
  ring

theorem functionOn_kept {line : Line} {count index : Nat} (h : index < count) :
    (functionOn (line, index)).map (raised count) = functionOn (line, index) := by
  rw [functionOn, Option.map_map]
  congr 1
  funext found
  rw [Function.comp_apply, raised, if_pos (by push_cast; omega)]

theorem functionOn_none {line : Line} (h : function? line = none) (index : Nat) : functionOn (line, index) = none := by
  rw [functionOn, h]
  rfl

/-- **Headers of the long sketch.** They are the same, and those below the two lines have moved up by one. -/
theorem functionsOf_joined (h : Joinable first second) :
    functionsOf (before ++ joined first second :: after) =
      (functionsOf (before ++ first :: second :: after)).map (raised before.length) := by
  have hbelow : (after.zipIdx (before.length + 1)).filterMap functionOn =
      ((after.zipIdx (before.length + 2)).filterMap functionOn).map (raised before.length) := by
    rw [List.map_filterMap, @List.zipIdx_succ _ _ (before.length + 1), List.filterMap_map]
    refine List.filterMap_congr fun indexed hmem => ?_
    exact (functionOn_raised (by have := List.le_snd_of_mem_zipIdx hmem; omega)).symm
  have habove : before.zipIdx.filterMap functionOn = (before.zipIdx.filterMap functionOn).map (raised before.length) := by
    rw [List.map_filterMap]
    refine List.filterMap_congr fun indexed hmem => ?_
    exact (functionOn_kept (by have := List.snd_lt_of_mem_zipIdx hmem; omega)).symm
  have hfunctions : ∀ lines, functionsOf lines = lines.zipIdx.filterMap functionOn := fun lines => rfl
  have hnone : ∀ line ∈ [first, second, joined first second], ∀ index, functionOn (line, index) = none :=
    fun line hl => functionOn_none (h.headers line hl)
  simp only [hfunctions, List.zipIdx_append, List.zipIdx_cons, List.filterMap_append, List.map_append, zero_add,
    List.filterMap_cons, hnone first (by simp), hnone second (by simp), hnone (joined first second) (by simp), ← habove,
    ← hbelow, add_assoc, one_add_one_eq_two]

theorem firstOfEach_map {change : Function → Function} (hname : ∀ f, (change f).name = f.name)
    (functions : List Function) : firstOfEach (functions.map change) = (firstOfEach functions).map change := by
  induction functions using List.reverseRecOn with
  | nil => rfl
  | append_singleton functions f ih =>
    have hany : ((firstOfEach functions).map change).any (·.name == (change f).name) =
        (firstOfEach functions).any (·.name == f.name) := by
      rw [List.any_map]
      simp only [Function.comp_def, hname]
    rw [List.map_append, List.map_singleton, firstOfEach_snoc, firstOfEach_snoc, ih, hany]
    split_ifs
    · rfl
    · rw [List.map_append, List.map_singleton]

/-- which functions draw depends on their names -/
theorem drawFunctions_map {change : Function → Function} (hname : ∀ f, (change f).name = f.name)
    {functions draws : List Function} (hd : drawFunctions o functions = .ok draws) :
    drawFunctions o (functions.map change) = .ok (draws.map change) := by
  unfold drawFunctions at hd ⊢
  cases hsetting : o.drawPrefix with
  | str start =>
    simp only [hsetting, Except.ok.injEq] at hd ⊢
    rw [← hd, List.filter_map, firstOfEach_map hname]
    simp only [Function.comp_def, hname]
  | _ =>
    simp only [hsetting] at hd ⊢
    cases functions with
    | nil => cases hd; rfl
    | cons f functions => cases hd

/-! ## Screens -/

/-- no header stands on the two lines -/
theorem Joinable.headerAt (h : Joinable first second) {index : Nat}
    (hat : HeaderAt (before ++ first :: second :: after) name index) :
    index < before.length ∨ ∃ k, index = before.length + (k + 2) := by
  obtain ⟨line, hline, hname⟩ := hat
  obtain ⟨found, hfound, -⟩ := Option.map_eq_some_iff.1 hname
  by_cases hlt : index < before.length
  · exact Or.inl hlt
  · obtain ⟨k, rfl⟩ := Nat.exists_eq_add_of_le (not_lt.1 hlt)
    rw [List.getElem?_append_right (Nat.le_add_right _ k), Nat.add_sub_cancel_left] at hline
    match k, hline with
    | 0, hline =>
      obtain rfl : first = line := Option.some.inj hline
      rw [h.headers first (by simp)] at hfound
      cases hfound
    | 1, hline =>
      obtain rfl : second = line := Option.some.inj hline
      rw [h.headers second (by simp)] at hfound
      cases hfound
    | k + 2, _ => exact Or.inr ⟨k, rfl⟩

/-- the plan of a screen stays the same -/
theorem planOf_joined (h : Joinable first second) {f : Function} {index : Nat} (hline : f.line = (index : Int) + 1)
    (hat : HeaderAt (before ++ first :: second :: after) name index) :
    planOf o (before ++ joined first second :: after) (raised before.length f) =
      planOf o (before ++ first :: second :: after) f := by
  have hcalls : (bodyLines f.name.toList ((before ++ joined first second :: after).drop
        ((raised before.length f).line - 1).toNat)).flatMap (callsOn o) =
      (bodyLines f.name.toList ((before ++ first :: second :: after).drop
        (f.line - 1).toNat)).flatMap (callsOn o) := by
    rw [hline, Int.add_sub_cancel, Int.toNat_natCast]
    rcases h.headerAt hat with hlt | ⟨k, rfl⟩
    · -- the header stands above, and the two lines come up while the body is looked for or read
      rw [raised, if_pos (by omega), hline, Int.add_sub_cancel, Int.toNat_natCast,
        List.drop_append_of_le_length hlt.le, List.drop_append_of_le_length hlt.le]
      exact bodyLines_joined h
    · -- the header stands below, and so does all that is read
      have hraised : ((raised before.length f).line - 1).toNat = before.length + (k + 1) := by
        rw [raised, if_neg (by omega), hline]
        push_cast
        omega
      rw [hraised, List.drop_length_add_append, List.drop_length_add_append]
      rfl
  simp only [planOf, drawnBody, inside_body, raised_name, hcalls]

theorem plans_joined (h : Joinable first second) {draws : List Function}
    (hd : drawFunctions o (functionsOf (before ++ first :: second :: after)) = .ok draws) :
    plans o (before ++ joined first second :: after) (draws.map (raised before.length)) =
      plans o (before ++ first :: second :: after) draws := by
  simp only [plans, List.map_eq_nil_iff]
  split_ifs
  · simp only [List.flatMap_append, List.flatMap_cons, callsOn_joined h.ends, List.append_assoc]
  · rw [List.map_map]
    refine List.map_congr_left fun f hf => ?_
    obtain ⟨index, hline, hfirst⟩ := firstHeader_of_draws hd hf
    exact planOf_joined h hline hfirst.1

/-- **Layout.** Take a sketch with two lines next to each other, neither with a brace, the first of which ends with a
semicolon outside any literal, and the sketch with both on one line, a space between them. If none of these lines is the
header of a function, and both sketches are read without an error, then they have the same screens in the same order,
touch zones apart: with the same names, backgrounds and elements, the ids of the elements included. -/
theorem screens_joined (o : Options) (source other : String) (before after : List Line) (first second : Line)
    (hsource : lines source.toList = before ++ first :: second :: after)
    (hother : lines other.toList = before ++ joined first second :: after) (h : Joinable first second)
    (hread : (extract o source).1.hasErrors = false) (hread' : (extract o other).1.hasErrors = false) :
    (extract o other).1.screens.map untouched = (extract o source).1.screens.map untouched := by
  obtain ⟨draws, hdraws, hscreens⟩ := read_of_no_errors hread
  obtain ⟨draws', hdraws', hscreens'⟩ := read_of_no_errors hread'
  rw [hsource] at hdraws hscreens
  rw [hother] at hdraws' hscreens'
  -- the same functions draw, those below one line further up
  have hmoved := drawFunctions_map (raised_name before.length) hdraws
  rw [← functionsOf_joined h, hdraws'] at hmoved
  obtain rfl : draws' = draws.map (raised before.length) := Except.ok.inj hmoved
  have hdrawn := screens_of_plans hdraws' hscreens'
  rw [plans_joined h hdraws, screens_of_plans hdraws hscreens] at hdrawn
  exact (Except.ok.inj hdrawn).symm

/-- a text with a semicolon in it, and below it two calls of which the first draws nothing -/
def texted : Line := " tft.drawString(\"a;b\", 1, 2);".toList

def filled : Line := "\ttft.f(); tft.fillScreen(3)".toList

/-- a sketch with the two lines in the body of a function that draws -/
def apart : String := "void drawHome() \x7b\n tft.drawString(\"a;b\", 1, 2);\n\ttft.f(); tft.fillScreen(3)\n\x7d"

/-- the sketch with both on one line -/
def together : String := "void drawHome() \x7b\n tft.drawString(\"a;b\", 1, 2); \ttft.f(); tft.fillScreen(3)\n\x7d"

theorem texted_filled : Joinable texted filled where
  braces := by decide +kernel
  headers := by decide +kernel
  ends := ⟨"tft.drawString(\"a;b\", 1, 2)".toList, by decide +kernel, by decide +kernel⟩

/-- the semicolon in the text ends no statement, and the call that draws nothing keeps its number -/
theorem screens_together :
    Joinable texted filled ∧ (extract usual apart).1.hasErrors = false ∧ (extract usual together).1.hasErrors = false ∧
      (extract usual together).1.screens.map untouched = (extract usual apart).1.screens.map untouched := by
  have hread : (extract usual apart).1.hasErrors = false := by decide +kernel
  have hread' : (extract usual together).1.hasErrors = false := by decide +kernel
  exact ⟨texted_filled, hread, hread', screens_joined usual apart together ["void drawHome() \x7b".toList]
    ["\x7d".toList] texted filled (by decide +kernel) (by decide +kernel) texted_filled hread hread'⟩

end SketchPanel.Sketch

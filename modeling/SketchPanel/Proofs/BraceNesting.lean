/-
Bodies and braces. A body is found by counting lines: it starts below the line of the opening brace, at depth one
whatever else stands on that line, and ends at the first line after which the depth is nought. The braces themselves
nest character by character. The two agree as long as the closing brace stands on a line of its own choosing below the
header and nothing is opened behind it; then the body lies between the braces, and every element of the screen is drawn
there.

Results:
- `closing_le`, `closing_ge`: where the count of lines ends.
- `Block.within`, `Block.exact`: the body lies between the braces, and is all that lies there if nothing is left open
  on the header's line.
- `screen_drawnOn`: every element of a screen is drawn by a statement on a line of its body.
- `screens_between_braces`: elements come from between the braces, and bodies share no line unless one function is
  defined inside the other.
Witness (what the count of lines does not see):
- `screens_beyond_braces`: a body on the header's line, a function that opens behind the closing brace, and a function
  inside a function.
-/
import Mathlib.Tactic
import SketchPanel.Proofs.BodySearch
import SketchPanel.Proofs.LongRuns
import SketchPanel.Proofs.SketchReading

namespace SketchPanel.Sketch

open SketchPanel.Text SketchPanel.Scene

/-! ## Balance -/

@[simp] theorem balance_append (front back : Line) : balance (front ++ back) = balance front + balance back := by
  simp only [balance, List.count_append, Nat.cast_add]
  ring

@[simp] theorem balance_close (rest : Line) : balance ('}' :: rest) = balance rest - 1 := by
  simp only [balance, List.count_cons]
  norm_num
  ring

theorem balance_flatten (lines : List Line) : balance lines.flatten = (lines.map balance).sum := by
  induction lines with
  | nil => rfl
  | cons line lines ih => rw [List.flatten_cons, balance_append, ih, List.map_cons, List.sum_cons]

/-- whether the braces of a text belong together: none is closed that was not opened, and none stays open -/
structure Balanced (text : Line) : Prop where
  never : ∀ part, part <+: text → 0 ≤ balance part
  all : balance text = 0

/-! ## Where the count of lines ends -/

theorem closing_le {depth : Int} {lines : List Line} {k : Nat} (hk : k < lines.length)
    (h : depth + ((lines.take (k + 1)).map balance).sum ≤ 0) (index : Nat) :
    (closing depth index lines).1 ≤ index + k ∧ (closing depth index lines).2 = true := by
  induction lines generalizing depth index k with
  | nil => exact absurd hk (Nat.not_lt_zero k)
  | cons line rest ih =>
    rw [closing]
    split_ifs with hle
    · exact ⟨Nat.le_add_right index k, rfl⟩
    · cases k with
      | zero => exact absurd (by simpa using h) hle
      | succ k =>
        rw [List.take_succ_cons, List.map_cons, List.sum_cons, ← add_assoc] at h
        obtain ⟨hstop, hclosed⟩ := ih (Nat.lt_of_succ_lt_succ hk) h (index + 1)
        exact ⟨by omega, hclosed⟩

theorem closing_ge {depth : Int} {lines : List Line} {k : Nat} (hk : k ≤ lines.length)
    (h : ∀ j < k, 0 < depth + ((lines.take (j + 1)).map balance).sum) (index : Nat) :
    index + k ≤ (closing depth index lines).1 := by
  induction lines generalizing depth index k with
  | nil => simpa [closing] using hk
  | cons line rest ih =>
    cases k with
    | zero =>
      rw [closing]
      split_ifs
      · exact le_rfl
      · exact (Nat.le_succ index).trans (ih (Nat.zero_le _) (fun j hj => absurd hj (Nat.not_lt_zero j)) (index + 1))
    | succ k =>
      have hline : 0 < depth + balance line := by simpa using h 0 (Nat.succ_pos k)
      have hrest : ∀ j < k, 0 < depth + balance line + ((rest.take (j + 1)).map balance).sum := by
        intro j hj
        have := h (j + 1) (Nat.succ_lt_succ hj)
        rwa [List.take_succ_cons, List.map_cons, List.sum_cons, ← add_assoc] at this
      rw [closing, if_neg (not_le.2 hline)]
      have := ih (Nat.le_of_succ_le_succ hk) hrest (index + 1)
      omega

/-! ## Blocks -/

/-- whether a brace is closed so many lines further down, given the texts behind it: the rest of its line, and the lines
below. On that line something stands behind the closing brace. -/
def ClosesAt (behind : List Line) (n : Nat) (rest : Line) : Prop :=
  ∃ before, behind[n]? = some (before ++ '}' :: rest) ∧ Balanced ((behind.take n).flatten ++ before)

/-- whether a line is the header of a function with its bracket next to the name, followed by an opening brace with
something behind it -/
def OpensWith (name after line : Line) : Prop :=
  ∃ header tail, function? line = some (header, tail) ∧ header.name = name ∧ name ++ ['('] <:+: line ∧
    trimStart tail = '{' :: after

/-- whether the first header of a function defines it, and the brace opened there is closed on the line `last`; on
either line something stands behind the brace -/
structure Block (lines : List Line) (name : Line) (first last : Nat) (after rest : Line) : Prop where
  foremost : FirstHeader lines name first
  header : ∃ line, lines[first]? = some line ∧ OpensWith name after line
  ordered : first ≤ last
  closes : ClosesAt (after :: lines.drop (first + 1)) (last - first) rest

theorem OpensWith.opens {name after line : Line} (h : OpensWith name after line) :
    name ++ ['('] <:+: line ∧ '{' ∈ line := by
  obtain ⟨header, tail, hf, -, hcall, htail⟩ := h
  have hbrace : '{' ∈ trimStart tail := htail ▸ List.mem_cons_self
  exact ⟨hcall, (function?_suffix hf).subset ((trimStart_suffix tail).subset hbrace)⟩

namespace Block

variable {o : Options} {lines : List Line} {draws : List Function} {f : Function} {first last : Nat} {after rest : Line}

/-- the body is counted from the line below the header, at depth one -/
theorem body_eq (hd : drawFunctions o (functionsOf lines) = .ok draws) (hf : f ∈ draws)
    (h : Block lines f.name.toList first last after rest) :
    drawnBody lines f = ⟨first + 1, (closing 1 (first + 1) (lines.drop (first + 1))).1,
      (closing 1 (first + 1) (lines.drop (first + 1))).2⟩ := by
  obtain ⟨header, hfirst, hne, hword, hb⟩ := drawnBody_of_draws hd hf
  obtain rfl := hfirst.unique h.foremost
  obtain ⟨line, hline, hopens⟩ := h.header
  rw [hb, body_of_firstOpening hne hword ⟨le_rfl, ⟨line, hline, hopens.opens⟩, fun j hle hlt => absurd hlt (by omega)⟩]

/-- the balance of the lines from below the header to the closing one -/
theorem sum_balance (h : Block lines f.name.toList first last after rest) (hlt : first < last) :
    (((lines.drop (first + 1)).take (last - first)).map balance).sum = balance rest - balance after - 1 := by
  obtain ⟨before, hline, hbalanced⟩ := h.closes
  obtain ⟨n, hn⟩ : ∃ n, last - first = n + 1 := ⟨last - first - 1, by omega⟩
  rw [hn] at hline hbalanced ⊢
  rw [List.getElem?_cons_succ] at hline
  have hall := hbalanced.all
  rw [List.take_succ_cons, List.flatten_cons, balance_append, balance_append, balance_flatten] at hall
  rw [List.take_add_one, hline, List.map_append, List.sum_append]
  simp only [Option.toList_some, List.map_cons, List.map_nil, List.sum_cons, List.sum_nil, balance_append,
    balance_close]
  omega

theorem last_lt (h : Block lines f.name.toList first last after rest) (hlt : first < last) :
    last - first - 1 < (lines.drop (first + 1)).length := by
  obtain ⟨before, hline, -⟩ := h.closes
  obtain ⟨n, hn⟩ : ∃ n, last - first = n + 1 := ⟨last - first - 1, by omega⟩
  rw [hn, List.getElem?_cons_succ] at hline
  have := (List.getElem?_eq_some_iff.1 hline).1
  omega

/-- **Between the braces.** If the closing brace stands below the header, and no more is opened behind it than behind
the opening one, the body ends before its line. -/
theorem within (hd : drawFunctions o (functionsOf lines) = .ok draws) (hf : f ∈ draws)
    (h : Block lines f.name.toList first last after rest) (hlt : first < last) (hle : balance rest ≤ balance after) :
    (drawnBody lines f).first = first + 1 ∧ (drawnBody lines f).stop ≤ last ∧ (drawnBody lines f).closed = true := by
  have hn : last - first - 1 + 1 = last - first := by omega
  have hsum : 1 + (((lines.drop (first + 1)).take (last - first - 1 + 1)).map balance).sum ≤ 0 := by
    rw [hn, h.sum_balance hlt]
    omega
  obtain ⟨hstop, hclosed⟩ := closing_le (h.last_lt hlt) hsum (first + 1)
  rw [h.body_eq hd hf]
  exact ⟨rfl, by show (closing _ _ _).1 ≤ last; omega, hclosed⟩

/-- up to the line of the closing brace the count stays positive, if nothing is left open behind the opening one -/
theorem open_between (h : Block lines f.name.toList first last after rest) (hlt : first < last)
    (hafter : balance after = 0) {j : Nat} (hj : j < last - first - 1) :
    0 < 1 + (((lines.drop (first + 1)).take (j + 1)).map balance).sum := by
  obtain ⟨before, -, hbalanced⟩ := h.closes
  obtain ⟨n, hn⟩ : ∃ n, last - first = n + 1 := ⟨last - first - 1, by omega⟩
  have hprefix : after ++ ((lines.drop (first + 1)).take (j + 1)).flatten <+:
      ((after :: lines.drop (first + 1)).take (last - first)).flatten ++ before := by
    rw [hn, List.take_succ_cons, List.flatten_cons, List.append_assoc, List.prefix_append_right_inj]
    refine List.IsPrefix.trans ?_ (List.prefix_append _ _)
    exact (List.take_prefix_take_left (by omega)).flatten
  have hnever := hbalanced.never _ hprefix
  rw [balance_append, balance_flatten] at hnever
  omega

/-- with something left open behind the closing brace, the body goes on below it -/
theorem beyond (hd : drawFunctions o (functionsOf lines) = .ok draws) (hf : f ∈ draws)
    (h : Block lines f.name.toList first last after rest) (hlt : first < last) (hafter : balance after = 0)
    (hrest : 0 < balance rest) : last < (drawnBody lines f).stop := by
  have hopen : ∀ j < last - first, 0 < 1 + (((lines.drop (first + 1)).take (j + 1)).map balance).sum := by
    intro j hj
    by_cases hbefore : j < last - first - 1
    · exact h.open_between hlt hafter hbefore
    · rw [show j + 1 = last - first by omega, h.sum_balance hlt]
      omega
  have hge := closing_ge (by have := h.last_lt hlt; omega) hopen (first + 1)
  rw [h.body_eq hd hf]
  show last < (closing _ _ _).1
  omega

/-- **All that lies there.** If nothing is left open behind the opening brace on its line, no line between the braces is
left out, and the body ends there if and only if nothing is left open behind the closing brace either. -/
theorem exact (hd : drawFunctions o (functionsOf lines) = .ok draws) (hf : f ∈ draws)
    (h : Block lines f.name.toList first last after rest) (hlt : first < last) (hafter : balance after = 0) :
    drawnBody lines f = ⟨first + 1, last, true⟩ ↔ balance rest ≤ 0 := by
  constructor
  · intro hb
    by_contra hrest
    have hbeyond := h.beyond hd hf hlt hafter (not_le.mp hrest)
    rw [hb] at hbeyond
    exact lt_irrefl _ hbeyond
  · intro hrest
    have hge := closing_ge (h.last_lt hlt).le (fun j hj => h.open_between hlt hafter hj) (first + 1)
    obtain ⟨hstart, hstop, hclosed⟩ := h.within hd hf hlt (by omega)
    rw [h.body_eq hd hf] at hstart hstop hclosed ⊢
    simp only [Body.mk.injEq, true_and]
    exact ⟨by simp only at hstop; omega, hclosed⟩

end Block

/-! ## Where elements come from -/

/-- whether an element is drawn by a statement of the line at an index -/
def DrawnOn (o : Options) (lines : List Line) (index : Nat) (e : Element) : Prop :=
  ∃ line found statement number, lines[index]? = some line ∧ calls o line = .ok found ∧ statement ∈ found ∧
    (command o statement number ((index : Int) + 1)).result = .ok (some e)

theorem elementsOf_mem {o : Options} {lineNumber number : Int} {statements : List Line} {elements : List Element}
    (h : (elementsOf o lineNumber number statements).result = .ok elements) {e : Element} (he : e ∈ elements) :
    ∃ statement ∈ statements, ∃ number, (command o statement number lineNumber).result = .ok (some e) := by
  induction statements generalizing number elements with
  | nil => cases h; cases he
  | cons statement rest ih =>
    obtain ⟨here, hhere, h⟩ := Traced.bind_eq_ok_iff.1 h
    obtain ⟨others, hothers, h⟩ := Traced.bind_eq_ok_iff.1 h
    cases h
    rcases List.mem_append.1 he with he | he
    · rw [Option.mem_toList] at he
      exact ⟨statement, List.mem_cons_self, number, he ▸ hhere⟩
    · obtain ⟨statement', hmem, number', hcommand⟩ := ih hothers he
      exact ⟨statement', List.mem_cons_of_mem _ hmem, number', hcommand⟩

/-- the zone of the touch test on a line, if the line is worth reading as one -/
def zoneTested (o : Options) (line : Line) (index : Int) (following : List Line) : Except Fault (Option Zone) :=
  if maybeTouch (trim line) then zoneOf o (trim line) index following else .ok none

theorem zoneOf_of_tested {o : Options} {line : Line} {index : Int} {following : List Line} {z : Zone}
    (h : zoneTested o line index following = .ok (some z)) : zoneOf o (trim line) index following = .ok (some z) := by
  unfold zoneTested at h
  split at h
  · exact h
  · cases h

/-- what is read off a line comes before what is read off the lines that follow -/
theorem contents_cons {o : Options} {count index : Nat} {line : Line} {following : List Line} {number : Int}
    {inside : List Element × List Zone}
    (h : (contents o (count + 1) index (line :: following) number).result = .ok inside) :
    ∃ found elements, ∃ zone : Option Zone, ∃ others, calls o line = .ok found ∧
      (elementsOf o ((index : Int) + 1) number found).result = .ok elements ∧
      zoneTested o line index following = .ok zone ∧
      (contents o count (index + 1) following (number + found.length)).result = .ok others ∧
      inside = (elements ++ others.1, zone.toList ++ others.2) := by
  obtain ⟨found, hcalls, h⟩ := Traced.bind_eq_ok_iff.1 h
  obtain ⟨elements, helements, h⟩ := Traced.bind_eq_ok_iff.1 h
  obtain ⟨zone, hzone, h⟩ : ∃ zone : Option Zone, zoneTested o line index following = .ok zone ∧
      (contents o count (index + 1) following (number + found.length) >>=
        fun others => pure (elements ++ others.1, zone.toList ++ others.2)).result = .ok inside := by
    unfold zoneTested
    dsimp only at h
    split at h <;> rename_i htouch
    · rw [if_pos htouch]
      exact Traced.bind_eq_ok_iff.1 h
    · rw [if_neg htouch]
      exact Traced.bind_eq_ok_iff.1 h
  obtain ⟨others, hothers, h⟩ := Traced.bind_eq_ok_iff.1 h
  exact ⟨found, elements, zone, others, hcalls, Traced.map_eq_ok_iff.1 helements, hzone, hothers,
    (Except.ok.inj h).symm⟩

theorem contents_mem {o : Options} {count index : Nat} {lines : List Line} {number : Int}
    {inside : List Element × List Zone} (h : (contents o count index lines number).result = .ok inside) {e : Element}
    (he : e ∈ inside.1) :
    ∃ k < count, ∃ line found statement number, lines[k]? = some line ∧ calls o line = .ok found ∧ statement ∈ found ∧
      (command o statement number (((index + k : Nat) : Int) + 1)).result = .ok (some e) := by
  induction count generalizing index lines number inside with
  | zero => cases h; cases he
  | succ count ih =>
    cases lines with
    | nil => cases h; cases he
    | cons line following =>
      obtain ⟨found, elements, zone, others, hcalls, helements, -, hothers, rfl⟩ := contents_cons h
      rcases List.mem_append.1 he with he | he
      · obtain ⟨statement, hmem, number', hcommand⟩ := elementsOf_mem helements he
        exact ⟨0, Nat.succ_pos count, line, found, statement, number', rfl, hcalls, hmem, hcommand⟩
      · obtain ⟨k, hk, line', found', statement, number', hline, hcalls', hmem, hcommand⟩ := ih hothers he
        refine ⟨k + 1, Nat.succ_lt_succ hk, line', found', statement, number', hline, hcalls', hmem, ?_⟩
        rwa [show index + (k + 1) = index + 1 + k by omega]

/-- every screen that is built is that of a function, made of what its body holds -/
theorem screensOf_built {o : Options} {lines : List Line} {functions : List Function} {number : Int}
    {found : List Screen} (h : (screensOf o lines functions number).result = .ok found) {screen : Screen}
    (hs : screen ∈ found) :
    ∃ f ∈ functions, ∃ number inside, (bodyContents o lines f number).result = .ok inside ∧
      screen = screenOf f.name f.name inside.1 inside.2 := by
  induction functions generalizing number found with
  | nil => cases h; cases hs
  | cons f functions ih =>
    obtain ⟨next, hcons⟩ := screensOf_cons o lines f functions number
    rw [hcons] at h
    obtain ⟨-, -, h⟩ := Traced.bind_eq_ok_iff.1 h
    obtain ⟨inside, hinside, h⟩ := Traced.bind_eq_ok_iff.1 h
    obtain ⟨others, hothers, h⟩ := Traced.bind_eq_ok_iff.1 h
    cases h
    rcases List.mem_cons.1 hs with rfl | hs
    · exact ⟨f, List.mem_cons_self, number, inside, hinside, rfl⟩
    · obtain ⟨g, hg, hscreen⟩ := ih hothers hs
      exact ⟨g, List.mem_cons_of_mem f hg, hscreen⟩

/-- the screens of an outline are those that were built -/
theorem extract_screens {o : Options} {source : String} {screen : Screen} (h : screen ∈ (extract o source).1.screens) :
    ∃ found, (screens o (lines source.toList) (functionsOf (lines source.toList))).result = .ok found ∧
      screen ∈ found := by
  cases hbuilt : (screens o (lines source.toList) (functionsOf (lines source.toList))).result with
  | error fault =>
    simp only [extract, hbuilt] at h
    cases h
  | ok found =>
    refine ⟨found, rfl, ?_⟩
    cases hset : geometryOf o (lines source.toList) with
    | error fault => simpa only [extract, hbuilt, hset] using h
    | ok geometry => simpa only [extract, hbuilt, hset] using h

theorem drawFunctions_nodup {o : Options} {functions draws : List Function}
    (hd : drawFunctions o functions = .ok draws) : (draws.map Function.name).Nodup := by
  obtain ⟨start, rfl⟩ := drawFunctions_ok hd
  exact firstOfEach_nodup _

/-- the screen of a function that draws is made of what its body holds -/
theorem screen_built {o : Options} {source : String} {draws : List Function}
    (hd : drawFunctions o (functionsOf (lines source.toList)) = .ok draws) {f : Function} (hf : f ∈ draws)
    {screen : Screen} (hs : screen ∈ (extract o source).1.screens) (hid : screen.id = f.name) :
    ∃ number inside, (bodyContents o (lines source.toList) f number).result = .ok inside ∧
      screen = screenOf f.name f.name inside.1 inside.2 := by
  obtain ⟨found, hbuilt, hs⟩ := extract_screens hs
  rw [screens_eq _ hd, if_neg (List.ne_nil_of_mem hf)] at hbuilt
  obtain ⟨g, hg, number, inside, hinside, rfl⟩ := screensOf_built hbuilt hs
  obtain rfl : g = f := List.inj_on_of_nodup_map (drawFunctions_nodup hd) hg hf hid
  exact ⟨number, inside, hinside, rfl⟩

/-- every element of the screen of a function that draws is drawn by a statement on a line of its body -/
theorem screen_drawnOn {o : Options} {source : String} {draws : List Function}
    (hd : drawFunctions o (functionsOf (lines source.toList)) = .ok draws) {f : Function} (hf : f ∈ draws)
    {screen : Screen} (hs : screen ∈ (extract o source).1.screens) (hid : screen.id = f.name) {e : Element}
    (he : e ∈ screen.elements) :
    ∃ j, (drawnBody (lines source.toList) f).first ≤ j ∧ j < (drawnBody (lines source.toList) f).stop ∧
      DrawnOn o (lines source.toList) j e := by
  obtain ⟨number, inside, hinside, rfl⟩ := screen_built hd hf hs hid
  obtain ⟨k, hk, line, found, statement, number', hline, hcalls, hmem, hcommand⟩ :=
    contents_mem (Traced.map_eq_ok_iff.1 hinside) he
  rw [List.getElem?_drop] at hline
  exact ⟨_, Nat.le_add_right _ k, by omega, line, found, statement, number', hline, hcalls, hmem, hcommand⟩

/-! ## Screens and braces -/

/-- whether a line belongs to a body -/
def Body.Holds (b : Body) (index : Nat) : Prop := b.first ≤ index ∧ index < b.stop

/-- whether the count of lines can follow the braces of a function: the closing one stands below the header, and behind
it no more is opened than behind the opening one -/
def Enclosed (lines : List Line) (name : Line) (first last : Nat) : Prop :=
  ∃ after rest, Block lines name first last after rest ∧ first < last ∧ balance rest ≤ balance after

/-- functions of two names do not have their first headers on one line -/
theorem Block.first_ne {lines : List Line} {f g : Function} {first last first' last' : Nat}
    {after rest after' rest' : Line} (hf : Block lines f.name.toList first last after rest)
    (hg : Block lines g.name.toList first' last' after' rest') (hne : f.name ≠ g.name) : first ≠ first' := by
  rintro rfl
  obtain ⟨line, hline, hname⟩ := hf.foremost.1
  obtain ⟨line', hline', hname'⟩ := hg.foremost.1
  rw [hline] at hline'
  cases hline'
  rw [hname] at hname'
  exact hne (String.toList_inj.1 (Option.some.inj hname'))

/-- **Screens keep to their braces.** Take the functions that draw whose first header has its bracket next to the name
and an opening brace that is closed on a later line, with no more opened behind the closing brace than behind the
opening one. The body of such a function is closed and lies between its braces, and so does every line that draws an
element of its screen. The bodies of two of them share no line unless one is defined between the braces of the other. And
if nothing is left open behind the opening brace, the body is all that lies between the lines of the braces if and only if
nothing is left open behind the closing one. -/
theorem screens_between_braces (o : Options) (source : String) (draws : List Function)
    (hd : drawFunctions o (functionsOf (lines source.toList)) = .ok draws) :
    let lines := lines source.toList
    (∀ f ∈ draws, ∀ first last, Enclosed lines f.name.toList first last →
      (drawnBody lines f).first = first + 1 ∧ (drawnBody lines f).stop ≤ last ∧ (drawnBody lines f).closed = true ∧
        ∀ screen ∈ (extract o source).1.screens, screen.id = f.name → ∀ e ∈ screen.elements,
          ∃ j, first < j ∧ j < last ∧ DrawnOn o lines j e) ∧
    (∀ f ∈ draws, ∀ g ∈ draws, f ≠ g → ∀ first last first' last', Enclosed lines f.name.toList first last →
      Enclosed lines g.name.toList first' last' → ¬ (first < first' ∧ first' < last) →
        ¬ (first' < first ∧ first < last') → ∀ j, ¬ ((drawnBody lines f).Holds j ∧ (drawnBody lines g).Holds j)) ∧
    (∀ f ∈ draws, ∀ first last after rest, Block lines f.name.toList first last after rest → first < last →
      balance after = 0 → (drawnBody lines f = ⟨first + 1, last, true⟩ ↔ balance rest ≤ 0)) := by
  intro lines
  subst lines
  refine ⟨?_, ?_, fun f hf first last after rest h hlt hafter => h.exact hd hf hlt hafter⟩
  · rintro f hf first last ⟨after, rest, h, hlt, hle⟩
    obtain ⟨hfirst, hstop, hclosed⟩ := h.within hd hf hlt hle
    refine ⟨hfirst, hstop, hclosed, fun screen hs hid e he => ?_⟩
    obtain ⟨j, hj, hj', hdrawn⟩ := screen_drawnOn hd hf hs hid he
    exact ⟨j, by omega, by omega, hdrawn⟩
  · rintro f hf g hg hne first last first' last' ⟨after, rest, h, hlt, hle⟩ ⟨after', rest', h', hlt', hle'⟩ hout hout' j
      ⟨⟨hj, hj'⟩, hi, hi'⟩
    obtain ⟨hfirst, hstop, -⟩ := h.within hd hf hlt hle
    obtain ⟨hfirst', hstop', -⟩ := h'.within hd hg hlt' hle'
    have hname : f.name ≠ g.name := fun e => hne (List.inj_on_of_nodup_map (drawFunctions_nodup hd) hf hg e)
    have := h.first_ne h' hname
    omega

/-! ## Sketches -/

theorem balanced_iff {text : Line} : Balanced text ↔ (∀ part ∈ text.inits, 0 ≤ balance part) ∧ balance text = 0 :=
  ⟨fun h => ⟨fun part hp => h.never part ((List.mem_inits part text).1 hp), h.all⟩,
    fun h => ⟨fun part hp => h.1 part ((List.mem_inits part text).2 hp), h.2⟩⟩

instance (text : Line) : Decidable (Balanced text) := decidable_of_iff _ balanced_iff.symm

/-- a block from what can be worked out about its lines -/
theorem block_of {lines : List Line} {name : Line} {first last : Nat} (line before after rest : Line)
    (h : lines[first]? = some line ∧ (∀ other ∈ lines.take first, headerName? other ≠ some name) ∧
      (function? line).map (fun found => (found.1.name, trimStart found.2)) = some (name, '{' :: after) ∧
      name ++ ['('] <:+: line ∧ first ≤ last ∧
      (after :: lines.drop (first + 1))[last - first]? = some (before ++ '}' :: rest) ∧
      Balanced (((after :: lines.drop (first + 1)).take (last - first)).flatten ++ before)) :
    Block lines name first last after rest := by
  obtain ⟨hline, hforemost, hmap, hcall, hle, hlast, hbalanced⟩ := h
  obtain ⟨⟨header, tail⟩, hf, e⟩ := Option.map_eq_some_iff.1 hmap
  obtain ⟨rfl, htail⟩ := Prod.mk.inj e
  refine ⟨⟨⟨line, hline, by simp [headerName?, hf]⟩, ?_⟩, ⟨line, hline, header, tail, hf, rfl, hcall, htail⟩, hle,
    before, hlast, hbalanced⟩
  rintro j hj ⟨other, ho, hother⟩
  exact hforemost other (List.mem_of_getElem? (by rw [List.getElem?_take, if_pos hj]; exact ho)) hother

/-- a function that draws, with its header on some line -/
def pad (line : Int) : Function := ⟨"drawPad", "void", [], line⟩

/-- a block within a body, and code in front of and behind closing braces -/
def twoScreens : String :=
  "void drawHome() \x7b\n if (a) \x7b tft.fillScreen(1); \x7d\n\x7d // a\nvoid drawPad() \x7b\n f();\n g(); \x7d"

theorem twoScreens_home : Enclosed (lines twoScreens.toList) home.name.toList 0 2 :=
  ⟨[], " // a".toList, block_of "void drawHome() \x7b".toList [] _ _ (by decide +kernel), by decide, by decide⟩

theorem twoScreens_pad : Enclosed (lines twoScreens.toList) (pad 4).name.toList 3 5 :=
  ⟨[], [], block_of "void drawPad() \x7b".toList " g(); ".toList _ _ (by decide +kernel), by decide, by decide⟩

/-- the first screen is drawn between its braces, and the two bodies share no line -/
theorem twoScreens_apart :
    drawFunctions usual (functionsOf (lines twoScreens.toList)) = .ok [home, pad 4] ∧
      (∀ screen ∈ (extract usual twoScreens).1.screens, screen.id = home.name → ∀ e ∈ screen.elements,
        ∃ j, 0 < j ∧ j < 2 ∧ DrawnOn usual (lines twoScreens.toList) j e) ∧
      ∀ j, ¬ ((drawnBody (lines twoScreens.toList) home).Holds j ∧
        (drawnBody (lines twoScreens.toList) (pad 4)).Holds j) := by
  have hdraws : drawFunctions usual (functionsOf (lines twoScreens.toList)) = .ok [home, pad 4] := by decide +kernel
  obtain ⟨hscreens, hapart, -⟩ := screens_between_braces usual twoScreens [home, pad 4] hdraws
  obtain ⟨-, -, -, hhome⟩ := hscreens home (by simp) 0 2 twoScreens_home
  exact ⟨hdraws, hhome, hapart home (by simp) (pad 4) (by simp) (by decide) 0 2 3 5 twoScreens_home twoScreens_pad
    (by decide) (by decide)⟩

/-- a body on the header's line, and another function -/
def oneLine : String :=
  "void drawHome() \x7b tft.fillScreen(1); \x7d\nvoid drawPad() \x7b\n tft.fillRect(1, 2, 3, 4, 5);\n\x7d"

/-- a closing brace with another function behind it -/
def reopened : String := "void drawHome() \x7b\n\x7d void f() \x7b\n tft.fillScreen(1);\n\x7d"

/-- a function that draws inside another -/
def nested : String :=
  "void drawHome() \x7b struct S \x7b\n void drawPad() \x7b\n  tft.fillScreen(1);\n \x7d\n\x7d; \x7d"

/-- whether some element of the screen of a function comes from none of the lines up to one -/
def Strays (o : Options) (source : String) (f : Function) (last : Nat) : Prop :=
  ∃ screen ∈ (extract o source).1.screens, screen.id = f.name ∧ ∃ e ∈ screen.elements,
    ∀ j ≤ last, ¬ DrawnOn o (lines source.toList) j e

theorem oneLine_strays : Strays usual oneLine home 0 := by
  have hfar : ∃ screen ∈ (extract usual oneLine).1.screens, screen.id = home.name ∧ ∃ e ∈ screen.elements, e.x = 1 := by
    decide +kernel
  obtain ⟨screen, hs, hid, e, he, hx⟩ := hfar
  refine ⟨screen, hs, hid, e, he, ?_⟩
  rintro j hj ⟨line, found, statement, number, hline, hcalls, hmem, hcommand⟩
  obtain rfl : j = 0 := Nat.le_zero.1 hj
  obtain rfl : "void drawHome() \x7b tft.fillScreen(1); \x7d".toList = line :=
    Option.some.inj ((by decide +kernel : some _ = (lines oneLine.toList)[0]?).trans hline)
  obtain rfl : ["void drawHome() \x7b tft.fillScreen(1)".toList] = found :=
    Except.ok.inj ((by decide +kernel : Except.ok _ = _).trans hcalls)
  obtain rfl := List.mem_singleton.1 hmem
  -- the one call on the header's line fills the screen, from the corner on
  have hcorner : ∀ e, (command usual "void drawHome() \x7b tft.fillScreen(1)".toList number 1).result = .ok (some e) →
      e.x = 0 := by
    intro e h
    cases h
    rfl
  rw [hcorner e hcommand] at hx
  cases hx

theorem reopened_strays : Strays usual reopened home 1 := by
  have hfar : ∃ screen ∈ (extract usual reopened).1.screens, screen.id = home.name ∧ screen.elements ≠ [] := by
    decide +kernel
  obtain ⟨screen, hs, hid, hne⟩ := hfar
  obtain ⟨e, he⟩ := List.exists_mem_of_ne_nil _ hne
  refine ⟨screen, hs, hid, e, he, ?_⟩
  rintro j hj ⟨line, found, statement, number, hline, hcalls, hmem, -⟩
  -- no line up to the closing brace has a call
  have hnone : ∀ line ∈ (lines reopened.toList).take 2, calls usual line = .ok [] := by decide +kernel
  have hline : line ∈ (lines reopened.toList).take 2 :=
    List.mem_of_getElem? (by rw [List.getElem?_take, if_pos (Nat.lt_succ_of_le hj)]; exact hline)
  rw [hnone line hline] at hcalls
  cases hcalls
  cases hmem

/-- **Beyond the braces.** In the first sketch the body of `drawHome` ends on the header's line, and in the second one
another function opens behind its closing brace: both times an element of its screen is drawn on none of the lines up to
its closing brace, and in the first the bodies of both functions share a line. In the third one function is defined
inside the other, and again both bodies hold a line. -/
theorem screens_beyond_braces :
    (drawFunctions usual (functionsOf (lines oneLine.toList)) = .ok [home, pad 2] ∧
      Block (lines oneLine.toList) home.name.toList 0 0 " tft.fillScreen(1); \x7d".toList [] ∧
      Block (lines oneLine.toList) (pad 2).name.toList 1 3 [] [] ∧ Strays usual oneLine home 0 ∧
      ∃ j, (drawnBody (lines oneLine.toList) home).Holds j ∧ (drawnBody (lines oneLine.toList) (pad 2)).Holds j) ∧
    (drawFunctions usual (functionsOf (lines reopened.toList)) = .ok [home] ∧
      Block (lines reopened.toList) home.name.toList 0 1 [] " void f() \x7b".toList ∧
      Strays usual reopened home 1) ∧
    (drawFunctions usual (functionsOf (lines nested.toList)) = .ok [home, pad 2] ∧
      Block (lines nested.toList) home.name.toList 0 4 " struct S \x7b".toList [] ∧
      Block (lines nested.toList) (pad 2).name.toList 1 3 [] [] ∧
      ∃ j, (drawnBody (lines nested.toList) home).Holds j ∧ (drawnBody (lines nested.toList) (pad 2)).Holds j) := by
  refine ⟨⟨by decide +kernel, ?_, ?_, oneLine_strays, 2, ?_⟩, ⟨by decide +kernel, ?_, reopened_strays⟩,
    ⟨by decide +kernel, ?_, ?_, 2, ?_⟩⟩
  · exact block_of "void drawHome() \x7b tft.fillScreen(1); \x7d".toList " tft.fillScreen(1); ".toList _ _
      (by decide +kernel)
  · exact block_of "void drawPad() \x7b".toList [] _ _ (by decide +kernel)
  · unfold Body.Holds; decide +kernel
  · exact block_of "void drawHome() \x7b".toList [] _ _ (by decide +kernel)
  · exact block_of "void drawHome() \x7b struct S \x7b".toList "\x7d; ".toList _ _ (by decide +kernel)
  · exact block_of " void drawPad() \x7b".toList " ".toList _ _ (by decide +kernel)
  · unfold Body.Holds; decide +kernel

end SketchPanel.Sketch

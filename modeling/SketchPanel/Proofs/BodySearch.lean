/-
Where the body of a drawing function is looked for. A header is recognised at the start of its line, with any blanks
before the bracket; a body is opened by the first line, from the first header of the name on, that holds the name with
its bracket and an opening brace. The two meet on the definition of the function unless another line comes first.

Results:
- `firstOfEach_first`, `firstHeader_of_draws`: a function that draws stands for the first header of its name.
- `body_of_firstOpening`, `body_of_no_opening`: the body starts after the first opening line, or is empty.
- `body_after_definition_iff`: the body starts right after a definition exactly if some definition is the first line
  that opens, and in particular if the first header is a definition with the bracket next to the name.
Witness (the two do not always meet):
- `body_after_call`: a declaration, then a call on one line with braces around it; the body starts after the call.
-/
import Mathlib.Tactic
import SketchPanel.Proofs.Scanning
import SketchPanel.Sketch.Extraction

namespace SketchPanel.Sketch

open SketchPanel.Text SketchPanel.Scene

/-! ## Headers -/

/-- the name of the function whose header a line is -/
def headerName? (line : Line) : Option Line := (function? line).map fun (header, _) => header.name

theorem declared?_eq_some {α : Type} {types : List (List Line)} {further : Line → Option (α × Line)}
    {line type name rest : Line} {more : α} (h : declared? types further line = some ((type, name, more), rest)) :
    ∃ before after, run? isWord before = some (name, after) ∧ further after = some (more, rest) := by
  obtain ⟨words, -, hw⟩ := List.exists_of_findSome?_eq_some h
  simp only [Option.bind_eq_bind, Option.bind_eq_some_iff, Prod.exists, Option.pure_def, Option.some.injEq,
    Prod.mk.injEq] at hw
  obtain ⟨text, -, before, -, name', after, hrun, more', rest', hfurther, ⟨-, rfl, rfl⟩, rfl⟩ := hw
  exact ⟨before, after, hrun, hfurther⟩

theorem afterQualifiers_suffix (count : Nat) (text : Line) : afterQualifiers count text <:+ text := by
  induction count generalizing text with
  | zero => exact List.suffix_rfl
  | succ count ih =>
    rw [afterQualifiers]
    split
    · rename_i rest h
      obtain ⟨q, -, hq⟩ := List.exists_of_findSome?_eq_some h
      obtain ⟨text', hafter, hblanks⟩ := Option.bind_eq_some_iff.1 hq
      obtain ⟨⟨run, rest'⟩, hrun, rfl⟩ := Option.map_eq_some_iff.1 hblanks
      exact ((ih rest').trans (run?_suffix hrun)).trans (after?_suffix hafter)
    · exact List.suffix_rfl

theorem afterWords?_suffix {words : List Line} {text rest : Line} (h : afterWords? words text = some rest) :
    rest <:+ text := by
  induction words generalizing text with
  | nil => cases h; exact List.suffix_rfl
  | cons word words ih =>
    cases words with
    | nil => exact after?_suffix h
    | cons other words =>
      simp only [afterWords?, Option.bind_eq_bind, Option.bind_eq_some_iff] at h
      obtain ⟨text', hafter, text'', hblanks, hrest⟩ := h
      obtain ⟨⟨run, rest'⟩, hrun, rfl⟩ := Option.map_eq_some_iff.1 hblanks
      exact ((ih hrest).trans (run?_suffix hrun)).trans (after?_suffix hafter)

/-- what a header leaves is the end of its line -/
theorem function?_suffix {line tail : Line} {header : FunctionHeader} (h : function? line = some (header, tail)) :
    tail <:+ line := by
  obtain ⟨⟨⟨type, name, list⟩, rest⟩, hd, e⟩ := Option.map_eq_some_iff.1 h
  obtain rfl : rest = tail := congrArg Prod.snd e
  obtain ⟨words, -, hw⟩ := List.exists_of_findSome?_eq_some hd
  simp only [Option.bind_eq_bind, Option.bind_eq_some_iff, Prod.exists, Option.pure_def, Option.some.injEq,
    Prod.mk.injEq, bracketed?] at hw
  obtain ⟨text, hwords, before, hblanks, name', after, hrun, list', rest', ⟨open', hopen, close, hclose, -, rfl⟩, -,
    rfl⟩ := hw
  obtain ⟨⟨run, before'⟩, hrun', rfl⟩ := Option.map_eq_some_iff.1 hblanks
  have hname : after <:+ line := by
    refine (run?_suffix hrun).trans ((run?_suffix hrun').trans ((afterWords?_suffix hwords).trans ?_))
    exact (afterQualifiers_suffix _ _).trans (trimStart_suffix line)
  exact (after?_suffix hclose).trans ((List.dropWhile_suffix _).trans ((token?_suffix hopen).trans hname))

theorem headerName?_word {line name : Line} (h : headerName? line = some name) :
    name ≠ [] ∧ ∀ c ∈ name, isWord c = true := by
  obtain ⟨⟨header, rest⟩, hf, rfl⟩ := Option.map_eq_some_iff.1 h
  obtain ⟨⟨⟨type, name, list⟩, rest'⟩, hd, e⟩ := Option.map_eq_some_iff.1 hf
  obtain ⟨before, after, hrun, -⟩ := declared?_eq_some hd
  obtain ⟨-, hne, hall, -⟩ := run?_eq_some_iff.1 hrun
  cases e
  exact ⟨hne, hall⟩

/-- whether the line at an index is a header of a function -/
def HeaderAt (lines : List Line) (name : Line) (i : Nat) : Prop :=
  ∃ line, lines[i]? = some line ∧ headerName? line = some name

/-- whether the line at an index defines a function: a header with an opening brace -/
def DefinedAt (lines : List Line) (name : Line) (i : Nat) : Prop :=
  ∃ line, lines[i]? = some line ∧ headerName? line = some name ∧ '{' ∈ line

def FirstHeader (lines : List Line) (name : Line) (i : Nat) : Prop :=
  HeaderAt lines name i ∧ ∀ j < i, ¬ HeaderAt lines name j

theorem FirstHeader.unique {lines : List Line} {name : Line} {i j : Nat} (hi : FirstHeader lines name i)
    (hj : FirstHeader lines name j) : i = j := by
  rcases lt_trichotomy i j with h | h | h
  · exact absurd hi.1 (hj.2 i h)
  · exact h
  · exact absurd hj.1 (hi.2 j h)

/-! ## The first of each name -/

theorem firstOfEach_snoc (functions : List Function) (f : Function) :
    firstOfEach (functions ++ [f]) =
      if (firstOfEach functions).any (·.name == f.name) then firstOfEach functions
      else firstOfEach functions ++ [f] := by
  simp [firstOfEach, List.foldl_append]

theorem firstOfEach_any (functions : List Function) (name : String) :
    (firstOfEach functions).any (·.name == name) = functions.any (·.name == name) := by
  induction functions using List.reverseRecOn with
  | nil => rfl
  | append_singleton functions f ih =>
    rw [firstOfEach_snoc, List.any_append, List.any_cons, List.any_nil, Bool.or_false, ← ih]
    split_ifs with hf
    · by_cases e : f.name = name
      · subst e; simp [hf]
      · simp [e]
    · simp

/-- no two kept functions have one name -/
theorem firstOfEach_nodup (functions : List Function) : ((firstOfEach functions).map Function.name).Nodup := by
  induction functions using List.reverseRecOn with
  | nil => exact List.nodup_nil
  | append_singleton functions f ih =>
    rw [firstOfEach_snoc]
    split_ifs with hf
    · exact ih
    · rw [List.map_append, List.nodup_append]
      refine ⟨ih, List.nodup_singleton _, fun name hname other hother e => ?_⟩
      obtain ⟨g, hg, rfl⟩ := List.mem_map.1 hname
      rw [List.map_singleton, List.mem_singleton] at hother
      exact hf (List.any_eq_true.2 ⟨g, hg, by simp [e, hother]⟩)

/-- a kept function is the first of its name -/
theorem firstOfEach_first {functions : List Function} {f : Function} (h : f ∈ firstOfEach functions) :
    ∃ before after, functions = before ++ f :: after ∧ ∀ g ∈ before, g.name ≠ f.name := by
  induction functions using List.reverseRecOn with
  | nil => cases h
  | append_singleton functions g ih =>
    rw [firstOfEach_snoc] at h
    have hold : f ∈ firstOfEach functions → ∃ before after, functions ++ [g] = before ++ f :: after ∧
        ∀ g ∈ before, g.name ≠ f.name := by
      intro hf
      obtain ⟨before, after, rfl, hb⟩ := ih hf
      exact ⟨before, after ++ [g], by simp, hb⟩
    split_ifs at h with hg
    · exact hold h
    · rcases List.mem_append.1 h with h | h
      · exact hold h
      · rw [List.mem_singleton.1 h]
        refine ⟨functions, [], rfl, fun k hk e => hg ?_⟩
        rw [firstOfEach_any]
        exact List.any_eq_true.2 ⟨k, hk, by simp [e]⟩

theorem drawFunctions_ok {o : Options} {functions draws : List Function} (h : drawFunctions o functions = .ok draws) :
    ∃ start : List Char, draws = firstOfEach (functions.filter fun f => (after? start f.name.toList).isSome) := by
  unfold drawFunctions at h
  split at h
  · rename_i start _
    exact ⟨start.toList, (Except.ok.inj h).symm⟩
  · exact ⟨[], (Except.ok.inj h).symm⟩
  · cases h

/-- the function that a line with its index is the header of -/
def functionOn (indexed : Line × Nat) : Option Function :=
  (function? indexed.1).map fun (f, _) =>
    ⟨.ofList f.name, .ofList f.returnType, f.parameters.map .ofList, (indexed.2 : Int) + 1⟩

theorem functionOn_line {line : Line} {i : Nat} {f : Function} (h : functionOn (line, i) = some f) :
    f.line = (i : Int) + 1 ∧ headerName? line = some f.name.toList := by
  obtain ⟨⟨header, rest⟩, hf, rfl⟩ := Option.map_eq_some_iff.1 h
  simp [headerName?, hf]

theorem functionOn_name {line : Line} {name : String} (i : Nat) (h : headerName? line = some name.toList) :
    ∃ f, functionOn (line, i) = some f ∧ f.name = name := by
  obtain ⟨⟨header, rest⟩, hf, e⟩ := Option.map_eq_some_iff.1 h
  refine ⟨_, by rw [functionOn, hf]; rfl, ?_⟩
  simp [e]

/-- a function none of whose name is found before stands on the first header of its name -/
theorem firstHeader_of_split {lines : List Line} {f : Function} {before after : List Function}
    (h : functionsOf lines = before ++ f :: after) (hb : ∀ g ∈ before, g.name ≠ f.name) :
    ∃ i : Nat, f.line = (i : Int) + 1 ∧ FirstHeader lines f.name.toList i := by
  obtain ⟨first, second, hidx, hfirst, hsecond⟩ := List.filterMap_eq_append_iff.1 h
  obtain ⟨silent, ⟨line, i⟩, rest, rfl, hsilent, hf, -⟩ := List.filterMap_eq_cons_iff.1 hsecond
  have hf : functionOn (line, i) = some f := hf
  have hat : ∀ j, j < (first ++ silent).length → ∀ other, lines[j]? = some other → (other, j) ∈ first ++ silent := by
    intro j hj other ho
    have hz : lines.zipIdx[j]? = some (other, j) := by simp [List.getElem?_zipIdx, ho]
    rw [hidx, ← List.append_assoc, List.getElem?_append_left hj] at hz
    exact List.mem_of_getElem? hz
  have hi : i = (first ++ silent).length ∧ lines[i]? = some line := by
    have hz : lines.zipIdx[(first ++ silent).length]? = some (line, i) := by
      rw [hidx, ← List.append_assoc, List.getElem?_append_right le_rfl]; simp
    simp only [List.getElem?_zipIdx, Option.map_eq_some_iff, Prod.mk.injEq] at hz
    obtain ⟨found, hget, rfl, rfl⟩ := hz
    simpa using hget
  obtain ⟨hline, hname⟩ := functionOn_line hf
  refine ⟨i, hline, ⟨line, hi.2, hname⟩, ?_⟩
  rintro j hj ⟨other, ho, hn⟩
  obtain ⟨g, hg, hgn⟩ := functionOn_name j hn
  rcases List.mem_append.1 (hat j (hi.1 ▸ hj) other ho) with hmem | hmem
  · exact hb g (hfirst ▸ List.mem_filterMap.2 ⟨_, hmem, hg⟩) hgn
  · have hnone : functionOn (other, j) = none := hsilent _ hmem
    rw [hnone] at hg; cases hg

/-- a function that draws is the first header of its name, on the line it says -/
theorem firstHeader_of_draws {o : Options} {lines : List Line} {draws : List Function} {f : Function}
    (hd : drawFunctions o (functionsOf lines) = .ok draws) (hf : f ∈ draws) :
    ∃ i : Nat, f.line = (i : Int) + 1 ∧ FirstHeader lines f.name.toList i := by
  obtain ⟨start, rfl⟩ := drawFunctions_ok hd
  obtain ⟨kept, more, hkept, hfirst⟩ := firstOfEach_first hf
  obtain ⟨before, rest, hsplit, hbefore, hrest⟩ := List.filter_eq_append_iff.1 hkept
  obtain ⟨passed, after, rfl, hpassed, hdraws, -⟩ := List.filter_eq_cons_iff.1 hrest
  have hall : functionsOf lines = (before ++ passed) ++ f :: after := by rw [hsplit, List.append_assoc]
  refine firstHeader_of_split hall fun g hg e => ?_
  rcases List.mem_append.1 hg with hg | hg
  · exact hfirst g (hbefore ▸ List.mem_filter.2 ⟨hg, e ▸ hdraws⟩) e
  · exact hpassed g hg (e ▸ hdraws)

/-! ## The first line that opens -/

/-- whether the line at an index may open the body of a function: it holds the name with its bracket and a brace -/
def OpensAt (lines : List Line) (name : Line) (i : Nat) : Prop :=
  ∃ line, lines[i]? = some line ∧ name ++ ['('] <:+: line ∧ '{' ∈ line

def FirstOpening (lines : List Line) (name : Line) (searchFrom i : Nat) : Prop :=
  searchFrom ≤ i ∧ OpensAt lines name i ∧ ∀ j, searchFrom ≤ j → j < i → ¬ OpensAt lines name j

theorem FirstOpening.unique {lines : List Line} {name : Line} {searchFrom i j : Nat}
    (hi : FirstOpening lines name searchFrom i) (hj : FirstOpening lines name searchFrom j) : i = j := by
  rcases lt_trichotomy i j with h | h | h
  · exact absurd hi.2.1 (hj.2.2 i hi.1 h)
  · exact h
  · exact absurd hj.2.1 (hi.2.2 j hj.1 h)

/-- blanks around a line hide neither a name with its bracket nor a brace -/
theorem opens_iff {name line : Line} (hne : name ≠ []) (hword : ∀ c ∈ name, isWord c = true) :
    opens name line = true ↔ name ++ ['('] <:+: line ∧ '{' ∈ line := by
  have hblank : ∀ c ∈ name, isBlank c = false := by
    intro c hc
    by_contra h
    have := isWord_of_isBlank (by simpa using h)
    rw [hword c hc] at this; cases this
  have hcall : name ++ ['('] <:+: trim line ↔ name ++ ['('] <:+: line := by
    refine infix_trim_iff (by simp) ?_ (by simp; decide)
    rw [List.head_append_of_ne_nil hne]
    exact hblank _ (List.head_mem hne)
  have hbrace : ['{'] <:+: trim line ↔ ['{'] <:+: line := infix_trim_iff (by simp) (by decide) (by decide)
  rw [List.singleton_infix_iff, List.singleton_infix_iff] at hbrace
  rw [opens, Bool.and_eq_true, occurs_iff, hcall, List.contains_iff_mem, hbrace]

theorem bodyFrom_skip {name : Line} {skipped : List Line} (h : ∀ line ∈ skipped, opens name line = false) (index : Nat)
    (rest : List Line) : bodyFrom name index (skipped ++ rest) = bodyFrom name (index + skipped.length) rest := by
  induction skipped generalizing index with
  | nil => rfl
  | cons line skipped ih =>
    rw [List.cons_append, bodyFrom, h line List.mem_cons_self]
    simp only [Bool.false_eq_true, if_false]
    rw [ih (fun l hl => h l (List.mem_cons_of_mem line hl)), List.length_cons]
    congr 1; omega

theorem opens_of_opensAt {lines : List Line} {name line : Line} {i : Nat} (hne : name ≠ [])
    (hword : ∀ c ∈ name, isWord c = true) (hi : lines[i]? = some line) :
    opens name line = true ↔ OpensAt lines name i := by
  rw [opens_iff hne hword]
  constructor
  · exact fun h => ⟨line, hi, h⟩
  · rintro ⟨line', hi', h⟩
    rw [hi] at hi'
    exact Option.some.inj hi' ▸ h

/-- the body starts after the first line that opens -/
theorem body_of_firstOpening {lines : List Line} {name : Line} {searchFrom i : Nat} (hne : name ≠ [])
    (hword : ∀ c ∈ name, isWord c = true) (h : FirstOpening lines name searchFrom i) :
    body lines name searchFrom =
      ⟨i + 1, (closing 1 (i + 1) (lines.drop (i + 1))).1, (closing 1 (i + 1) (lines.drop (i + 1))).2⟩ := by
  obtain ⟨hle, ⟨line, hline, hopen⟩, hfirst⟩ := h
  obtain ⟨hlt, hget⟩ := List.getElem?_eq_some_iff.1 hline
  have hskip : ∀ other ∈ (lines.drop searchFrom).take (i - searchFrom), opens name other = false := by
    intro other ho
    obtain ⟨n, hn⟩ := List.mem_iff_getElem?.1 ho
    rw [List.getElem?_take, List.getElem?_drop] at hn
    split_ifs at hn with hlt'
    rw [Bool.eq_false_iff, ne_eq, opens_of_opensAt hne hword hn]
    exact hfirst _ (by omega) (by omega)
  have hsplit : lines.drop searchFrom =
      (lines.drop searchFrom).take (i - searchFrom) ++ line :: lines.drop (i + 1) := by
    rw [← hget, ← List.drop_eq_getElem_cons hlt]
    conv_lhs => rw [← List.take_append_drop (i - searchFrom) (lines.drop searchFrom), List.drop_drop]
    congr 2; omega
  have hlen : ((lines.drop searchFrom).take (i - searchFrom)).length = i - searchFrom := by
    rw [List.length_take, List.length_drop]; omega
  rw [body, Int.toNat_natCast, hsplit, bodyFrom_skip hskip, hlen, bodyFrom,
    if_pos ((opens_iff hne hword).2 hopen)]
  rw [show searchFrom + (i - searchFrom) = i by omega]

/-- without a line that opens there is no body -/
theorem body_of_no_opening {lines : List Line} {name : Line} {searchFrom : Nat} (hne : name ≠ [])
    (hword : ∀ c ∈ name, isWord c = true) (h : ∀ i, ¬ FirstOpening lines name searchFrom i) :
    body lines name searchFrom = ⟨0, 0, true⟩ := by
  have hnone : ∀ i, searchFrom ≤ i → ¬ OpensAt lines name i := by
    intro i
    induction i using Nat.strong_induction_on with
    | _ i ih => exact fun hle hi => h i ⟨hle, hi, fun j hj hlt => ih j hlt hj⟩
  have hskip : ∀ other ∈ lines.drop searchFrom, opens name other = false := by
    intro other ho
    obtain ⟨n, hn⟩ := List.mem_iff_getElem?.1 ho
    rw [List.getElem?_drop] at hn
    rw [Bool.eq_false_iff, ne_eq, opens_of_opensAt hne hword hn]
    exact hnone _ (by omega)
  rw [body, Int.toNat_natCast, ← List.append_nil (lines.drop searchFrom), bodyFrom_skip hskip]
  rfl

/-! ## Bodies and definitions -/

/-- the body of a function that draws is looked for from the first header of its name on -/
theorem drawnBody_of_draws {o : Options} {lines : List Line} {draws : List Function} {f : Function}
    (hd : drawFunctions o (functionsOf lines) = .ok draws) (hf : f ∈ draws) :
    ∃ header : Nat, FirstHeader lines f.name.toList header ∧ f.name.toList ≠ [] ∧
      (∀ c ∈ f.name.toList, isWord c = true) ∧ drawnBody lines f = body lines f.name.toList header := by
  obtain ⟨header, hline, hfirst⟩ := firstHeader_of_draws hd hf
  obtain ⟨line, -, hname⟩ := hfirst.1
  obtain ⟨hne, hword⟩ := headerName?_word hname
  refine ⟨header, hfirst, hne, hword, ?_⟩
  rw [drawnBody, hline, Int.add_sub_cancel]

/-- **Where a body starts.** A function that draws is the first header of its name. Its body starts on the line after
the first line, from that header on, that holds the name with its bracket and an opening brace, and is empty if there is
no such line. So it starts right after a definition of the function if and only if some definition is that line; and it
does if the first header is itself a definition with the bracket next to the name. -/
theorem body_after_definition_iff (o : Options) (source : String) (draws : List Function)
    (hd : drawFunctions o (functionsOf (lines source.toList)) = .ok draws) (f : Function) (hf : f ∈ draws) :
    let lines := lines source.toList
    let name := f.name.toList
    let b := drawnBody lines f
    ∃ header : Nat, FirstHeader lines name header ∧
      (∀ i, FirstOpening lines name header i → b.first = i + 1) ∧
      ((∀ i, ¬ FirstOpening lines name header i) → b = ⟨0, 0, true⟩) ∧
      ((∃ d, DefinedAt lines name d ∧ b.first = d + 1) ↔
        ∃ d, DefinedAt lines name d ∧ FirstOpening lines name header d) ∧
      (OpensAt lines name header → DefinedAt lines name header ∧ b.first = header + 1) := by
  intro lines name b
  obtain ⟨header, hfirst, hne, hword, hb⟩ : ∃ header : Nat, FirstHeader lines name header ∧ name ≠ [] ∧
    (∀ c ∈ name, isWord c = true) ∧ b = body lines name header := drawnBody_of_draws hd hf
  obtain ⟨line, hat, hname⟩ := hfirst.1
  have hopening : ∀ i, FirstOpening lines name header i → b.first = i + 1 := by
    intro i hi
    rw [hb, body_of_firstOpening hne hword hi]
  have hempty : (∀ i, ¬ FirstOpening lines name header i) → b = ⟨0, 0, true⟩ := by
    intro h
    rw [hb, body_of_no_opening hne hword h]
  refine ⟨header, hfirst, hopening, hempty, ⟨?_, ?_⟩, fun ho => ⟨?_, ?_⟩⟩
  · rintro ⟨d, hdef, hstart⟩
    by_cases h : ∃ i, FirstOpening lines name header i
    · obtain ⟨i, hi⟩ := h
      have hid := hopening i hi
      obtain rfl : i = d := by omega
      exact ⟨i, hdef, hi⟩
    · rw [hempty (not_exists.1 h)] at hstart
      cases hstart
  · rintro ⟨d, hdef, hi⟩
    exact ⟨d, hdef, hopening d hi⟩
  · obtain ⟨line', hat', -, hbrace⟩ := ho
    rw [hat] at hat'
    exact ⟨line, hat, hname, Option.some.inj hat' ▸ hbrace⟩
  · exact hopening header ⟨le_rfl, ho, fun j hj hlt => absurd hlt (by omega)⟩

/-- what sketches are read with unless settings say otherwise -/
def usual : Options where
  width := .int 380
  height := .int 420
  drawPrefix := .str "draw"
  apiPrefix := .str "tft."
  requiredInclude := .str "TFT_eSPI.h"
  textColour := .str "#ffffff"
  fontSize := .int 16
  actionWindow := .int 4
  rotation := some (.int 1)

/-- the header of `drawHome` on the first line of a sketch -/
def home : Function := ⟨"drawHome", "void", [], 1⟩

/-- a declaration and the definition -/
def declaredFirst : String := "void drawHome();\n\nvoid drawHome() \x7b\n  tft.fillScreen(TFT_RED);\n\x7d\n"

/-- the definition is the first line that opens: the body starts right after it -/
theorem body_after_declaration :
    drawFunctions usual (functionsOf (lines declaredFirst.toList)) = .ok [home] ∧ home ∈ [home] ∧
      ∃ d, DefinedAt (lines declaredFirst.toList) home.name.toList d ∧
        (drawnBody (lines declaredFirst.toList) home).first = d + 1 := by
  have hdraws : drawFunctions usual (functionsOf (lines declaredFirst.toList)) = .ok [home] := rfl
  obtain ⟨header, hfirst, -, -, hiff, -⟩ :=
    body_after_definition_iff usual declaredFirst [home] hdraws home (List.mem_singleton_self home)
  have h0 : HeaderAt (lines declaredFirst.toList) home.name.toList 0 := ⟨_, rfl, by decide +kernel⟩
  obtain rfl : header = 0 := by
    by_contra h
    exact hfirst.2 0 (by omega) h0
  refine ⟨hdraws, List.mem_singleton_self home, hiff.2 ⟨2, ?_, Nat.zero_le 2, ?_, fun j _ hj => ?_⟩⟩
  · exact ⟨_, rfl, by decide +kernel, by decide⟩
  · exact ⟨_, rfl, by decide, by decide⟩
  · rintro ⟨line, hline, -, hbrace⟩
    interval_cases j <;> cases hline <;> exact absurd hbrace (by decide)

/-- a declaration, a call on one line with braces around it, and the definition -/
def calledFirst : String :=
  "void drawHome();\nvoid loop() \x7b drawHome(); \x7d\nvoid drawHome() \x7b\n  tft.fillScreen(TFT_RED);\n\x7d\n"

/-- **The call comes first.** The third line defines the function, but the body starts after the second line, which is
the header of another function. -/
theorem body_after_call :
    drawFunctions usual (functionsOf (lines calledFirst.toList)) = .ok [home] ∧
      DefinedAt (lines calledFirst.toList) home.name.toList 2 ∧
      ¬ ∃ d, DefinedAt (lines calledFirst.toList) home.name.toList d ∧
        (drawnBody (lines calledFirst.toList) home).first = d + 1 := by
  refine ⟨rfl, ⟨_, rfl, by decide +kernel, by decide⟩, ?_⟩
  rintro ⟨d, ⟨line, hline, hname, -⟩, hstart⟩
  have hfirst : (drawnBody (lines calledFirst.toList) home).first = 2 := rfl
  obtain rfl : d = 1 := by omega
  cases hline
  exact absurd hname (by decide +kernel)

end SketchPanel.Sketch

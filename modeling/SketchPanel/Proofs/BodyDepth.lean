/-
The depth of braces behind the lines of a body. A body opens at depth one, and each line below the opening one changes
the depth by what it opens beyond what it closes; so the depth behind a line is one and the balances of all the lines down
to it. The body ends before the first line behind which the depth is nought or less, however far below it falls, and at
the end of the file if there is none.

Results:
- `closing_of_first`, `closing_of_open`: where the count ends, given the first line that closes, or that none does.
- `body_counts_braces`: the body of a function, looked for from any line on.
Witness:
- `body_below_nought`: a search from before the first line, and a line that closes more than is open.
-/
import Mathlib.Tactic
import SketchPanel.Proofs.BraceNesting

namespace SketchPanel.Sketch

open SketchPanel.Text

/-! ## The depth behind a line -/

/-- the depth behind the line `k` of braces that are counted from one below the line `opening` -/
def depthBehind (lines : List Line) (opening k : Nat) : Int :=
  1 + (((lines.drop (opening + 1)).take (k - opening)).map balance).sum

/-- whether the line `k` is the first below the line `opening` behind which the depth is nought or less -/
def FirstClosing (lines : List Line) (opening k : Nat) : Prop :=
  (opening < k ∧ k < lines.length) ∧ depthBehind lines opening k ≤ 0 ∧
    ∀ j, opening < j → j < k → 0 < depthBehind lines opening j

section Counting

variable {lines : List Line} {opening k : Nat}

/-- the depth behind a line, by how many lines below the opening one it stands -/
theorem depthBehind_add (lines : List Line) (opening n : Nat) :
    depthBehind lines opening (opening + 1 + n) = 1 + (((lines.drop (opening + 1)).take (n + 1)).map balance).sum := by
  rw [depthBehind, show opening + 1 + n - opening = n + 1 by omega]

/-- the count ends at the first line that closes -/
theorem closing_of_first (h : FirstClosing lines opening k) :
    closing 1 (opening + 1) (lines.drop (opening + 1)) = (k, true) := by
  obtain ⟨⟨hlt, hk⟩, hdepth, hbefore⟩ := h
  obtain ⟨n, rfl⟩ : ∃ n, k = opening + 1 + n := ⟨k - (opening + 1), by omega⟩
  have hn : n < (lines.drop (opening + 1)).length := by
    rw [List.length_drop]
    omega
  rw [depthBehind_add] at hdepth
  obtain ⟨hle, hclosed⟩ := closing_le hn hdepth (opening + 1)
  have hge : opening + 1 + n ≤ (closing 1 (opening + 1) (lines.drop (opening + 1))).1 := by
    refine closing_ge hn.le (fun j hj => ?_) (opening + 1)
    rw [← depthBehind_add]
    exact hbefore _ (by omega) (by omega)
  exact Prod.ext (le_antisymm hle hge) hclosed

/-- without such a line the count ends at the end of the file -/
theorem closing_of_open (hopening : opening < lines.length)
    (h : ∀ j, opening < j → j < lines.length → 0 < depthBehind lines opening j) :
    closing 1 (opening + 1) (lines.drop (opening + 1)) = (lines.length, false) := by
  have hopen : StaysOpen 1 (lines.drop (opening + 1)) := by
    intro n hn
    rw [List.length_drop] at hn
    rw [← depthBehind_add]
    exact h _ (by omega) (by omega)
  have hnever := (closing_open_iff 1 (opening + 1) _).2 hopen
  refine Prod.ext ?_ hnever
  rw [closing_open_stop hnever, List.length_drop]
  show opening + 1 + (lines.length - (opening + 1)) = lines.length
  omega

/-- a line that closes is not the first only if another one closes before it, so without a first there is none -/
theorem open_of_no_closing (h : ∀ k, ¬ FirstClosing lines opening k) :
    ∀ j, opening < j → j < lines.length → 0 < depthBehind lines opening j := by
  intro j
  induction j using Nat.strong_induction_on with
  | _ j ih =>
    intro hj hjl
    by_contra hdepth
    exact h j ⟨⟨hj, hjl⟩, not_lt.1 hdepth, fun i hi hij => ih i hij hi (hij.trans hjl)⟩

end Counting

/-! ## The body -/

/-- a search from before the first line is one from the first line -/
theorem body_toNat (lines : List Line) (name : Line) (searchFrom : Int) :
    body lines name searchFrom = body lines name (searchFrom.toNat : Int) := rfl

/-- **Counting braces.** The body of a function opens behind the first line, from where it is looked for on, that holds
the name with its bracket and an opening brace, and is empty without one. It ends before the first line behind which the
depth is nought or less, and is closed then; otherwise it goes to the end of the file. Behind every line of it the depth
is positive. -/
theorem body_counts_braces (lines : List Line) (name : Line) (hne : name ≠ []) (hword : ∀ c ∈ name, isWord c = true)
    (searchFrom : Int) :
    ((∀ i, searchFrom.toNat ≤ i → ¬ OpensAt lines name i) → body lines name searchFrom = ⟨0, 0, true⟩) ∧
      ∀ opening, FirstOpening lines name searchFrom.toNat opening →
        (∀ k, FirstClosing lines opening k → body lines name searchFrom = ⟨opening + 1, k, true⟩) ∧
        ((∀ k, ¬ FirstClosing lines opening k) → body lines name searchFrom = ⟨opening + 1, lines.length, false⟩) ∧
        ∀ j, opening < j → j < (body lines name searchFrom).stop → 0 < depthBehind lines opening j := by
  rw [body_toNat]
  refine ⟨fun hnone => ?_, fun opening hopening => ?_⟩
  · exact body_of_no_opening hne hword fun i hi => hnone i hi.1 hi.2.1
  obtain ⟨line, hline, -⟩ := hopening.2.1
  have hlt : opening < lines.length := (List.getElem?_eq_some_iff.1 hline).1
  have hbody := body_of_firstOpening hne hword hopening
  have hclosed : ∀ k, FirstClosing lines opening k →
      body lines name (searchFrom.toNat : Int) = ⟨opening + 1, k, true⟩ := by
    intro k hk
    rw [hbody, closing_of_first hk]
  have hunclosed : (∀ k, ¬ FirstClosing lines opening k) →
      body lines name (searchFrom.toNat : Int) = ⟨opening + 1, lines.length, false⟩ := by
    intro hnone
    rw [hbody, closing_of_open hlt (open_of_no_closing hnone)]
  refine ⟨hclosed, hunclosed, fun j hj hstop => ?_⟩
  by_cases h : ∃ k, FirstClosing lines opening k
  · obtain ⟨k, hk⟩ := h
    rw [hclosed k hk] at hstop
    exact hk.2.2 j hj hstop
  · have hnone := not_exists.1 h
    rw [hunclosed hnone] at hstop
    exact open_of_no_closing hnone j hj hstop

/-- a function with a block in its body, and a line that closes the block and the body and one brace more -/
def overclosed : List Line := ["void drawHome() \x7b".toList, " if (on) \x7b \x7b".toList, " \x7d".toList,
  " \x7d \x7d \x7d".toList, " tft.fillScreen(1);".toList]

/-- the body goes down to the line that closes too much -/
theorem body_below_nought : "drawHome".toList ≠ [] ∧ (∀ c ∈ "drawHome".toList, isWord c = true) ∧
    FirstOpening overclosed "drawHome".toList (-2 : Int).toNat 0 ∧ FirstClosing overclosed 0 3 ∧
    depthBehind overclosed 0 3 = -1 ∧ body overclosed "drawHome".toList (-2) = ⟨1, 3, true⟩ := by
  have hword : ∀ c ∈ "drawHome".toList, isWord c = true := List.all_eq_true.1 (by decide)
  have hopening : FirstOpening overclosed "drawHome".toList (-2 : Int).toNat 0 :=
    ⟨le_rfl, ⟨_, rfl, by decide, by decide⟩, fun j _ hj => absurd hj (Nat.not_lt_zero j)⟩
  have hclosing : FirstClosing overclosed 0 3 := by
    refine ⟨by decide, by decide, fun j hlow hhigh => ?_⟩
    interval_cases j <;> decide
  have hbody := (body_counts_braces overclosed "drawHome".toList (by decide) hword (-2)).2 0 hopening
  exact ⟨by decide, hword, hopening, hclosing, by decide, hbody.1 3 hclosing⟩

end SketchPanel.Sketch

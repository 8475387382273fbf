/-
The condition of a touch test and the zone made of it. A condition is a value of its own: four numerals, and the blanks
and connectives that it is written with. Its text is what sketches hold; the scanner reads the numerals back whatever
the blanks, and the zone made of them is hit exactly where the condition holds.

Results:
- `comparison_text`, `conjoined?_text`, `touchTestAt_text`: the scanners read back what is written.
- `touchTestAt_fails`: before the condition there is no place where a touch test could start.
- `contains_iff`: a zone at whole points is two closed intervals.
- `hit_iff_holds`: the zone of a touch test is hit at a point exactly if the condition holds there.
-/
import Mathlib.Data.Nat.Digits.Defs
import Mathlib.Tactic
import SketchPanel.Proofs.BodySearch
import SketchPanel.Proofs.Scanning
import SketchPanel.Sketch.Extraction

namespace SketchPanel.Sketch

open SketchPanel.Text SketchPanel.Number

/-! ## Conditions and their text -/

/-- blanks between two tokens, possibly none -/
structure Gap where
  text : Line
  blank : ∀ c ∈ text, isBlank c = true

/-- decimal digits of any script, not too many to be read -/
structure Decimal where
  digits : Line
  ne_nil : digits ≠ []
  isDigit : ∀ c ∈ digits, isDigit c = true
  short : digits.length ≤ digitLimit

/-- what a numeral counts by its places, the last digit being the units -/
def Decimal.value (d : Decimal) : ℕ := Nat.ofDigits 10 (d.digits.reverse.map fun c => (digitValue c).getD 0)

/-- what stands between two comparisons: the sign, or the word with blanks on both sides -/
inductive Connective where
  | sign (before after : Gap)
  | word (before after : Gap) (apartBefore : before.text ≠ []) (apartAfter : after.text ≠ [])

def Connective.text : Connective → Line
  | .sign before after => before.text ++ ('&' :: '&' :: after.text)
  | .word before after _ _ => before.text ++ ('a' :: 'n' :: 'd' :: after.text)

/-- a bound: a numeral and the blanks around the sign before it -/
structure Bound where
  beforeSign : Gap
  afterSign : Gap
  numeral : Decimal

def Bound.text (b : Bound) (name : Char) (sign : Line) : Line :=
  name :: (b.beforeSign.text ++ (sign ++ (b.afterSign.text ++ b.numeral.digits)))

/-- `x >= A && x <= B && y >= C && y <= D`, however it is spaced and connected -/
structure Condition where
  x1 : Bound
  join1 : Connective
  x2 : Bound
  join2 : Connective
  y1 : Bound
  join3 : Connective
  y2 : Bound

def Condition.text (t : Condition) : Line :=
  t.x1.text 'x' ['>', '='] ++ t.join1.text ++ t.x2.text 'x' ['<', '='] ++ t.join2.text
    ++ t.y1.text 'y' ['>', '='] ++ t.join3.text ++ t.y2.text 'y' ['<', '=']

/-- whether the condition holds of a point -/
def Condition.Holds (t : Condition) (x y : ℤ) : Prop :=
  t.x1.numeral.value ≤ x ∧ x ≤ t.x2.numeral.value ∧ t.y1.numeral.value ≤ y ∧ y ≤ t.y2.numeral.value

/-! ## Reading back -/

theorem digitsNumber_eq (d : Decimal) : digitsNumber d.digits = d.value := by
  have h : ∀ digits : Line, digitsNumber digits = Nat.ofDigits 10 (digits.reverse.map fun c => (digitValue c).getD 0) := by
    intro digits
    induction digits using List.reverseRecOn with
    | nil => rfl
    | append_singleton digits c ih =>
      rw [List.reverse_append, List.reverse_singleton, List.singleton_append, List.map_cons, Nat.ofDigits_cons, ← ih]
      simp only [digitsNumber, List.foldl_append, List.foldl_cons, List.foldl_nil]
      ring
  exact h d.digits

theorem readDigits_decimal (d : Decimal) : readDigits d.digits = .ok d.value := by
  rw [readDigits, if_neg (by have := d.short; omega), digitsNumber_eq]

/-- a bound is read back, if the text goes on with no digit -/
theorem comparison_text (b : Bound) (name : Char) {sign : Line} (hs : sign ≠ [])
    (hb : ∀ c ∈ sign.head?, isBlank c = false) {rest : Line} (hr : ∀ c ∈ rest.head?, isDigit c = false) :
    comparison name sign (b.text name sign ++ rest) = some (b.numeral.digits, rest) := by
  have htoken : token? sign (b.beforeSign.text ++ (sign ++ (b.afterSign.text ++ (b.numeral.digits ++ rest)))) =
      some (b.afterSign.text ++ (b.numeral.digits ++ rest)) := token?_blanks b.beforeSign.blank hs hb
  have hrun : run? isDigit (trimStart (b.afterSign.text ++ (b.numeral.digits ++ rest))) = some (b.numeral.digits, rest) :=
    run?_digits_blanks b.afterSign.blank b.numeral.ne_nil b.numeral.isDigit hr
  simp [comparison, Bound.text, after?, htoken, hrun]

/-- a connective is read back up to the next variable -/
theorem conjoined?_text (j : Connective) {rest : Line} (hr : ∀ c ∈ rest.head?, isBlank c = false) :
    conjoined? (j.text ++ rest) = some rest := by
  cases j with
  | sign before after =>
    have htrim : trimStart (before.text ++ ('&' :: '&' :: (after.text ++ rest))) = '&' :: '&' :: (after.text ++ rest) :=
      trimStart_blanks before.blank (by simp; decide)
    simp [conjoined?, Connective.text, htrim, trimStart_blanks after.blank hr]
  | word before after hbefore hafter =>
    have htrim : trimStart (before.text ++ ('a' :: 'n' :: 'd' :: (after.text ++ rest))) =
        'a' :: 'n' :: 'd' :: (after.text ++ rest) := trimStart_blanks before.blank (by simp; decide)
    obtain ⟨b, bs, eb⟩ := List.exists_cons_of_ne_nil hbefore
    obtain ⟨a, as, ea⟩ := List.exists_cons_of_ne_nil hafter
    have hb : isBlank b = true := before.blank b (by rw [eb]; exact List.mem_cons_self)
    have ha : isWord a = false := isWord_of_isBlank (after.blank a (by rw [ea]; exact List.mem_cons_self))
    have hrest : trimStart (a :: (as ++ rest)) = rest := by
      rw [← List.cons_append, ← ea]; exact trimStart_blanks after.blank hr
    simp only [Connective.text, List.append_assoc, List.cons_append, conjoined?, htrim]
    simp [after?, eb, ea, hb, ha, hrest]

theorem Connective.head_append (j : Connective) (rest : Line) : ∀ c ∈ (j.text ++ rest).head?, isDigit c = false := by
  intro c hc
  cases j with
  | sign before after =>
    cases e : before.text with
    | nil => simp [text, e] at hc; subst hc; decide
    | cons b bs =>
      simp [text, e] at hc
      exact hc ▸ isDigit_of_isBlank (before.blank b (by rw [e]; exact List.mem_cons_self))
  | word before after hbefore hafter =>
    obtain ⟨b, bs, e⟩ := List.exists_cons_of_ne_nil hbefore
    simp [text, e] at hc
    exact hc ▸ isDigit_of_isBlank (before.blank b (by rw [e]; exact List.mem_cons_self))

theorem touchTestAt_text (t : Condition) (before : Option Char) {rest : Line}
    (hr : ∀ c ∈ rest.head?, isDigit c = false) :
    touchTestAt before (t.text ++ rest) =
      some (⟨t.x1.numeral.digits, t.x2.numeral.digits, t.y1.numeral.digits, t.y2.numeral.digits⟩, rest) := by
  simp only [Condition.text, List.append_assoc, touchTestAt]
  rw [comparison_text t.x1 'x' (by simp) (by simp; decide) (t.join1.head_append _)]
  simp only [Option.bind_eq_bind, Option.bind_some]
  rw [conjoined?_text t.join1 (by simp [Bound.text]; decide), Option.bind_some,
    comparison_text t.x2 'x' (by simp) (by simp; decide) (t.join2.head_append _), Option.bind_some,
    conjoined?_text t.join2 (by simp [Bound.text]; decide), Option.bind_some,
    comparison_text t.y1 'y' (by simp) (by simp; decide) (t.join3.head_append _), Option.bind_some,
    conjoined?_text t.join3 (by simp [Bound.text]; decide), Option.bind_some,
    comparison_text t.y2 'y' (by simp) (by simp; decide) hr]
  rfl

/-! ## Finding it on a line -/

/-- what a comparison starts with -/
theorem comparison_sign {name : Char} {sign text : Line} {found : Line × Line}
    (h : comparison name sign text = some found) :
    ∃ blanks rest, (∀ c ∈ blanks, isBlank c = true) ∧ text = name :: (blanks ++ (sign ++ rest)) := by
  simp only [comparison, Option.bind_eq_bind, Option.bind_eq_some_iff] at h
  obtain ⟨afterName, hname, afterSign, hsign, -⟩ := h
  refine ⟨afterName.takeWhile isBlank, afterSign, fun c hc => List.mem_takeWhile_imp hc, ?_⟩
  rw [← after?_eq_some_iff.1 hsign, trimStart, List.takeWhile_append_dropWhile]
  exact after?_eq_some_iff.1 hname

/-- no touch test starts before the condition if no lower bound could -/
theorem touchTestAt_fails {pre : Line} (hpre : ¬ ['>', '='] <:+: pre) (t : Condition) (post : Line) {c : Char}
    {here : Line} (hhere : c :: here <:+ pre) (before : Option Char) :
    touchTestAt before (c :: here ++ (t.text ++ post)) = none := by
  cases hc : comparison 'x' ['>', '='] (c :: here ++ (t.text ++ post)) with
  | none => rw [touchTestAt, hc]; rfl
  | some found =>
    exfalso
    obtain ⟨blanks, rest, hblanks, e⟩ := comparison_sign hc
    obtain ⟨more, htext⟩ : ∃ more, t.text ++ post = 'x' :: more := ⟨_, rfl⟩
    rw [htext, List.cons_append, List.cons.injEq] at e
    -- the sign is in what precedes the condition, or the condition is in the blanks
    rcases List.append_eq_append_iff.1 e.2 with ⟨between, hb, hmore⟩ | ⟨signed, rfl, hsign⟩
    · cases between with
      | nil => simp at hmore
      | cons b between =>
        obtain rfl : 'x' = b := by simpa using (List.cons.inj hmore).1
        have := hblanks 'x' (by rw [hb]; simp)
        exact absurd this (by decide)
    · match signed, hsign with
      | [], hsign => simp at hsign
      | [a], hsign => simp at hsign
      | a :: b :: signed, hsign =>
        obtain ⟨rfl, rfl, -⟩ : '>' = a ∧ '=' = b ∧ rest = signed ++ 'x' :: more := by simpa using hsign
        exact hpre (List.IsInfix.trans ⟨c :: blanks, signed, by simp⟩ hhere.isInfix)

/-- the touch test of a line that holds a condition and no lower bound before it -/
theorem touchTest?_text {pre post : Line} (hpre : ¬ ['>', '='] <:+: pre) (t : Condition)
    (hpost : ∀ c ∈ post.head?, isDigit c = false) :
    touchTest? (pre ++ (t.text ++ post)) =
      .ok (some (⟨t.x1.numeral.value, t.x2.numeral.value, t.y1.numeral.value, t.y2.numeral.value⟩, post)) := by
  have hfound : search touchTestAt none (pre ++ (t.text ++ post)) =
      some (⟨t.x1.numeral.digits, t.x2.numeral.digits, t.y1.numeral.digits, t.y2.numeral.digits⟩, post) := by
    rw [search_append pre none fun c here hhere => touchTestAt_fails hpre t post hhere]
    exact search_of_scan (touchTestAt_text t _ hpost)
  simp only [touchTest?, hfound, readDigits_decimal]
  rfl

/-! ## The zone -/

/-- the action of a touch test is found or given, if the lines to look at can be counted -/
theorem actionOf_ok {o : Options} (h : o.actionWindow.whole?.isSome = true) (rest : Line) (index : Int)
    (following : List Line) : ∃ action, actionOf o rest index following = .ok action := by
  obtain ⟨count, hcount⟩ := Option.isSome_iff_exists.1 h
  have hwindow : window o index following = .ok (following.take count.toNat) := by simp [window, hcount]
  unfold actionOf
  split
  · exact ⟨_, rfl⟩
  · rw [hwindow]; exact ⟨_, rfl⟩

/-- the zone of a condition has its bounds for edges -/
theorem zoneOf_text (o : Options) {pre post : Line} (hpre : ¬ ['>', '='] <:+: pre) (t : Condition)
    (hpost : ∀ c ∈ post.head?, isDigit c = false) (index : Int) (following : List Line) :
    zoneOf o (pre ++ (t.text ++ post)) index following =
      (actionOf o post index following).map fun action => some {
        id := s!"touch_{index}", x := t.x1.numeral.value, y := t.y1.numeral.value
        width := t.x2.numeral.value - t.x1.numeral.value, height := t.y2.numeral.value - t.y1.numeral.value, action } := by
  rw [zoneOf, touchTest?_text hpre t hpost]
  cases haction : actionOf o post index following <;>
    simp [Except.mapError, bind, Except.bind, haction, Except.map, pure, Except.pure]

theorem le_whole (a b : ℤ) : (Scalar.whole a).le (.whole b) = true ↔ a ≤ b := by
  simp [Scalar.le, Scalar.order, compare_lt_iff_lt, le_iff_lt_or_eq]

/-- at whole points a zone is two closed intervals -/
theorem contains_iff (z : Zone) (x y : ℤ) :
    z.contains (.whole x) (.whole y) = true ↔ z.x ≤ x ∧ x ≤ z.x + z.width ∧ z.y ≤ y ∧ y ≤ z.y + z.height := by
  simp only [Zone.contains, Bool.and_eq_true, le_whole, Zone.x2, Zone.y2, and_assoc]

theorem hitTest_single (z : Zone) (x y : Scalar) : (Zone.hitTest [z] x y).zone.isSome = z.contains x y := by
  cases h : z.contains x y <;> simp [Zone.hitTest, Zone.at?, h]

/-- **The zone is hit where the condition holds.** Whatever the numerals and the blanks, and whatever stands before it
without a lower bound and after it without a digit, a condition on a line is read as a zone, and a touch at a point hits
that zone if and only if the condition holds of the point. -/
theorem hit_iff_holds (o : Options) (hwindow : o.actionWindow.whole?.isSome = true) (t : Condition) (pre post : Line)
    (hpre : ¬ ['>', '='] <:+: pre) (hpost : ∀ c ∈ post.head?, isDigit c = false) (index : Int) (following : List Line) :
    ∃ z, zoneOf o (pre ++ (t.text ++ post)) index following = .ok (some z) ∧
      ∀ x y : ℤ, (Zone.hitTest [z] (.whole x) (.whole y)).zone.isSome = true ↔ t.Holds x y := by
  obtain ⟨action, haction⟩ := actionOf_ok hwindow post index following
  refine ⟨_, by rw [zoneOf_text o hpre t hpost, haction]; rfl, fun x y => ?_⟩
  rw [hitTest_single, contains_iff, Condition.Holds]
  simp only [add_sub_cancel]

def noGap : Gap := ⟨[], by simp⟩

def space : Gap := ⟨[' '], List.all_eq_true.1 (by decide)⟩

/-- `x>=30 and x <= 100 && y >=٥ and y<= 7`, one digit being of another script -/
def corner : Condition where
  x1 := ⟨noGap, noGap, ⟨['3', '0'], by simp, List.all_eq_true.1 (by decide), by decide⟩⟩
  join1 := .word space space (by simp [space]) (by simp [space])
  x2 := ⟨space, space, ⟨['1', '0', '0'], by simp, List.all_eq_true.1 (by decide), by decide⟩⟩
  join2 := .sign space space
  y1 := ⟨space, noGap, ⟨['٥'], by simp, List.all_eq_true.1 (by decide), by decide⟩⟩
  join3 := .word space space (by simp [space]) (by simp [space])
  y2 := ⟨noGap, space, ⟨['7'], by simp, List.all_eq_true.1 (by decide), by decide⟩⟩

/-- the zone of a line of a sketch is hit from 30 to 100 sideways and from 5 to 7 downwards -/
theorem hit_corner :
    usual.actionWindow.whole?.isSome = true ∧ ¬ ['>', '='] <:+: "if (pressed && ".toList ∧
      (∀ c ∈ ") state = MENU;".toList.head?, isDigit c = false) ∧
      ∃ z, zoneOf usual "if (pressed && x>=30 and x <= 100 && y >=٥ and y<= 7) state = MENU;".toList 8 [] =
          .ok (some z) ∧
        ∀ x y : ℤ, (Zone.hitTest [z] (.whole x) (.whole y)).zone.isSome = true ↔
          30 ≤ x ∧ x ≤ 100 ∧ 5 ≤ y ∧ y ≤ 7 := by
  have hwindow : usual.actionWindow.whole?.isSome = true := rfl
  have hpre : ¬ ['>', '='] <:+: "if (pressed && ".toList := by decide
  have hpost : ∀ c ∈ ") state = MENU;".toList.head?, isDigit c = false := by
    rintro c ⟨⟩
    decide
  exact ⟨hwindow, hpre, hpost, hit_iff_holds usual hwindow corner _ _ hpre hpost 8 []⟩

end SketchPanel.Sketch

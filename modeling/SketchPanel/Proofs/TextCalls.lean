/-
Statements that draw a text. What a text literal holds is one argument of its call, whatever stands in it, and the form of
texts takes it as it stands. Three forms are tried before that one, and they look for the names of their functions
everywhere on the line, in literals too. So the statement draws the text exactly if none of the three makes anything of
it, which is so whenever the literal calls none of their functions.

Results:
- `literalBody?_eq_some_iff`, `Held.argument`: what a literal holds is read back, and the literal is one argument.
- `drawString?_text`: what the form of texts makes of the statement.
- `text_call`: when the statement draws its text, what it draws otherwise, and what of the literal is enough for the text.
Witness:
- `text_called_in_text`: a text with escapes and with a call of a function that is asked for later.
Counterexample:
- `text_taken_for_fill`: a text with a call of `fillScreen` fills the screen.
-/
import Mathlib.Tactic
import SketchPanel.Proofs.TokenArguments

namespace SketchPanel.Sketch

open SketchPanel.Text SketchPanel.Number SketchPanel.Scene

/-! ## Literals -/

/-- whether a text can stand between the quotes of a literal: a backslash in front of every quote, and behind every such
backslash a character that ends no line -/
inductive Held : Line → Prop where
  | nil : Held []
  | plain {c : Char} {rest : Line} (hquote : c ≠ '"') (hslash : c ≠ '\\') (hrest : Held rest) : Held (c :: rest)
  | escaped {c : Char} {rest : Line} (hend : c ≠ '\n') (hrest : Held rest) : Held ('\\' :: c :: rest)

/-- the literal that holds a text -/
def literal (held : Line) : Line := '"' :: (held ++ ['"'])

section Literals

variable {held : Line}

/-- the text behind the opening quote of a literal is what it holds, and the closing quote -/
theorem literalBody?_eq_some_iff {text : Line} : literalBody? text = some held ↔ text = held ++ ['"'] ∧ Held held := by
  constructor
  · intro h
    fun_induction literalBody? text generalizing held with
    | case2 =>
      -- the closing quote
      obtain rfl := Option.some.inj h
      exact ⟨rfl, .nil⟩
    | case6 c rest hend ih =>
      obtain ⟨body, hbody, rfl⟩ := Option.map_eq_some_iff.1 h
      obtain ⟨rfl, hheld⟩ := ih hbody
      exact ⟨rfl, .escaped hend hheld⟩
    | case7 c rest hquote hlast hslash ih =>
      obtain ⟨body, hbody, rfl⟩ := Option.map_eq_some_iff.1 h
      obtain ⟨rfl, hheld⟩ := ih hbody
      obtain ⟨d, more, hmore⟩ := List.exists_cons_of_ne_nil (show body ++ ['"'] ≠ [] by simp)
      exact ⟨rfl, .plain hquote (fun hc => hslash d more hc hmore) hheld⟩
    | _ => cases h
  · rintro ⟨rfl, hheld⟩
    induction hheld with
    | nil => rfl
    | plain hquote hslash hrest ih => simp [literalBody?, hslash, ih]
    | escaped hend hrest ih => simp [literalBody?, hend, ih]

theorem trim_literal (held : Line) : trim (literal held) = literal held := by
  have hquote : isBlank '"' = false := by decide
  simp [literal, trim, trimStart, trimEnd, hquote]

theorem textLiteral?_literal (h : Held held) : textLiteral? (literal held) = some held := by
  rw [textLiteral?, trim_literal]
  exact literalBody?_eq_some_iff.2 ⟨rfl, h⟩

/-- in a literal the scan of a call stays in it -/
theorem Held.scan (h : Held held) :
    Within ⟨.inside, 0⟩ held ∧ held.foldl Nesting.step ⟨.inside, 0⟩ = ⟨.inside, 0⟩ := by
  have hinside : (⟨.inside, 0⟩ : Nesting) ≠ .top := by decide
  have hescaped : (⟨.escaped, 0⟩ : Nesting) ≠ .top := by decide
  induction h with
  | nil => exact ⟨unmarked_nil, rfl⟩
  | @plain c rest hquote hslash hrest ih =>
    have hstep : Nesting.step ⟨.inside, 0⟩ c = ⟨.inside, 0⟩ := by simp [Nesting.step, Quoting.step, hquote, hslash]
    refine ⟨unmarked_cons.2 ⟨fun htop => absurd htop hinside, ?_⟩, ?_⟩
    · rw [hstep]
      exact ih.1
    · rw [List.foldl_cons, hstep]
      exact ih.2
  | @escaped c rest hend hrest ih =>
    have hslash : Nesting.step ⟨.inside, 0⟩ '\\' = ⟨.escaped, 0⟩ := rfl
    have hstep : Nesting.step ⟨.escaped, 0⟩ c = ⟨.inside, 0⟩ := by simp [Nesting.step, Quoting.step]
    refine ⟨unmarked_cons.2 ⟨fun htop => absurd htop hinside, ?_⟩, ?_⟩
    · rw [hslash]
      refine unmarked_cons.2 ⟨fun htop => absurd htop hescaped, ?_⟩
      rw [hstep]
      exact ih.1
    · rw [List.foldl_cons, List.foldl_cons, hslash, hstep]
      exact ih.2

/-- a literal is one argument, whatever it holds -/
theorem Held.argument (h : Held held) : Argument (literal held) := by
  obtain ⟨hwithin, hends⟩ := h.scan
  have hopen : Nesting.top.step '"' = ⟨.inside, 0⟩ := rfl
  have hclose : Nesting.step ⟨.inside, 0⟩ '"' = .top := rfl
  refine ⟨unmarked_cons.2 ⟨fun _ => by decide, ?_⟩, ?_⟩
  · rw [hopen]
    refine unmarked_append.2 ⟨hwithin, ?_⟩
    rw [hends]
    exact unmarked_cons.2 ⟨fun _ => by decide, unmarked_nil⟩
  · rw [literal, List.foldl_cons, hopen, List.foldl_append, hends]
    exact hclose

end Literals

/-! ## The statement -/

/-- a statement that draws a text at a corner -/
def textCall (held x y : Line) : Line :=
  library ++ "drawString".toList ++ '(' :: (literal held ++ ',' :: ((' ' :: x ++ ',' :: ' ' :: y) ++ [')']))

/-- the text as an element -/
def textElement (o : Options) (number : Int) (held : Line) (a b : Int) : Element where
  id := "text_" ++ toString number
  shape := .text (.ofList held) o.fontSize.given? none (some .center) none
  x := a
  y := b
  colour := o.textColour.given?
  zIndex := zText

/-- the forms that are tried before that of texts -/
abbrev formsBefore : List Form := forms.take 3

/-- the functions that they ask for -/
abbrev askedBefore : List (List String) := askedFor.take 3

section Statement

variable {o : Options} {number place : Int} {held x y : Line} {a b : Int} {name : String} {e : Element}

theorem drawString_word : ∀ c ∈ "drawString".toList, isWord c = true := List.all_eq_true.1 (by decide)

theorem arguments?_textCall (hheld : Held held) (hx : Spells x a) (hy : Spells y b) :
    arguments? (textCall held x y) "drawString".toList = some [literal held, x, y] := by
  have hspace : ∀ c ∈ [' '], isBlank c = true := List.forall_mem_singleton.2 isBlank_space
  have hpadx : Padded x (' ' :: x) := ⟨Or.inl ⟨a, hx⟩, [' '], [], hspace, by simp, by simp⟩
  have hpady : Padded y (' ' :: y) := ⟨Or.inl ⟨b, hy⟩, [' '], [], hspace, by simp, by simp⟩
  have hwritten : Written [x, y] (' ' :: x ++ ',' :: ' ' :: y) := .cons hpadx (by simp) (.last hpady)
  obtain ⟨parts, hparts, htrim⟩ : ∃ parts, CallArguments ((' ' :: x ++ ',' :: ' ' :: y) ++ ')' :: []) parts ∧
      parts.map trim = [x, y] := hwritten.cut (by simp)
  have hcall : FirstCall (textCall held x y) "drawString".toList
      (literal held ++ ',' :: ((' ' :: x ++ ',' :: ' ' :: y) ++ [')'])) :=
    firstCall_library drawString_word (by decide)
  refine arguments?_eq_some_iff.2 ⟨_, _, hcall, .cons hheld.argument hparts, ?_⟩
  rw [List.map_cons, htrim, trim_literal, if_neg (by simp)]

theorem drawString?_text (hheld : Held held) (hne : held ≠ []) (hx : Spells x a) (hy : Spells y b) :
    drawString? (textCall held x y) = .ok (some (.drawString held a b)) := by
  have hargs := arguments?_textCall hheld hx hy
  have htrimmed := arguments?_trimmed hargs
  obtain ⟨c, cs, rfl⟩ := List.exists_cons_of_ne_nil hne
  simp only [drawString?, hargs, textLiteral?_literal hheld]
  exact (drawn_iff htrimmed (by simp)).2 ⟨[a, b], .cons hx (.cons hy .nil), rfl⟩

/-- what the statement calls besides `drawString` is called in the literal -/
theorem calledIn_textCall (hx : Spells x a) (hy : Spells y b) (hword : ∀ c ∈ name.toList, isWord c = true)
    (hsome : name.toList ≠ []) (hne : name ≠ "drawString") (h : CalledIn name.toList (textCall held x y)) :
    CalledIn name.toList held := by
  have hquote : Severs '"' := ⟨by decide, by decide, by decide⟩
  have hsplit : textCall held x y = ("tft".toList ++ '.' :: ("drawString".toList ++ '(' :: [])) ++
      '"' :: (held ++ '"' :: (',' :: ' ' :: x ++ ',' :: ' ' :: y ++ [')'])) := by
    simp [textCall, library, literal]
  rw [hsplit] at h
  -- the quotes cut the statement in three, and the point its first part in two
  rcases calledIn_beside hword hquote h with h | h
  · rcases calledIn_beside hword severs_point h with h | h
    · exact absurd h (not_calledIn_of_no_bracket (by decide))
    · exact absurd (String.toList_inj.1 (calledIn_single drawString_word (by simp) hword hsome h)) hne
  · rcases calledIn_beside hword hquote h with h | h
    · exact h
    · have hbracket : ∀ {text : Line} {n : Int}, Spells text n → '(' ∉ text := fun hspells hmem =>
        IsToken.unscanned (Or.inl ⟨_, hspells⟩) _ hmem (by decide)
      exact absurd h (not_calledIn_of_no_bracket (by simp [hbracket hx, hbracket hy]))

/-- no form that is tried before answers, if the literal calls none of their functions -/
theorem formsBefore_silent (hx : Spells x a) (hy : Spells y b)
    (h : ∀ names ∈ askedBefore, ∀ name ∈ names, ¬ CalledIn name.toList held) :
    ∀ form ∈ formsBefore, form (textCall held x y) = .ok none := by
  intro form hform
  obtain ⟨i, hi, rfl⟩ := List.getElem_of_mem hform
  obtain ⟨hlength, hasks⟩ := List.forall₂_iff_get.1 (List.forall₂_take 3 forms_asksFor)
  refine hasks i hi (hlength ▸ hi) _ fun name hname => ?_
  have hnames : askedBefore[i] ∈ askedBefore := List.getElem_mem _
  obtain ⟨hsome, hword⟩ := askedFor_word _ (List.mem_of_mem_take hnames) name hname
  have hne : name ≠ "drawString" := by
    have hdistinct : ∀ names ∈ askedBefore, ∀ name ∈ names, name ≠ "drawString" := by decide
    exact hdistinct _ hnames name hname
  exact arguments?_of_not_called fun hcalled =>
    h _ hnames name hname (calledIn_textCall hx hy hword hsome hne hcalled)

/-- no form that is tried before draws a text -/
theorem formsBefore_makes : ∀ form ∈ formsBefore, form.Makes fun d => d.mark ≠ "text_" := by
  intro form hform
  simp only [formsBefore, forms, List.take_succ_cons, List.take_zero, List.mem_cons, List.not_mem_nil, or_false] at hform
  rcases hform with rfl | rfl | rfl
  · intro line d h
    unfold fillScreen? at h
    split at h <;> cases h
    simp [Drawing.mark]
  · exact rectangle?_makes fun _ _ => by simp [Drawing.mark]
  · exact roundRectangle?_makes (fun _ _ _ _ => by simp [Drawing.mark]) _

theorem drawing?_text (hheld : Held held) (hne : held ≠ []) (hx : Spells x a) (hy : Spells y b)
    (h : firstOf formsBefore (textCall held x y) = .ok none) :
    drawing? (textCall held x y) = .ok (some (.drawString held a b)) := by
  have htext := drawString?_text hheld hne hx hy
  have hsplit : forms = formsBefore ++ drawString? :: forms.drop 4 := rfl
  rw [drawing?, hsplit, firstOf_append_silent h, firstOf_answers (by rw [htext]; simp), htext]

/-- what a form that is tried before makes is drawn -/
theorem drawing?_before {line : Line} (h : firstOf formsBefore line ≠ .ok none) :
    drawing? line = firstOf formsBefore line := by
  have hsplit : forms = formsBefore ++ forms.drop 3 := rfl
  rw [drawing?, hsplit, firstOf_append_answers h]

/-- **Texts.** The statement draws its text, under its number and at its corner, exactly if the forms that are tried before
make nothing of it, and otherwise what the first of them makes; and they make nothing of it if the literal calls none of
the functions that they ask for. -/
theorem text_call (o : Options) (number place : Int) (hheld : Held held) (hne : held ≠ []) (hx : Spells x a)
    (hy : Spells y b) :
    ((command o (textCall held x y) number place).result = .ok (some (textElement o number held a b)) ↔
        ∀ form ∈ formsBefore, form (textCall held x y) = .ok none) ∧
      (∀ d, firstOf formsBefore (textCall held x y) = .ok (some d) → ∀ e,
        ((command o (textCall held x y) number place).result = .ok (some e) ↔ (d.element o number).result = .ok e)) ∧
      ((∀ names ∈ askedBefore, ∀ name ∈ names, ¬ CalledIn name.toList held) →
        (command o (textCall held x y) number place).result = .ok (some (textElement o number held a b))) := by
  have hbefore : ∀ d, firstOf formsBefore (textCall held x y) = .ok (some d) → ∀ e,
      ((command o (textCall held x y) number place).result = .ok (some e) ↔ (d.element o number).result = .ok e) := by
    intro d hd e
    rw [command_iff, drawing?_before (by rw [hd]; simp), hd]
    simp
  have hdrawn : (command o (textCall held x y) number place).result = .ok (some (textElement o number held a b)) ↔
      ∀ form ∈ formsBefore, form (textCall held x y) = .ok none := by
    rw [← firstOf_eq_none_iff]
    constructor
    · intro h
      obtain ⟨d, hd, he⟩ := command_inversion h
      by_contra hanswers
      rw [drawing?_before hanswers] at hd
      -- the id tells which drawing it was
      have hid : "text_" ++ toString number = d.mark ++ toString number := (element_formed he).1
      exact firstOf_makes formsBefore_makes _ _ hd ((String.append_left_inj _).1 hid).symm
    · intro h
      exact command_iff.2 ⟨_, drawing?_text hheld hne hx hy h, rfl⟩
  exact ⟨hdrawn, hbefore, fun h => hdrawn.2 (formsBefore_silent hx hy h)⟩

end Statement

/-- a text with escapes, a comma and a bracket, and a call of a function that is asked for later -/
def heldCall : Line := "a\\\"b), drawRect(1\\\\".toList

theorem text_called_in_text : Held heldCall ∧ CalledIn "drawRect".toList heldCall ∧
    (command usual (textCall heldCall "+4".toList "-12".toList) 7 1).result =
      .ok (some (textElement usual 7 heldCall 4 (-12))) := by
  have hbody : literalBody? (heldCall ++ ['"']) = some heldCall := by decide +kernel
  have hheld : Held heldCall := (literalBody?_eq_some_iff.1 hbody).2
  have hx : Spells "+4".toList 4 := signedDigits_iff.1 (by decide +kernel)
  have hy : Spells "-12".toList (-12) := signedDigits_iff.1 (by decide +kernel)
  have hbefore : ∀ names ∈ askedBefore, ∀ name ∈ names, ¬ CalledIn name.toList heldCall := by decide +kernel
  exact ⟨hheld, by decide +kernel, (text_call usual 7 1 hheld (by decide) hx hy).2.2 hbefore⟩

/-- a text that calls `fillScreen` -/
def heldFill : Line := "fillScreen(1)".toList

/-- **A text taken for a call.** What stands in the literal fills the screen, and the text is not drawn. -/
theorem text_taken_for_fill : Held heldFill ∧ heldFill ≠ [] ∧ Spells ['5'] 5 ∧ Spells ['6'] 6 ∧
    (command usual (textCall heldFill ['5'] ['6']) 0 0).result ≠ .ok (some (textElement usual 0 heldFill 5 6)) := by
  have hbody : literalBody? (heldFill ++ ['"']) = some heldFill := by decide +kernel
  have hargs : arguments? (textCall heldFill ['5'] ['6']) "fillScreen".toList = some [['1']] := by decide +kernel
  refine ⟨(literalBody?_eq_some_iff.1 hbody).2, by decide, signedDigits_iff.1 (by decide +kernel),
    signedDigits_iff.1 (by decide +kernel), fun h => ?_⟩
  obtain ⟨d, hd, he⟩ := command_inversion h
  -- the drawing is a fill, and its id says so
  have hfill : d.isFill = true := (fillScreen_iff hd).2 ⟨_, hargs⟩
  have hid : (textElement usual 0 heldFill 5 6).id = d.mark ++ toString (0 : Int) := (element_formed he).1
  cases d with
  | fillScreen colour =>
    have hdiffer : "text_" ++ toString (0 : Int) ≠ "bg_" ++ toString (0 : Int) := by decide +kernel
    exact hdiffer hid
  | _ => cases hfill

end SketchPanel.Sketch

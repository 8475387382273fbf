/-
What the forms of drawing calls ask of their arguments. A form looks for its own functions, and answers a line on which
none of them is called with nothing; so on a line that calls one function only the form of that function counts. It then
asks for a number of arguments, and for whole-number literals at fixed places; the rest it takes as it is written.

Results:
- `wholeLiteral_iff`: the whole-number literals, and what they count.
- `forms_asksFor`: the functions that each form asks for.
- `drawing?_only`: a line that calls functions of one form only is drawn as this form says.
- `fillScreen?_iff`, `rectangle?_iff`, `roundRectangle?_iff`, `circleNamed?_iff`, `drawLine?_iff`, `bitmap?_iff_drawBitmap`,
  `bitmap?_iff_pushImage`: what each form makes of the arguments.
- `command_iff`: the element of a statement is that of its drawing.
-/
import Mathlib.Tactic
import SketchPanel.Proofs.CallPlaces
import SketchPanel.Proofs.ElementForms
import SketchPanel.Proofs.WrittenDigits

namespace SketchPanel.Sketch

open SketchPanel.Text SketchPanel.Number

/-! ## Whole-number literals -/

/-- whether a text is a decimal literal, with a sign or without one, and what it counts -/
inductive Spells : Line → Int → Prop where
  | unsigned (d : Decimal) : Spells d.digits d.value
  | plus (d : Decimal) : Spells ('+' :: d.digits) d.value
  | minus (d : Decimal) : Spells ('-' :: d.digits) (-d.value)

theorem sign_digits (d : Decimal) : sign d.digits = (false, d.digits) :=
  sign_of_isDigit fun c hc => d.isDigit c (List.mem_of_mem_head? hc)

theorem signedDigits_decimal {text : Line} {negative : Bool} {d : Decimal} (h : sign text = (negative, d.digits)) :
    signedDigits text = .ok (some (if negative then -(d.value : Int) else d.value)) := by
  have hdigits : d.digits ≠ [] ∧ d.digits.all isDigit = true := ⟨d.ne_nil, List.all_eq_true.2 d.isDigit⟩
  simp only [signedDigits, h]
  rw [if_pos hdigits, readDigits_decimal]
  rfl

theorem signedDigits_iff {text : Line} {n : Int} : signedDigits text = .ok (some n) ↔ Spells text n := by
  constructor
  · intro h
    obtain ⟨⟨negative, digits⟩, hsign⟩ : ∃ parts, sign text = parts := ⟨_, rfl⟩
    have hdigits : digits ≠ [] ∧ digits.all isDigit = true := by
      by_contra hnot
      simp only [signedDigits, hsign, if_neg hnot] at h
      cases h
    have hshort : ¬ digitLimit < digits.length := by
      intro hlong
      simp only [signedDigits, hsign, if_pos hdigits, readDigits, if_pos hlong] at h
      cases h
    let d : Decimal := ⟨digits, hdigits.1, List.all_eq_true.1 hdigits.2, not_lt.1 hshort⟩
    have hd : sign text = (negative, d.digits) := hsign
    rw [signedDigits_decimal hd] at h
    obtain rfl := Option.some.inj (Except.ok.inj h)
    unfold sign at hsign
    split at hsign <;> cases hsign
    · exact .minus d
    · exact .plus d
    · exact .unsigned d
  · intro h
    cases h with
    | unsigned d => exact signedDigits_decimal (sign_digits d)
    | plus d =>
      have hsign : sign ('+' :: d.digits) = (false, d.digits) := rfl
      exact signedDigits_decimal hsign
    | minus d =>
      have hsign : sign ('-' :: d.digits) = (true, d.digits) := rfl
      exact signedDigits_decimal hsign

theorem wholeLiteral_iff {text : Line} {n : Int} : wholeLiteral text = .ok (some n) ↔ Spells (trim text) n :=
  signedDigits_iff

/-- whether four texts are the literals of a corner and its extents -/
structure SpellsBox (x y width height : Line) (box : Box) : Prop where
  x : Spells x box.x
  y : Spells y box.y
  width : Spells width box.width
  height : Spells height box.height

section Values

variable {line name : Line} {texts tokens : List Line} {values : List Int} {d : Drawing}

/-- arguments come without the blanks around them -/
theorem arguments?_trimmed (h : arguments? line name = some tokens) : ∀ token ∈ tokens, trim token = token := by
  obtain ⟨rest, parts, -, -, rfl⟩ := arguments?_eq_some_iff.1 h
  intro token htoken
  split_ifs at htoken
  · cases htoken
  · obtain ⟨part, -, rfl⟩ := List.mem_map.1 htoken
    exact trim_trim part

theorem wholes_iff (h : ∀ text ∈ texts, trim text = text) :
    wholes texts = .ok (some values) ↔ List.Forall₂ Spells texts values := by
  induction texts generalizing values with
  | nil => simp [wholes, eq_comm]
  | cons text texts ih =>
    rw [List.forall_mem_cons] at h
    have htext : ∀ n, wholeLiteral text = .ok (some n) ↔ Spells text n := fun n => by rw [wholeLiteral_iff, h.1]
    constructor
    · intro hread
      obtain ⟨first, hfirst, hread⟩ := bind_eq_ok_iff.1 hread
      cases first with
      | none => cases hread
      | some n =>
        obtain ⟨others, hothers, hread⟩ := bind_eq_ok_iff.1 hread
        obtain ⟨more, rfl, rfl⟩ := Option.map_eq_some_iff.1 (Except.ok.inj hread)
        exact .cons ((htext n).1 hfirst) ((ih h.2).1 hothers)
    · intro hspells
      cases hspells with
      | cons hfirst hothers =>
        refine bind_eq_ok_iff.2 ⟨_, (htext _).2 hfirst, ?_⟩
        exact bind_eq_ok_iff.2 ⟨_, (ih h.2).2 hothers, rfl⟩

theorem drawn_iff {make : List Int → Option Drawing} (htokens : ∀ token ∈ tokens, trim token = token)
    (hsub : texts ⊆ tokens) :
    drawn texts make = .ok (some d) ↔ ∃ values, List.Forall₂ Spells texts values ∧ make values = some d := by
  have h : ∀ text ∈ texts, trim text = text := fun text htext => htokens text (hsub htext)
  constructor
  · intro hdrawn
    obtain ⟨found, hfound, hmake⟩ := bind_eq_ok_iff.1 hdrawn
    obtain ⟨values, rfl, hvalues⟩ := Option.bind_eq_some_iff.1 (Except.ok.inj hmake)
    exact ⟨values, (wholes_iff h).1 hfound, hvalues⟩
  · rintro ⟨values, hspells, hmake⟩
    refine bind_eq_ok_iff.2 ⟨_, (wholes_iff h).2 hspells, ?_⟩
    rw [Option.bind_some, hmake]
    rfl

theorem boxed_iff {x y width height : Line} {make : Box → Drawing}
    (htokens : ∀ token ∈ tokens, trim token = token) (hsub : [x, y, width, height] ⊆ tokens) :
    boxed [x, y, width, height] make = .ok (some d) ↔ ∃ box, SpellsBox x y width height box ∧ d = make box := by
  rw [boxed, drawn_iff htokens hsub]
  constructor
  · rintro ⟨values, hspells, hmake⟩
    obtain _ | ⟨hx, _ | ⟨hy, _ | ⟨hwidth, _ | ⟨hheight, _ | _⟩⟩⟩⟩ := hspells
    exact ⟨_, ⟨hx, hy, hwidth, hheight⟩, (Option.some.inj hmake).symm⟩
  · rintro ⟨box, hbox, rfl⟩
    exact ⟨_, .cons hbox.x (.cons hbox.y (.cons hbox.width (.cons hbox.height .nil))), rfl⟩

theorem rounded_iff {x y width height radius : Line} {f : Box → Int → Drawing}
    (htokens : ∀ token ∈ tokens, trim token = token) (hsub : [x, y, width, height, radius] ⊆ tokens) :
    (drawn [x, y, width, height, radius] fun
      | [x, y, width, height, radius] => some (f ⟨x, y, width, height⟩ radius)
      | _ => none) = .ok (some d) ↔
      ∃ box r, SpellsBox x y width height box ∧ Spells radius r ∧ d = f box r := by
  rw [drawn_iff htokens hsub]
  constructor
  · rintro ⟨values, hspells, hmake⟩
    obtain _ | ⟨hx, _ | ⟨hy, _ | ⟨hwidth, _ | ⟨hheight, _ | ⟨hradius, _ | _⟩⟩⟩⟩⟩ := hspells
    exact ⟨_, _, ⟨hx, hy, hwidth, hheight⟩, hradius, (Option.some.inj hmake).symm⟩
  · rintro ⟨box, r, hbox, hradius, rfl⟩
    exact ⟨_, .cons hbox.x (.cons hbox.y (.cons hbox.width (.cons hbox.height (.cons hradius .nil)))), rfl⟩

theorem circled_iff {x y radius : Line} {f : Int → Int → Int → Drawing}
    (htokens : ∀ token ∈ tokens, trim token = token) (hsub : [x, y, radius] ⊆ tokens) :
    (drawn [x, y, radius] fun
      | [x, y, radius] => some (f x y radius)
      | _ => none) = .ok (some d) ↔
      ∃ a b r, Spells x a ∧ Spells y b ∧ Spells radius r ∧ d = f a b r := by
  rw [drawn_iff htokens hsub]
  constructor
  · rintro ⟨values, hspells, hmake⟩
    obtain _ | ⟨hx, _ | ⟨hy, _ | ⟨hradius, _ | _⟩⟩⟩ := hspells
    exact ⟨_, _, _, hx, hy, hradius, (Option.some.inj hmake).symm⟩
  · rintro ⟨a, b, r, hx, hy, hradius, rfl⟩
    exact ⟨_, .cons hx (.cons hy (.cons hradius .nil)), rfl⟩

end Values

/-! ## Forms that do not answer -/

/-- whether a form answers no line on which none of the functions is called -/
def Form.AsksFor (form : Form) (names : List String) : Prop :=
  ∀ line, (∀ name ∈ names, arguments? line name.toList = none) → form line = .ok none

theorem rectangle?_asksFor (name : String) (make : Box → Line → Drawing) :
    Form.AsksFor (rectangle? name make) [name] := by
  intro line h
  rw [rectangle?, h name List.mem_cons_self]

theorem roundRectangle?_asksFor (make : Box → Int → Line → Option Line → Drawing) (names : List String) :
    Form.AsksFor (roundRectangle? make names) names := by
  intro line h
  induction names with
  | nil => rfl
  | cons name names ih =>
    rw [List.forall_mem_cons] at h
    rw [roundRectangle?, h.1]
    exact ih h.2

theorem circleNamed?_asksFor (names : List (String × Bool)) :
    Form.AsksFor (circleNamed? names) (names.map Prod.fst) := by
  intro line h
  induction names with
  | nil => rfl
  | cons name names ih =>
    rw [List.map_cons, List.forall_mem_cons] at h
    rw [circleNamed?, h.1]
    exact ih h.2

/-- the functions that the forms ask for, form by form -/
def askedFor : List (List String) := [["fillScreen"], ["fillRect"], ["fillSmoothRoundRect", "fillRoundRect"],
  ["drawString"], ["drawRect"], ["drawSmoothRoundRect", "drawRoundRect"], ["fillSmoothCircle", "fillCircle", "drawCircle"],
  ["drawLine"], ["drawBitmap", "pushImage"]]

/-- they have names that are words -/
theorem askedFor_word : ∀ names ∈ askedFor, ∀ name ∈ names, name.toList ≠ [] ∧ ∀ c ∈ name.toList, isWord c = true := by
  simp only [← List.all_eq_true]
  decide

theorem forms_asksFor : List.Forall₂ Form.AsksFor forms askedFor := by
  refine .cons (fun line h => ?_) <| .cons (rectangle?_asksFor _ _) <| .cons (roundRectangle?_asksFor _ _) <|
    .cons (fun line h => ?_) <| .cons (rectangle?_asksFor _ _) <| .cons (roundRectangle?_asksFor _ _) <|
    .cons (circleNamed?_asksFor _) <| .cons (fun line h => ?_) <| .cons (fun line h => ?_) .nil
  · rw [fillScreen?, h _ List.mem_cons_self]
  · rw [drawString?, h _ List.mem_cons_self]
  · rw [drawLine?, h _ List.mem_cons_self]
  · rw [bitmap?, h _ List.mem_cons_self, h "pushImage" (by decide)]

section Turns

variable {form : Form} {others more : List Form} {line : Line}

theorem firstOf_silent (h : form line = .ok none) : firstOf (form :: others) line = firstOf others line := by
  rw [firstOf, h]
  rfl

theorem firstOf_answers (h : form line ≠ .ok none) : firstOf (form :: others) line = form line := by
  rw [firstOf]
  cases hform : form line with
  | error fault => rfl
  | ok found =>
    cases found with
    | none => exact absurd hform h
    | some drawing => rfl

theorem firstOf_eq_none_iff : firstOf others line = .ok none ↔ ∀ other ∈ others, other line = .ok none := by
  induction others with
  | nil => exact iff_of_true rfl nofun
  | cons other others ih =>
    rw [List.forall_mem_cons]
    by_cases hnone : other line = .ok none
    · rw [firstOf_silent hnone, ih, and_iff_right hnone]
    · rw [firstOf_answers hnone]
      exact ⟨fun h => absurd h hnone, fun h => absurd h.1 hnone⟩

/-- forms behind others are tried if none of those answers -/
theorem firstOf_append_silent (h : firstOf others line = .ok none) : firstOf (others ++ more) line = firstOf more line := by
  induction others with
  | nil => rfl
  | cons other others ih =>
    obtain ⟨hother, hothers⟩ := List.forall_mem_cons.1 (firstOf_eq_none_iff.1 h)
    rw [List.cons_append, firstOf_silent hother]
    exact ih (firstOf_eq_none_iff.2 hothers)

theorem firstOf_append_answers (h : firstOf others line ≠ .ok none) :
    firstOf (others ++ more) line = firstOf others line := by
  induction others with
  | nil => exact absurd rfl h
  | cons other others ih =>
    by_cases hnone : other line = .ok none
    · rw [firstOf_silent hnone] at h
      rw [List.cons_append, firstOf_silent hnone, firstOf_silent hnone]
      exact ih h
    · rw [List.cons_append, firstOf_answers hnone, firstOf_answers hnone]

/-- of forms that are tried in turn, the only one that answers -/
theorem firstOf_only (hmem : form ∈ others) (h : ∀ other ∈ others, other line = .ok none ∨ other = form) :
    firstOf others line = form line := by
  by_cases hnone : form line = .ok none
  · rw [hnone]
    refine firstOf_eq_none_iff.2 fun other hother => ?_
    rcases h other hother with hother | rfl
    · exact hother
    · exact hnone
  · induction others with
    | nil => cases hmem
    | cons other others ih =>
      rw [List.forall_mem_cons] at h
      rcases h.1 with hother | rfl
      · -- the form that answers stands further down
        have hrest : form ∈ others := by
          rcases List.mem_cons.1 hmem with rfl | hrest
          · exact absurd hother hnone
          · exact hrest
        rw [firstOf_silent hother]
        exact ih hrest h.2
      · exact firstOf_answers hnone

/-- a line that calls functions of one form only is drawn as this form says -/
theorem drawing?_only {i : Nat} (hi : i < forms.length)
    (h : ∀ j (hj : j < askedFor.length), j ≠ i → ∀ name ∈ askedFor[j], arguments? line name.toList = none) :
    drawing? line = forms[i] line := by
  refine firstOf_only (List.getElem_mem hi) fun other hother => ?_
  obtain ⟨j, hj, rfl⟩ := List.getElem_of_mem hother
  by_cases hplace : j = i
  · subst hplace
    exact Or.inr rfl
  · exact Or.inl ((List.forall₂_iff_get.1 forms_asksFor).2 j hj hj line (h j hj hplace))

end Turns

/-! ## What the forms make of arguments -/

section Forms

variable {line : Line} {name : String} {tokens : List Line} {d : Drawing}

theorem fillScreen?_iff (hargs : arguments? line "fillScreen".toList = some tokens) :
    fillScreen? line = .ok (some d) ↔ ∃ colour, tokens = [colour] ∧ d = .fillScreen colour := by
  rw [fillScreen?, hargs]
  constructor
  · intro h
    split at h
    · rename_i colour hcolour
      obtain rfl := Option.some.inj hcolour
      exact ⟨colour, rfl, (Option.some.inj (Except.ok.inj h)).symm⟩
    · cases h
  · rintro ⟨colour, rfl, rfl⟩
    rfl

theorem rectangle?_iff {make : Box → Line → Drawing} (hargs : arguments? line name.toList = some tokens) :
    rectangle? name make line = .ok (some d) ↔ ∃ x y width height colour box,
      tokens = [x, y, width, height, colour] ∧ SpellsBox x y width height box ∧ d = make box colour := by
  have htrimmed := arguments?_trimmed hargs
  rw [rectangle?, hargs]
  constructor
  · intro h
    split at h
    · rename_i x y width height colour htokens
      obtain rfl := Option.some.inj htokens
      obtain ⟨box, hbox, rfl⟩ := (boxed_iff htrimmed (by simp)).1 h
      exact ⟨x, y, width, height, colour, box, rfl, hbox, rfl⟩
    · cases h
  · rintro ⟨x, y, width, height, colour, box, rfl, hbox, rfl⟩
    exact (boxed_iff htrimmed (by simp)).2 ⟨box, hbox, rfl⟩

theorem roundRectangle?_iff {f : Box → Int → Line → Option Line → Drawing} {names : List String} (hname : name ∈ names)
    (hother : ∀ other ∈ names, other ≠ name → arguments? line other.toList = none)
    (hargs : arguments? line name.toList = some tokens) :
    roundRectangle? f names line = .ok (some d) ↔ ∃ x y width height radius colour stroke box r,
      tokens = [x, y, width, height, radius, colour] ++ stroke.toList ∧ SpellsBox x y width height box ∧ Spells radius r ∧
        d = f box r colour stroke := by
  have htrimmed := arguments?_trimmed hargs
  induction names with
  | nil => cases hname
  | cons first names ih =>
    rw [List.forall_mem_cons] at hother
    by_cases hfirst : first = name
    · subst hfirst
      rw [roundRectangle?, hargs]
      constructor
      · intro h
        split at h
        · exact absurd ‹_› (Option.some_ne_none _)
        · rename_i x y width height radius colour htokens
          obtain rfl := Option.some.inj htokens
          have hmade := rounded_iff (d := d) (f := fun box r => f box r colour none) htrimmed
            (show [x, y, width, height, radius] ⊆ _ by simp)
          obtain ⟨box, r, hbox, hradius, rfl⟩ := hmade.1 h
          exact ⟨x, y, width, height, radius, colour, none, box, r, rfl, hbox, hradius, rfl⟩
        · rename_i x y width height radius colour stroke htokens
          obtain rfl := Option.some.inj htokens
          have hmade := rounded_iff (d := d) (f := fun box r => f box r colour (some stroke)) htrimmed
            (show [x, y, width, height, radius] ⊆ _ by simp)
          obtain ⟨box, r, hbox, hradius, rfl⟩ := hmade.1 h
          exact ⟨x, y, width, height, radius, colour, some stroke, box, r, rfl, hbox, hradius, rfl⟩
        · cases h
      · rintro ⟨x, y, width, height, radius, colour, stroke, box, r, rfl, hbox, hradius, rfl⟩
        have hmade := rounded_iff (d := f box r colour stroke) (f := fun box r => f box r colour stroke) htrimmed
          (show [x, y, width, height, radius] ⊆ _ by simp)
        cases stroke <;> exact hmade.2 ⟨box, r, hbox, hradius, rfl⟩
    · rw [roundRectangle?, hother.1 hfirst]
      exact ih ((List.mem_cons.1 hname).resolve_left (Ne.symm hfirst)) hother.2

theorem circleNamed?_iff {names : List (String × Bool)} {filled : Bool} (hname : name ∈ names.map Prod.fst)
    (hother : ∀ other ∈ names, other.1 ≠ name → arguments? line other.1.toList = none)
    (hfilled : ∀ other ∈ names, other.1 = name → other.2 = filled)
    (hargs : arguments? line name.toList = some tokens) :
    circleNamed? names line = .ok (some d) ↔ ∃ x y radius colour behind a b r,
      tokens = [x, y, radius, colour] ++ Option.toList behind ∧ Spells x a ∧ Spells y b ∧ Spells radius r ∧
        d = .circle a b r colour filled := by
  have htrimmed := arguments?_trimmed hargs
  induction names with
  | nil => cases hname
  | cons first names ih =>
    obtain ⟨other, solid⟩ := first
    rw [List.forall_mem_cons] at hother hfilled
    by_cases hfirst : other = name
    · obtain rfl : solid = filled := hfilled.1 hfirst
      subst hfirst
      rw [circleNamed?, hargs]
      constructor
      · intro h
        split at h
        · exact absurd ‹_› (Option.some_ne_none _)
        · rename_i x y radius colour htokens
          obtain rfl := Option.some.inj htokens
          have hmade := circled_iff (d := d) (f := fun a b r => .circle a b r colour solid) htrimmed
            (show [x, y, radius] ⊆ _ by simp)
          obtain ⟨a, b, r, hx, hy, hradius, rfl⟩ := hmade.1 h
          exact ⟨x, y, radius, colour, none, a, b, r, rfl, hx, hy, hradius, rfl⟩
        · -- what stands behind the colour does not count
          rename_i x y radius colour behind htokens
          obtain rfl := Option.some.inj htokens
          have hmade := circled_iff (d := d) (f := fun a b r => .circle a b r colour solid) htrimmed
            (show [x, y, radius] ⊆ _ by simp)
          obtain ⟨a, b, r, hx, hy, hradius, rfl⟩ := hmade.1 h
          exact ⟨x, y, radius, colour, some behind, a, b, r, rfl, hx, hy, hradius, rfl⟩
        · cases h
      · rintro ⟨x, y, radius, colour, behind, a, b, r, rfl, hx, hy, hradius, rfl⟩
        have hmade := circled_iff (d := .circle a b r colour solid) (f := fun a b r => .circle a b r colour solid) htrimmed
          (show [x, y, radius] ⊆ _ by simp)
        cases behind <;> exact hmade.2 ⟨a, b, r, hx, hy, hradius, rfl⟩
    · rw [circleNamed?, hother.1 hfirst]
      exact ih ((List.mem_cons.1 hname).resolve_left (Ne.symm hfirst)) hother.2 hfilled.2

theorem drawLine?_iff (hargs : arguments? line "drawLine".toList = some tokens) :
    drawLine? line = .ok (some d) ↔ ∃ x1 y1 x2 y2 colour a b a' b', tokens = [x1, y1, x2, y2, colour] ∧
      Spells x1 a ∧ Spells y1 b ∧ Spells x2 a' ∧ Spells y2 b' ∧ d = .drawLine a b a' b' colour := by
  have htrimmed := arguments?_trimmed hargs
  rw [drawLine?, hargs]
  constructor
  · intro h
    split at h
    · rename_i x1 y1 x2 y2 colour htokens
      obtain rfl := Option.some.inj htokens
      obtain ⟨values, hspells, hmake⟩ := (drawn_iff htrimmed (by simp)).1 h
      obtain _ | ⟨hx1, _ | ⟨hy1, _ | ⟨hx2, _ | ⟨hy2, _ | _⟩⟩⟩⟩ := hspells
      exact ⟨x1, y1, x2, y2, colour, _, _, _, _, rfl, hx1, hy1, hx2, hy2, (Option.some.inj hmake).symm⟩
    · cases h
  · rintro ⟨x1, y1, x2, y2, colour, a, b, a', b', rfl, hx1, hy1, hx2, hy2, rfl⟩
    exact (drawn_iff htrimmed (by simp)).2 ⟨_, .cons hx1 (.cons hy1 (.cons hx2 (.cons hy2 .nil))), rfl⟩

theorem bitmap?_iff_drawBitmap (hargs : arguments? line "drawBitmap".toList = some tokens) :
    bitmap? line = .ok (some d) ↔ ∃ x y data width height more box, tokens = x :: y :: data :: width :: height :: more ∧
      SpellsBox x y width height box ∧ d = .bitmap box more.head? := by
  have htrimmed := arguments?_trimmed hargs
  rw [bitmap?, hargs]
  constructor
  · intro h
    split at h
    · rename_i x y data width height more htokens
      obtain rfl := Option.some.inj htokens
      obtain ⟨box, hbox, rfl⟩ := (boxed_iff htrimmed (by simp)).1 h
      exact ⟨x, y, data, width, height, more, box, rfl, hbox, rfl⟩
    · cases h
    · rename_i hnone
      cases hnone
  · rintro ⟨x, y, data, width, height, more, box, rfl, hbox, rfl⟩
    exact (boxed_iff htrimmed (by simp)).2 ⟨box, hbox, rfl⟩

theorem bitmap?_iff_pushImage (hother : arguments? line "drawBitmap".toList = none)
    (hargs : arguments? line "pushImage".toList = some tokens) :
    bitmap? line = .ok (some d) ↔ ∃ x y width height data more box,
      tokens = x :: y :: width :: height :: data :: more ∧ SpellsBox x y width height box ∧ d = .bitmap box none := by
  have htrimmed := arguments?_trimmed hargs
  simp only [bitmap?, hother, hargs]
  constructor
  · intro h
    split at h
    · rename_i x y width height data more htokens
      obtain rfl := Option.some.inj htokens
      obtain ⟨box, hbox, rfl⟩ := (boxed_iff htrimmed (by simp)).1 h
      exact ⟨x, y, width, height, data, more, box, rfl, hbox, rfl⟩
    · cases h
  · rintro ⟨x, y, width, height, data, more, box, rfl, hbox, rfl⟩
    exact (boxed_iff htrimmed (by simp)).2 ⟨box, hbox, rfl⟩

end Forms

/-! ## Elements -/

/-- whether an argument stands for a colour -/
def Resolves (argument : Line) (colour : String) : Prop :=
  ∃ resolution, Colour.resolution argument = .ok resolution ∧ resolution.hex = colour

section Elements

variable {argument : Line} {arguments : Option Line} {colour : String} {e : Element}

theorem colourOf_iff : (colourOf argument).result = .ok colour ↔ Resolves argument colour := by
  constructor
  · intro h
    obtain ⟨resolution, hresolution, h⟩ := Traced.bind_eq_ok_iff.1 h
    refine ⟨resolution, hresolution, ?_⟩
    cases resolution <;> cases h <;> rfl
  · rintro ⟨resolution, hresolution, rfl⟩
    refine Traced.bind_eq_ok_iff.2 ⟨resolution, hresolution, ?_⟩
    cases resolution <;> rfl

theorem colourOf?_iff (hne : ∀ argument ∈ arguments, argument ≠ []) {found : Option String} :
    (colourOf? arguments).result = .ok found ↔ Option.Rel Resolves arguments found := by
  match arguments with
  | none =>
    constructor
    · intro h
      cases h
      exact .none
    · rintro ⟨⟩
      rfl
  | some [] => exact absurd rfl (hne [] rfl)
  | some (c :: cs) =>
    constructor
    · intro h
      obtain ⟨colour, hcolour, h⟩ := Traced.bind_eq_ok_iff.1 h
      cases h
      exact .some (colourOf_iff.1 hcolour)
    · rintro (hcolour | _)
      exact Traced.bind_eq_ok_iff.2 ⟨_, colourOf_iff.2 hcolour, rfl⟩

/-- what is made of the colour of an argument -/
theorem coloured_iff {f : String → Element} :
    (colourOf argument >>= fun colour => pure (f colour)).result = .ok e ↔
      ∃ colour, Resolves argument colour ∧ e = f colour := by
  rw [Traced.bind_eq_ok_iff]
  exact exists_congr fun colour => and_congr colourOf_iff ⟨fun h => (Except.ok.inj h).symm, fun h => congrArg _ h.symm⟩

/-- the element of a statement is that of its drawing -/
theorem command_iff {o : Options} {statement : Line} {number place : Int} :
    (command o statement number place).result = .ok (some e) ↔
      ∃ d, drawing? statement = .ok (some d) ∧ (d.element o number).result = .ok e := by
  refine ⟨command_inversion, fun ⟨d, hd, he⟩ => ?_⟩
  exact Traced.bind_eq_ok_iff.2 ⟨some d, hd, Traced.bind_eq_ok_iff.2 ⟨e, he, rfl⟩⟩

end Elements

end SketchPanel.Sketch

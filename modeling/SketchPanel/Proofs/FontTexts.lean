/-
Font texts. A text element sets its font as one text, the size in digits, `px`, a space and the family, and a surface that
writes the text reads size and family off it again. The digits end at a letter and the family starts at the first
character that is no blank, so the cut is settled before the family is looked at: a family that is one line without blanks
at its ends is read back whatever it looks like. The size is read as the floating number nearest to it, which is the size
itself as long as it has at most 53 binary digits.

Results:
- `Font.read_text`: size and family are read back, the size as the nearest floating number.
- `font_after_text`: the font that a surface is left with by a text.
- `font_read_back`: a surface reads the size and the family that the text was to have.
Witness:
- `sizes_for_family`: the largest size, and a family that looks like sizes.
-/
import SketchPanel.Proofs.FloatParts
import SketchPanel.Proofs.ShapeDrawings
import SketchPanel.Proofs.TrailingBlanks
import SketchPanel.Proofs.WrittenDigits

namespace SketchPanel

open Text Number

/-! ## Families -/

namespace Surface

/-- whether a family stands in a font text as it is: something on one line, without blanks at its ends -/
structure IsFamily (family : String) : Prop where
  ne_empty : family ≠ ""
  stripped : trim family.toList = family.toList
  oneLine : '\n' ∉ family.toList

/-- a text that trimming leaves as it is starts with no blank -/
theorem solid_head_of_trim {text : List Char} (h : trim text = text) : ∀ c ∈ text.head?, isBlank c = false := by
  rcases blank_or_solid text with hblank | ⟨blanks, c, rest, hblanks, hc, rfl⟩
  · rw [trim, trimStart, List.dropWhile_eq_nil_iff.2 hblank] at h
    rw [← h]
    simp [trimEnd]
  · have hsolid : trim (blanks ++ c :: rest) = [] ++ c :: trimEnd rest := by
      rw [trim, trimStart_solid hblanks hc]
      show trimEnd ([] ++ c :: rest) = _
      exact trimEnd_solid hc
    rw [hsolid] at h
    rw [← h]
    rintro d ⟨⟩
    exact hc

theorem withoutLineEnd_eq {text : List Char} (h : '\n' ∉ text) : withoutLineEnd text = text := by
  unfold withoutLineEnd
  split
  · rename_i rest hreverse
    exact absurd (List.mem_reverse.1 (hreverse ▸ List.mem_cons_self)) h
  · rfl

theorem fontSize?_digits {digits : List Char} (hne : digits ≠ []) (hdigits : ∀ d ∈ digits, isDigit d = true)
    (rest : List Char) : fontSize? (digits ++ 'p' :: rest) = some (digits, 'p' :: rest) := by
  have hrun : run? isDigit (digits ++ 'p' :: rest) = some (digits, 'p' :: rest) :=
    run?_eq_some_iff.2 ⟨rfl, hne, hdigits, by rintro c ⟨⟩; decide⟩
  simp only [fontSize?, hrun, Option.bind_eq_bind, Option.bind_some]
  rfl

theorem fontParts?_text {digits family : List Char} (hne : digits ≠ []) (hdigits : ∀ d ∈ digits, isDigit d = true)
    (hhead : ∀ c ∈ family.head?, isBlank c = false) (hline : '\n' ∉ family) :
    fontParts? (digits ++ 'p' :: 'x' :: ' ' :: family) = some (digits, family) := by
  have hstart : trimStart (digits ++ 'p' :: 'x' :: ' ' :: family) = digits ++ 'p' :: 'x' :: ' ' :: family := by
    obtain ⟨d, more, rfl⟩ := List.exists_cons_of_ne_nil hne
    have hsolid : ∀ c ∈ (d :: more ++ 'p' :: 'x' :: ' ' :: family).head?, isBlank c = false := by
      rintro c ⟨⟩
      exact isBlank_of_isDigit (hdigits d List.mem_cons_self)
    show trimStart ([] ++ _) = _
    exact trimStart_blanks (by simp) hsolid
  have hunit : after? ['p', 'x'] ('p' :: 'x' :: ' ' :: family) = some (' ' :: family) := rfl
  have hfamily : trimStart (' ' :: family) = family := by
    show trimStart ([' '] ++ family) = family
    exact trimStart_blanks (by simpa using isBlank_space) hhead
  simp only [fontParts?, hstart, fontSize?_digits hne hdigits, hunit, hfamily, withoutLineEnd_eq hline,
    Option.bind_eq_bind, Option.bind_some]
  simp [hline]

/-- **Font texts.** Size and family are read back, the size as the floating number nearest to it. -/
theorem Font.read_text {size : Nat} {family : String} (h : IsFamily family) :
    Font.read (Font.text (.int size) (.str family)) = ⟨nearest false size 1, family⟩ := by
  have htext : (Font.text (.int size) (.str family)).toList =
      Nat.toDigits 10 size ++ 'p' :: 'x' :: ' ' :: family.toList := by
    have hdigits : (toString (size : Int)).toList = Nat.toDigits 10 size := Nat.toList_repr
    show (toString (size : Int) ++ "px " ++ family).toList = _
    rw [String.toList_append, String.toList_append, hdigits, List.append_assoc]
    rfl
  have hdigits : ∀ d ∈ Nat.toDigits 10 size, isDigit d = true := fun d hd => isDigit_plain (plain_toDigits d hd)
  have hparts := fontParts?_text Nat.toDigits_ne_nil hdigits (solid_head_of_trim h.stripped) h.oneLine
  have hnumber := unsignedDecimal?_digits false Nat.toDigits_ne_nil hdigits
  have hne : family.toList ≠ [] := fun hnil => h.ne_empty (String.toList_eq_nil_iff.1 hnil)
  rw [Font.read, htext, hparts]
  simp only [hnumber, digitsNumber_toDigits, h.stripped, if_neg hne, Option.getD_some, String.ofList_toList]

end Surface

/-! ## Texts on a surface -/

namespace Frame

open Surface
open Imaging (Metrics)

section

variable [Metrics] {family : Json} {e : Element} {content chosen : String} {size : Int} {font : Option String}
  {align : Option Scene.Align} {baseline : Option Scene.Baseline}

/-- a text leaves a surface with its font, whether the text itself can be written or not -/
theorem font_after_text (hshape : e.shape = .text content (some (.int size)) font align baseline) (hcontent : content ≠ "")
    (s : Surface) : (s.run (program family e)).1.style.font = fontText family (some (.int size)) font := by
  have hlast : ∀ s : Surface, (s.run [.ok (.fillText content e.x e.y)]).1.style = s.style := by
    intro s
    rw [run_ok, apply]
    cases s.written content e.x e.y <;> rfl
  rw [program, hshape]
  simp only [text, if_neg hcontent]
  cases meant e.colour with
  | none =>
    rw [List.append_nil, List.singleton_append, run_ok, run_ok, run_ok]
    exact congrArg Style.font (hlast _)
  | some colour =>
    rw [List.singleton_append, List.cons_append, List.singleton_append, run_ok, run_ok, run_ok, run_ok]
    exact congrArg Style.font (hlast _)

/-- **Sizes and families.** Whatever the surface, the font that a text leaves on it is read as the size of the text and the
family that it is to have: its own, or the renderer's if it has none. The size is read without loss. -/
theorem font_read_back (hshape : e.shape = .text content (some (.int size)) font align baseline) (hcontent : content ≠ "")
    (hpositive : 0 < size) (hfits : size ≤ 2 ^ 53)
    (hchosen : font = some chosen ∨ font.getD "" = "" ∧ family = .str chosen) (hfamily : IsFamily chosen) (s : Surface) :
    ∃ x, Font.read (s.run (program family e)).1.style.font = ⟨x, chosen⟩ ∧ (Scalar.whole size).toFloat = .ok x ∧
      (Scalar.real x).same (.whole size) = true := by
  have htext : fontText family (some (.int size)) font = Font.text (.int size) (.str chosen) := by
    have hsize : meant (some (.int size)) = some (.int size) := by
      simp [meant, Json.truthy, hpositive.ne']
    rw [fontText, hsize]
    rcases hchosen with rfl | ⟨hnone, rfl⟩
    · simp [given, Option.filter, hfamily.ne_empty]
    · cases font with
      | none => rfl
      | some name =>
        obtain rfl : name = "" := hnone
        rfl
  obtain ⟨n, rfl⟩ := Int.eq_ofNat_of_zero_le hpositive.le
  obtain ⟨x, hx, hsame⟩ := ofWhole?_same (n := n) (by omega)
  have hnearest : nearest false n 1 = x := by
    have hwhole : nearest? false n 1 = some x := hx
    rw [nearest, hwhole, Option.getD_some]
  refine ⟨x, ?_, ?_, hsame⟩
  · rw [font_after_text hshape hcontent, htext, Font.read_text hfamily, hnearest]
  · rw [Scalar.toFloat, hx]

end

attribute [local instance] Metrics.halves

/-- a text without a family of its own, in the largest size -/
def sizes : Element :=
  { id := "text_0", x := 3, y := 4, shape := .text "IMG" (some (.int (2 ^ 53))) none none none }

/-- a family that looks like sizes is read back as it is, and so is the size -/
theorem sizes_for_family : IsFamily "9px 7.5 px" ∧
    ∃ x, Font.read ((⟨.int 10, .int 10, {}, [], [], .vector []⟩ : Surface).run
        (program (.str "9px 7.5 px") sizes)).1.style.font = ⟨x, "9px 7.5 px"⟩ ∧
      (Scalar.whole (2 ^ 53)).toFloat = .ok x ∧ (Scalar.real x).same (.whole (2 ^ 53)) = true := by
  have hfamily : IsFamily "9px 7.5 px" := ⟨by decide, by decide, by decide⟩
  exact ⟨hfamily, font_read_back rfl (by decide) (by decide) (by decide) (.inr ⟨rfl, rfl⟩) hfamily _⟩

end Frame

end SketchPanel

/-
Forms of elements. A drawing call makes an element of one of seven kinds, which the start of its id tells. The full-screen
fill is the one whose id starts with `bg_`: it lies lowest and covers the panel from the corner on. Texts lie highest, and
everything else between. So sorting by height puts fills before shapes before texts, each in the order of the sketch, and
the colour behind a screen is that of its first fill.

Results:
- `colourOf_hex`: every colour that is read is a hash and six digits of base sixteen in lower case.
- `fillScreen_iff`: a statement is a full-screen fill exactly if it calls `fillScreen` with one argument.
- `formed_of_drawing`: the element of a drawing call is well formed.
- `byHeight_levels`: elements of three heights, sorted.
- `elements_formed`: the elements of every screen of an outline.
Witness:
- `mixed_formed`: a text, a circle and two fills.
-/
import Mathlib.Tactic
import SketchPanel.Proofs.Answers
import SketchPanel.Proofs.HexColours
import SketchPanel.Proofs.ScreenPlans

namespace SketchPanel.Sketch

open SketchPanel.Text SketchPanel.Number SketchPanel.Scene

/-! ## Colours -/

/-- the digits of base sixteen in lower case -/
def hexCharacters : List Char := ['0', '1', '2', '3', '4', '5', '6', '7', '8', '9', 'a', 'b', 'c', 'd', 'e', 'f']

/-- whether a text is a hash and six such digits -/
def IsHexColour (text : String) : Prop :=
  ∃ digits, text.toList = '#' :: digits ∧ digits.length = 6 ∧ ∀ d ∈ digits, d ∈ hexCharacters

theorem toHex_isHexColour (c : Rgb) : IsHexColour (Colour.toHex c) := by
  refine ⟨Colour.hexDigits c, String.toList_ofList, Colour.length_hexDigits c, ?_⟩
  rw [Colour.hexDigits_eq]
  exact forall_hexPadded (by decide)

theorem black_isHexColour : IsHexColour Colour.black :=
  ⟨List.replicate 6 '0', by decide, by decide, fun d hd => by rw [List.eq_of_mem_replicate hd]; decide⟩

theorem IsHexColour.ne_empty {text : String} (h : IsHexColour text) : text ≠ "" := by
  obtain ⟨digits, htext, -⟩ := h
  rintro rfl
  cases htext

theorem resolution_hex {argument : Line} {resolution : Colour.Resolution}
    (h : Colour.resolution argument = .ok resolution) : IsHexColour resolution.hex := by
  unfold Colour.resolution at h
  dsimp only at h
  split at h
  · split at h
    · cases h
      exact toHex_isHexColour _
    · cases h
      exact black_isHexColour
  · split at h
    · obtain ⟨red, -, h⟩ := bind_eq_ok_iff.1 h
      obtain ⟨green, -, h⟩ := bind_eq_ok_iff.1 h
      obtain ⟨blue, -, h⟩ := bind_eq_ok_iff.1 h
      cases h
      exact toHex_isHexColour _
    · split at h
      · cases h
        exact toHex_isHexColour _
      · split at h
        · obtain ⟨code, -, h⟩ := bind_eq_ok_iff.1 h
          cases h
          exact toHex_isHexColour _
        · cases h
          exact black_isHexColour

/-- every colour that is read is written in hex -/
theorem colourOf_hex {argument : Line} {colour : String} (h : (colourOf argument).result = .ok colour) :
    IsHexColour colour := by
  obtain ⟨resolution, hresolution, h⟩ := Traced.bind_eq_ok_iff.1 h
  have hhex : colour = resolution.hex := by
    cases resolution <;> cases h <;> rfl
  rw [hhex]
  exact resolution_hex hresolution

theorem colourOf?_hex {argument : Option Line} {colour : Option String}
    (h : (colourOf? argument).result = .ok colour) : ∀ text ∈ colour, IsHexColour text := by
  unfold colourOf? at h
  split at h
  · obtain ⟨text, htext, h⟩ := Traced.bind_eq_ok_iff.1 h
    cases h
    rintro _ ⟨⟩
    exact colourOf_hex htext
  · cases h
    rintro _ ⟨⟩

/-! ## Which statements fill the screen -/

/-- whether all drawings that a form makes are such -/
def Form.Makes (form : Form) (such : Drawing → Prop) : Prop :=
  ∀ line drawing, form line = .ok (some drawing) → such drawing

section Makes

variable {such : Drawing → Prop}

theorem drawn_makes {texts : List Line} {make : List Int → Option Drawing} {drawing : Drawing}
    (hmake : ∀ values, ∀ found ∈ make values, such found) (h : drawn texts make = .ok (some drawing)) : such drawing := by
  unfold drawn at h
  cases hvalues : wholes texts with
  | error fault => rw [hvalues] at h; cases h
  | ok values =>
    rw [hvalues] at h
    obtain ⟨found, -, hfound⟩ := Option.bind_eq_some_iff.1 (Except.ok.inj h)
    exact hmake found drawing hfound

theorem boxed_makes {texts : List Line} {make : Box → Drawing} {drawing : Drawing} (hmake : ∀ box, such (make box))
    (h : boxed texts make = .ok (some drawing)) : such drawing := by
  refine drawn_makes (fun values found hfound => ?_) h
  split at hfound
  · cases hfound
    exact hmake _
  · cases hfound

theorem rectangle?_makes {name : String} {make : Box → Line → Drawing} (hmake : ∀ box colour, such (make box colour)) :
    (rectangle? name make).Makes such := by
  intro line drawing h
  unfold rectangle? at h
  split at h
  · exact boxed_makes (fun box => hmake box _) h
  · cases h

theorem roundRectangle?_makes {make : Box → Int → Line → Option Line → Drawing}
    (hmake : ∀ box radius colour stroke, such (make box radius colour stroke)) (names : List String) :
    (roundRectangle? make names).Makes such := by
  intro line drawing h
  induction names with
  | nil => cases h
  | cons name names ih =>
    rw [roundRectangle?] at h
    split at h
    case h_1 => exact ih h
    case h_4 => cases h
    all_goals
      refine drawn_makes (fun values found hfound => ?_) h
      split at hfound
      · cases hfound
        exact hmake _ _ _ _
      · cases hfound

theorem drawString?_makes (hmake : ∀ text x y, such (.drawString text x y)) : Form.Makes drawString? such := by
  intro line drawing h
  unfold drawString? at h
  dsimp only at h
  split at h
  case h_3 => cases h
  all_goals
    split at h
    · refine drawn_makes (fun values found hfound => ?_) h
      split at hfound
      · cases hfound
        exact hmake _ _ _
      · cases hfound
    · cases h

theorem circleNamed?_makes (hmake : ∀ cx cy radius colour filled, such (.circle cx cy radius colour filled))
    (names : List (String × Bool)) : (circleNamed? names).Makes such := by
  intro line drawing h
  induction names with
  | nil => cases h
  | cons name names ih =>
    rw [circleNamed?] at h
    split at h
    case h_1 => exact ih h
    case h_4 => cases h
    all_goals
      refine drawn_makes (fun values found hfound => ?_) h
      split at hfound
      · cases hfound
        exact hmake _ _ _ _ _
      · cases hfound

theorem drawLine?_makes (hmake : ∀ x1 y1 x2 y2 colour, such (.drawLine x1 y1 x2 y2 colour)) :
    Form.Makes drawLine? such := by
  intro line drawing h
  unfold drawLine? at h
  split at h
  · refine drawn_makes (fun values found hfound => ?_) h
    split at hfound
    · cases hfound
      exact hmake _ _ _ _ _
    · cases hfound
  · cases h

theorem bitmap?_makes (hmake : ∀ box colour, such (.bitmap box colour)) : Form.Makes bitmap? such := by
  intro line drawing h
  unfold bitmap? at h
  split at h
  · exact boxed_makes (fun box => hmake box _) h
  · cases h
  · split at h
    · exact boxed_makes (fun box => hmake box _) h
    · cases h

theorem firstOf_makes {forms : List Form} (h : ∀ form ∈ forms, form.Makes such) : (firstOf forms).Makes such := by
  intro line drawing hfound
  induction forms with
  | nil => cases hfound
  | cons form forms ih =>
    rw [List.forall_mem_cons] at h
    obtain ⟨found, hform, hfound⟩ := bind_eq_ok_iff.1 hfound
    cases found with
    | none => exact ih h.2 hfound
    | some found =>
      cases hfound
      exact h.1 line drawing hform

end Makes

/-- whether a statement calls `fillScreen` with one argument -/
def CallsFillScreen (statement : Line) : Prop := ∃ argument, arguments? statement "fillScreen".toList = some [argument]

/-- whether a drawing is a full-screen fill -/
def Drawing.isFill : Drawing → Bool
  | .fillScreen _ => true
  | _ => false

/-- no form but the first makes full-screen fills -/
theorem furtherForms_makes : (firstOf (forms.drop 1)).Makes fun d => d.isFill = false := by
  refine firstOf_makes fun form hform => ?_
  simp only [forms, List.drop_succ_cons, List.drop_zero, List.mem_cons, List.not_mem_nil, or_false] at hform
  rcases hform with rfl | rfl | rfl | rfl | rfl | rfl | rfl | rfl
  · exact rectangle?_makes fun _ _ => rfl
  · exact roundRectangle?_makes (fun _ _ _ _ => by rfl) _
  · exact drawString?_makes fun _ _ _ => rfl
  · exact rectangle?_makes fun _ _ => rfl
  · exact roundRectangle?_makes (fun _ _ _ _ => by rfl) _
  · exact circleNamed?_makes (fun _ _ _ _ _ => rfl) _
  · exact drawLine?_makes fun _ _ _ _ _ => rfl
  · exact bitmap?_makes fun _ _ => rfl

/-- a statement is a full-screen fill exactly if it calls `fillScreen` with one argument -/
theorem fillScreen_iff {statement : Line} {d : Drawing} (h : drawing? statement = .ok (some d)) :
    d.isFill = true ↔ CallsFillScreen statement := by
  obtain ⟨found, hfirst, h⟩ := bind_eq_ok_iff.1 h
  by_cases hcalls : CallsFillScreen statement
  · refine iff_of_true ?_ hcalls
    obtain ⟨argument, hargument⟩ := hcalls
    rw [fillScreen?, hargument] at hfirst
    cases hfirst
    cases h
    rfl
  · refine iff_of_false ?_ hcalls
    have hnone : fillScreen? statement = .ok none := by
      unfold fillScreen?
      split
      · exact absurd ⟨_, ‹_›⟩ hcalls
      · rfl
    rw [hnone] at hfirst
    cases hfirst
    rw [furtherForms_makes statement d h]
    exact Bool.false_ne_true

/-! ## What a drawing call makes -/

/-- what the id of the element starts with -/
def Drawing.mark : Drawing → String
  | .fillScreen _ => "bg_"
  | .fillRect .. => "rect_"
  | .drawRect .. => "rect_"
  | .fillRoundRect .. => "roundrect_"
  | .drawRoundRect .. => "roundrect_"
  | .drawString .. => "text_"
  | .circle .. => "circle_"
  | .drawLine .. => "line_"
  | .bitmap .. => "bitmap_"

/-- what ids start with -/
def marks : List String := ["bg_", "rect_", "roundrect_", "text_", "circle_", "line_", "bitmap_"]

theorem Drawing.mark_mem (d : Drawing) : d.mark ∈ marks := by
  cases d <;> simp [Drawing.mark, marks]

/-- only the mark of a full-screen fill is that of a background -/
theorem mark_background (d : Drawing) : Element.backgroundMark <+: d.mark.toList ↔ d.isFill = true := by
  have hmarks : ∀ mark ∈ marks, Element.backgroundMark <+: mark.toList ↔ mark = "bg_" := by decide
  rw [hmarks d.mark d.mark_mem]
  cases d with
  | fillScreen colour => exact iff_of_true rfl rfl
  | _ => exact iff_of_false (by simp [Drawing.mark]) Bool.false_ne_true

/-- whether a shape is a text -/
def isText : Shape → Bool
  | .text .. => true
  | _ => false

/-- a rectangle over the whole panel, lowest of all, in one colour -/
structure Fills (o : Options) (e : Element) : Prop where
  shape : e.shape = .rectangle
  corner : e.x = 0 ∧ e.y = 0
  size : e.width = o.width.given? ∧ e.height = o.height.given?
  colour : ∃ colour, e.colour = some (.str colour) ∧ e.background = some colour
  lowest : e.zIndex = 0

/-- how an element is formed, given whether it was made by a full-screen fill -/
structure Formed (o : Options) (fill : Prop) (e : Element) : Prop where
  visible : e.visible = true
  filled : Element.backgroundMark <+: e.id.toList ↔ fill ∧ Fills o e
  text : isText e.shape = true → e.zIndex = 2 ∧ e.colour = o.textColour.given?
  between : ¬ Element.backgroundMark <+: e.id.toList → isText e.shape = false → e.zIndex = 1
  colour : isText e.shape = false → ∀ value ∈ e.colour, ∃ text, value = .str text ∧ IsHexColour text
  background : ∀ text ∈ e.background, IsHexColour text
  circle : ∀ radius, e.shape = .circle radius →
    ∃ r, radius = some r ∧ e.width = some (.int (2 * r)) ∧ e.height = some (.int (2 * r))

section Drawings

variable {o : Options} {d : Drawing} {number : Int} {e : Element}

/-- the mark that an id starts with tells a full-screen fill -/
theorem id_background (hid : e.id = d.mark ++ toString number) :
    Element.backgroundMark <+: e.id.toList ↔ d.isFill = true := by
  rw [← mark_background, hid, String.toList_append]
  refine ⟨fun h => ?_, fun h => h.trans (List.prefix_append _ _)⟩
  have hlength : ∀ mark ∈ marks, Element.backgroundMark.length ≤ mark.toList.length := by decide
  exact List.prefix_of_prefix_length_le h (List.prefix_append _ _) (hlength d.mark d.mark_mem)

/-- an element between fills and texts -/
theorem Formed.plain (hfill : d.isFill = false) (hid : e.id = d.mark ++ toString number) (hvisible : e.visible = true)
    (hshape : isText e.shape = false) (hz : e.zIndex = 1)
    (hcolour : ∀ value ∈ e.colour, ∃ text, value = .str text ∧ IsHexColour text)
    (hbackground : ∀ text ∈ e.background, IsHexColour text)
    (hcircle : ∀ radius, e.shape = .circle radius →
      ∃ r, radius = some r ∧ e.width = some (.int (2 * r)) ∧ e.height = some (.int (2 * r))) :
    Formed o (d.isFill = true) e where
  visible := hvisible
  filled := by simp [id_background hid, hfill]
  text h := by rw [hshape] at h; cases h
  between _ _ := hz
  colour _ := hcolour
  background := hbackground
  circle := hcircle

theorem hexColour_str {text : String} (h : IsHexColour text) :
    ∀ value ∈ some (Json.str text), ∃ text, value = .str text ∧ IsHexColour text := by
  rintro _ ⟨⟩
  exact ⟨text, rfl, h⟩

theorem hexColour_some {text : String} (h : IsHexColour text) : ∀ other ∈ some text, IsHexColour other := by
  rintro _ ⟨⟩
  exact h

/-- **The element of a drawing.** Its id is the mark of the drawing and the number, and it is well formed. -/
theorem element_formed (h : (d.element o number).result = .ok e) :
    e.id = d.mark ++ toString number ∧ Formed o (d.isFill = true) e := by
  cases d with
  | fillScreen argument =>
    obtain ⟨c, hc, h⟩ := Traced.bind_eq_ok_iff.1 h
    cases h
    have hhex := colourOf_hex hc
    have hfill : (Drawing.fillScreen argument).isFill = true := rfl
    refine ⟨rfl, rfl, iff_of_true ((id_background rfl).2 hfill) ⟨hfill, ?_⟩, nofun, fun hmark => ?_,
      fun _ => hexColour_str hhex, hexColour_some hhex, nofun⟩
    · exact ⟨rfl, ⟨rfl, rfl⟩, ⟨rfl, rfl⟩, ⟨c, rfl, rfl⟩, rfl⟩
    · exact absurd ((id_background rfl).2 hfill) hmark
  | drawString text x y =>
    cases h
    have hfill : (Drawing.drawString text x y).isFill ≠ true := Bool.false_ne_true
    refine ⟨rfl, rfl, ?_, fun _ => ⟨rfl, rfl⟩, nofun, nofun, nofun, nofun⟩
    exact iff_of_false (fun hmark => hfill ((id_background rfl).1 hmark)) fun h => hfill h.1
  | fillRect box argument =>
    obtain ⟨c, hc, h⟩ := Traced.bind_eq_ok_iff.1 h
    cases h
    have hhex := colourOf_hex hc
    exact ⟨rfl, .plain rfl rfl rfl rfl rfl (hexColour_str hhex) (hexColour_some hhex) nofun⟩
  | drawRect box argument =>
    obtain ⟨c, hc, h⟩ := Traced.bind_eq_ok_iff.1 h
    cases h
    exact ⟨rfl, .plain rfl rfl rfl rfl rfl (hexColour_str (colourOf_hex hc)) nofun nofun⟩
  | fillRoundRect box radius argument stroke =>
    obtain ⟨c, hc, h⟩ := Traced.bind_eq_ok_iff.1 h
    obtain ⟨edge, hedge, h⟩ := Traced.bind_eq_ok_iff.1 h
    cases h
    have hhex := colourOf_hex hc
    have hstroke : IsHexColour (edge.getD c) := by
      cases edge with
      | none => exact hhex
      | some edge => exact colourOf?_hex hedge edge rfl
    exact ⟨rfl, .plain rfl rfl rfl rfl rfl (hexColour_str hstroke) (hexColour_some hhex) nofun⟩
  | drawRoundRect box radius argument stroke =>
    obtain ⟨c, hc, h⟩ := Traced.bind_eq_ok_iff.1 h
    cases h
    exact ⟨rfl, .plain rfl rfl rfl rfl rfl (hexColour_str (colourOf_hex hc)) nofun nofun⟩
  | circle cx cy radius argument filled =>
    obtain ⟨c, hc, h⟩ := Traced.bind_eq_ok_iff.1 h
    cases h
    have hhex := colourOf_hex hc
    refine ⟨rfl, .plain rfl rfl rfl rfl rfl (hexColour_str hhex) ?_ ?_⟩
    · cases filled with
      | true => exact hexColour_some hhex
      | false => exact nofun
    · rintro _ ⟨⟩
      have htwice : some (Json.int (radius * 2)) = some (.int (2 * radius)) := by rw [mul_comm]
      exact ⟨radius, rfl, htwice, htwice⟩
  | drawLine x1 y1 x2 y2 argument =>
    obtain ⟨c, hc, h⟩ := Traced.bind_eq_ok_iff.1 h
    cases h
    exact ⟨rfl, .plain rfl rfl rfl rfl rfl (hexColour_str (colourOf_hex hc)) nofun nofun⟩
  | bitmap box argument =>
    obtain ⟨c, hc, h⟩ := Traced.bind_eq_ok_iff.1 h
    cases h
    refine ⟨rfl, .plain rfl rfl rfl rfl rfl ?_ nofun nofun⟩
    cases c with
    | none => exact nofun
    | some c => exact hexColour_str (colourOf?_hex hc c rfl)

end Drawings

/-- what a statement draws is the element of its drawing -/
theorem command_inversion {o : Options} {statement : Line} {number place : Int} {e : Element}
    (h : (command o statement number place).result = .ok (some e)) :
    ∃ d, drawing? statement = .ok (some d) ∧ (d.element o number).result = .ok e := by
  obtain ⟨found, hfound, h⟩ := Traced.bind_eq_ok_iff.1 h
  cases found with
  | none =>
    obtain ⟨-, -, h⟩ := Traced.bind_eq_ok_iff.1 h
    cases h
  | some d =>
    obtain ⟨e', he, h⟩ := Traced.bind_eq_ok_iff.1 h
    cases h
    exact ⟨d, hfound, he⟩

theorem command_formed {o : Options} {statement : Line} {number place : Int} {e : Element}
    (h : (command o statement number place).result = .ok (some e)) : Formed o (CallsFillScreen statement) e := by
  obtain ⟨d, hd, he⟩ := command_inversion h
  rw [← fillScreen_iff hd]
  exact (element_formed he).2

/-! ## Sorting by height -/

section Sorting

variable {elements : List Element}

theorem below_trans (a b c : Element) (hab : (a.zIndex ≤ b.zIndex : Bool)) (hbc : (b.zIndex ≤ c.zIndex : Bool)) :
    (a.zIndex ≤ c.zIndex : Bool) := by
  rw [decide_eq_true_eq] at hab hbc ⊢
  exact hab.trans hbc

theorem below_total (a b : Element) : ((a.zIndex ≤ b.zIndex : Bool) || (b.zIndex ≤ a.zIndex : Bool)) = true := by
  simpa using le_total a.zIndex b.zIndex

theorem byHeight_sorted (elements : List Element) :
    (Element.byHeight elements).Pairwise fun a b => a.zIndex ≤ b.zIndex :=
  (List.pairwise_mergeSort below_trans below_total elements).imp fun h => of_decide_eq_true h

/-- elements of one height keep their order -/
theorem byHeight_level (elements : List Element) (z : Int) :
    (Element.byHeight elements).filter (·.zIndex = z) = elements.filter (·.zIndex = z) := by
  have hlevel : (elements.filter (·.zIndex = z)).Pairwise fun a b => (a.zIndex ≤ b.zIndex : Bool) := by
    refine List.pairwise_of_forall_mem_list fun a ha b hb => ?_
    have hza : a.zIndex = z := by simpa using (List.mem_filter.1 ha).2
    have hzb : b.zIndex = z := by simpa using (List.mem_filter.1 hb).2
    simp [hza, hzb]
  have hsub : List.Sublist (elements.filter (·.zIndex = z)) (Element.byHeight elements) :=
    List.sublist_mergeSort below_trans below_total hlevel List.filter_sublist
  have hsame := hsub.filter fun e => e.zIndex = z
  simp only [List.filter_filter, Bool.and_self] at hsame
  exact (hsame.eq_of_length ((List.mergeSort_perm elements _).filter _).length_eq.symm).symm

/-- sorted elements of three heights -/
theorem levels_of_sorted (hs : elements.Pairwise fun a b => a.zIndex ≤ b.zIndex)
    (hz : ∀ e ∈ elements, e.zIndex = 0 ∨ e.zIndex = 1 ∨ e.zIndex = 2) :
    elements = elements.filter (·.zIndex = 0) ++ elements.filter (·.zIndex = 1) ++ elements.filter (·.zIndex = 2) := by
  induction elements with
  | nil => rfl
  | cons e elements ih =>
    rw [List.pairwise_cons] at hs
    rw [List.forall_mem_cons] at hz
    have hrest := ih hs.2 hz.2
    -- nothing lower follows in a sorted list, so the heights below the first are empty
    have hnone : ∀ z < e.zIndex, elements.filter (·.zIndex = z) = [] := by
      intro z hlt
      refine List.filter_eq_nil_iff.2 fun b hb => ?_
      have := hs.1 b hb
      simp only [decide_eq_true_eq]
      omega
    rcases hz.1 with h | h | h
    · simpa [h] using hrest
    · have h0 := hnone 0 (by omega)
      simp only [h0, List.nil_append] at hrest
      simpa [h, h0] using hrest
    · have h0 := hnone 0 (by omega)
      have h1 := hnone 1 (by omega)
      simp only [h0, h1, List.nil_append] at hrest
      simpa [h, h0, h1] using hrest

/-- **Sorting.** Elements of three heights are sorted height by height, each in the old order. -/
theorem byHeight_levels (hz : ∀ e ∈ elements, e.zIndex = 0 ∨ e.zIndex = 1 ∨ e.zIndex = 2) :
    Element.byHeight elements =
      elements.filter (·.zIndex = 0) ++ elements.filter (·.zIndex = 1) ++ elements.filter (·.zIndex = 2) := by
  have hsorted := levels_of_sorted (byHeight_sorted elements) fun e he =>
    hz e ((List.mergeSort_perm elements _).mem_iff.1 he)
  rwa [byHeight_level, byHeight_level, byHeight_level] at hsorted

end Sorting

/-! ## Screens -/

/-- whether an element is what a statement draws, and well formed -/
def DrawnWell (o : Options) (e : Element) (statement : Line) : Prop :=
  (∃ number place, (command o statement number place).result = .ok (some e)) ∧ Formed o (CallsFillScreen statement) e

/-- elements come in the order of the statements that draw them -/
theorem elementsOf_drawnWell {o : Options} {place number : Int} {statements : List Line} {elements : List Element}
    (h : (elementsOf o place number statements).result = .ok elements) :
    List.SublistForall₂ (DrawnWell o) elements statements := by
  induction statements generalizing number elements with
  | nil =>
    cases h
    exact .nil
  | cons statement rest ih =>
    obtain ⟨here, hhere, h⟩ := Traced.bind_eq_ok_iff.1 h
    obtain ⟨others, hothers, h⟩ := Traced.bind_eq_ok_iff.1 h
    cases h
    cases here with
    | none => exact .cons_right (ih hothers)
    | some e => exact .cons ⟨⟨number, place, hhere⟩, command_formed hhere⟩ (ih hothers)

theorem exists_of_sublistForall₂ {α β : Type} {related : α → β → Prop} {xs : List α} {ys : List β}
    (h : List.SublistForall₂ related xs ys) : ∀ x ∈ xs, ∃ y ∈ ys, related x y := by
  induction h with
  | nil => rintro x ⟨⟩
  | cons hxy _ ih =>
    rw [List.forall_mem_cons]
    exact ⟨⟨_, List.mem_cons_self, hxy⟩, fun x hx => (ih x hx).imp fun y hy => ⟨List.mem_cons_of_mem _ hy.1, hy.2⟩⟩
  | cons_right _ ih => exact fun x hx => (ih x hx).imp fun y hy => ⟨List.mem_cons_of_mem _ hy.1, hy.2⟩

theorem isBackground_iff {e : Element} : e.isBackground = true ↔ Element.backgroundMark <+: e.id.toList :=
  after?_isSome_iff

namespace Formed

variable {o : Options} {fill : Prop} {e : Element}

/-- a full-screen fill is lowest -/
theorem zIndex_background (h : Formed o fill e) (hb : e.isBackground = true) : e.zIndex = 0 ∧ isText e.shape = false := by
  have hfills := (h.filled.1 (isBackground_iff.1 hb)).2
  refine ⟨hfills.lowest, ?_⟩
  rw [hfills.shape]
  rfl

theorem zIndex_shape (h : Formed o fill e) (hb : e.isBackground = false) (ht : isText e.shape = false) :
    e.zIndex = 1 :=
  h.between (fun hmark => by rw [isBackground_iff.2 hmark] at hb; cases hb) ht

/-- the height of an element tells what it is -/
theorem levels (h : Formed o fill e) :
    (e.zIndex = 0 ↔ e.isBackground = true) ∧ (e.zIndex = 1 ↔ (e.isBackground = false ∧ isText e.shape = false)) ∧
      (e.zIndex = 2 ↔ isText e.shape = true) := by
  cases ht : isText e.shape with
  | true =>
    have hz := (h.text ht).1
    have hb : e.isBackground ≠ true := fun hb => by rw [(h.zIndex_background hb).2] at ht; cases ht
    simp [hz, hb]
  | false =>
    cases hb : e.isBackground with
    | true => simp [(h.zIndex_background hb).1]
    | false => simp [h.zIndex_shape hb ht]

end Formed

/-- the colour of the first full-screen fill, which has one -/
theorem firstFill?_formed {o : Options} {elements : List Element} (h : ∀ e ∈ elements, ∃ fill, Formed o fill e) :
    Element.firstFill? elements = (elements.find? Element.isBackground).bind Element.background := by
  induction elements with
  | nil => rfl
  | cons e elements ih =>
    rw [List.forall_mem_cons] at h
    obtain ⟨⟨fill, he⟩, hrest⟩ := h
    rw [Element.firstFill?, List.findSome?_cons, List.find?_cons]
    cases hb : e.isBackground with
    | false =>
      simp only [Bool.false_eq_true, if_false]
      exact ih hrest
    | true =>
      obtain ⟨colour, -, hcolour⟩ := (he.filled.1 (isBackground_iff.1 hb)).2.colour
      have hkept : (some colour).filter (· ≠ "") = some colour := by
        simpa [Option.filter] using (he.background colour hcolour).ne_empty
      simp only [if_true, hcolour, hkept, Option.bind_some]

/-- whether the elements of a screen are well formed, in the order of the calls that draw them on some lines of the sketch
in a row; sorted by height, fills come before shapes and shapes before texts, each in their order; and behind
the screen is the colour of the first fill, black without one -/
structure WellFormed (o : Options) (lines : List Line) (screen : Screen) : Prop where
  drawn : ∃ first count, List.SublistForall₂ (DrawnWell o) screen.elements
    (((lines.drop first).take count).flatMap (callsOn o))
  sorted : Element.byHeight screen.elements = screen.elements.filter Element.isBackground ++
    screen.elements.filter (fun e => !e.isBackground && !isText e.shape) ++
      screen.elements.filter fun e => isText e.shape
  background : screen.background =
    ((screen.elements.find? Element.isBackground).bind Element.background).getD "#000000"

/-- **Well-formed elements.** The elements of every screen of an outline are well formed, whether or not the sketch was
read to its end. -/
theorem elements_formed (o : Options) (source : String) :
    ∀ screen ∈ (extract o source).1.screens, WellFormed o (lines source.toList) screen := by
  intro screen hs
  obtain ⟨id, name, count, first, number, inside, hinside, rfl⟩ := extract_readOff hs
  have hdrawn := elementsOf_drawnWell (contents_elements hinside)
  have heach : ∀ e ∈ inside.1, ∃ fill, Formed o fill e := fun e he =>
    (exists_of_sublistForall₂ hdrawn e he).imp' CallsFillScreen fun statement h => h.2.2
  refine ⟨⟨first, count, hdrawn⟩, ?_, ?_⟩
  · have hlevels : ∀ e ∈ inside.1, _ := fun e he => (heach e he).elim fun fill h => h.levels
    have hz : ∀ e ∈ inside.1, e.zIndex = 0 ∨ e.zIndex = 1 ∨ e.zIndex = 2 := by
      intro e he
      obtain ⟨h0, h1, h2⟩ := hlevels e he
      rw [h0, h1, h2]
      cases e.isBackground <;> cases isText e.shape <;> simp
    show Element.byHeight inside.1 = _
    rw [byHeight_levels hz]
    congr 1
    · congr 1
      · exact List.filter_congr fun e he => by simp [(hlevels e he).1]
      · exact List.filter_congr fun e he => by simp [(hlevels e he).2.1]
    · exact List.filter_congr fun e he => by simp [(hlevels e he).2.2]
  · show (Element.firstFill? inside.1).getD Colour.black = _
    rw [firstFill?_formed heach]
    rfl

/-- a text and a circle below which two fills are drawn, the first with a channel beyond 255 -/
def mixed : String :=
  "void drawHome() \x7b\n tft.drawString(\"a\", 1, 2);\n tft.fillCircle(5, 6, 3, 7); tft.fillScreen(rgbToHex(300,0,0));\n"
    ++ " tft.fillScreen(8);\n\x7d"

/-- the first fill is the one behind the screen -/
theorem mixed_formed : ∃ screen ∈ (extract usual mixed).1.screens,
    screen.elements.length = 4 ∧ screen.background = "#2c0000" ∧ WellFormed usual (lines mixed.toList) screen := by
  have hscreen : ∃ screen ∈ (extract usual mixed).1.screens,
      screen.elements.length = 4 ∧ screen.background = "#2c0000" := by
    decide +kernel
  obtain ⟨screen, hs, hlength, hbackground⟩ := hscreen
  exact ⟨screen, hs, hlength, hbackground, elements_formed usual mixed screen hs⟩

end SketchPanel.Sketch

/-
Statements that are a single call. The statement names a function of the panel library and writes its arguments, each a
whole-number literal or a word, with commas between them and any blanks around them. The name of a function may hold that
of another, but only the named one is called, so only its form answers. It draws exactly if the number of arguments is
one that the function takes and literals stand where it wants numbers, and then what the function draws.

Results:
- `CalledAlone.command_iff`: a line on which one function is called draws what this function draws.
- `Draws.allows`, `Primitive.Allows.draws`: a function draws something exactly with the arguments that it allows.
- `calledAlone_call`: the statement calls its function and no other.
- `single_call`: when the statement draws something, and what.
Witness:
- `single_circle`: a circle with blanks around its arguments.
-/
import Mathlib.Tactic
import SketchPanel.Proofs.TokenArguments

namespace SketchPanel.Sketch

open SketchPanel.Text SketchPanel.Number SketchPanel.Scene

/-! ## Functions -/

/-- the drawing functions without a text among their arguments -/
inductive Primitive where
  | fillScreen
  | fillRect
  | drawRect
  | fillRoundRect (smooth : Bool)
  | drawRoundRect (smooth : Bool)
  | fillCircle (smooth : Bool)
  | drawCircle
  | drawLine
  | drawBitmap
  | pushImage
  deriving DecidableEq, Repr

/-- whether whole-number literals stand at some places of a list -/
def LiteralsAt (tokens : List Line) (places : List Nat) : Prop :=
  ∀ i ∈ places, ∃ token ∈ tokens[i]?, ∃ n, Spells token n

namespace Primitive

/-- how a sketch calls the function -/
def name : Primitive → String
  | fillScreen => "fillScreen"
  | fillRect => "fillRect"
  | drawRect => "drawRect"
  | fillRoundRect false => "fillRoundRect"
  | fillRoundRect true => "fillSmoothRoundRect"
  | drawRoundRect false => "drawRoundRect"
  | drawRoundRect true => "drawSmoothRoundRect"
  | fillCircle false => "fillCircle"
  | fillCircle true => "fillSmoothCircle"
  | drawCircle => "drawCircle"
  | drawLine => "drawLine"
  | drawBitmap => "drawBitmap"
  | pushImage => "pushImage"

/-- the place of its form among the forms -/
def place : Primitive → Nat
  | fillScreen => 0
  | fillRect => 1
  | fillRoundRect _ => 2
  | drawRect => 4
  | drawRoundRect _ => 5
  | fillCircle _ => 6
  | drawCircle => 6
  | drawLine => 7
  | drawBitmap => 8
  | pushImage => 8

/-- whether the function takes this many arguments -/
def Takes : Primitive → Nat → Prop
  | fillScreen, n => n = 1
  | fillRect, n => n = 5
  | drawRect, n => n = 5
  | fillRoundRect _, n => n = 6 ∨ n = 7
  | drawRoundRect _, n => n = 6 ∨ n = 7
  | fillCircle _, n => n = 4 ∨ n = 5
  | drawCircle, n => n = 4 ∨ n = 5
  | drawLine, n => n = 5
  | drawBitmap, n => 5 ≤ n
  | pushImage, n => 5 ≤ n

/-- where its coordinates, sizes and radii stand among the arguments -/
def wholePlaces : Primitive → List Nat
  | fillScreen => []
  | fillRect => [0, 1, 2, 3]
  | drawRect => [0, 1, 2, 3]
  | fillRoundRect _ => [0, 1, 2, 3, 4]
  | drawRoundRect _ => [0, 1, 2, 3, 4]
  | fillCircle _ => [0, 1, 2]
  | drawCircle => [0, 1, 2]
  | drawLine => [0, 1, 2, 3]
  | drawBitmap => [0, 1, 3, 4]
  | pushImage => [0, 1, 2, 3]

/-- whether a function allows arguments: their number is right, and literals stand where it wants numbers -/
structure Allows (p : Primitive) (tokens : List Line) : Prop where
  count : p.Takes tokens.length
  whole : LiteralsAt tokens p.wholePlaces

theorem place_lt (p : Primitive) : p.place < forms.length := by
  cases p <;> simp [place, forms]

theorem asked (p : Primitive) : ∃ names ∈ askedFor, p.name ∈ names := by
  cases p with
  | fillRoundRect smooth => cases smooth <;> decide
  | drawRoundRect smooth => cases smooth <;> decide
  | fillCircle smooth => cases smooth <;> decide
  | _ => decide

/-- no other form asks for the function -/
theorem place_of_asked (p : Primitive) : ∀ i (hi : i < askedFor.length), p.name ∈ askedFor[i] → i = p.place := by
  cases p with
  | fillRoundRect smooth => cases smooth <;> decide
  | drawRoundRect smooth => cases smooth <;> decide
  | fillCircle smooth => cases smooth <;> decide
  | _ => decide

end Primitive

/-- what a function with these arguments draws, under a number -/
inductive Draws (o : Options) (number : Int) : Primitive → List Line → Element → Prop where
  | fillScreen {colour : Line} {fill : String} (hfill : Resolves colour fill) :
      Draws o number .fillScreen [colour]
        { id := "bg_" ++ toString number, shape := .rectangle, x := 0, y := 0
          width := o.width.given?, height := o.height.given?
          colour := some (.str fill), background := some fill, zIndex := zBackground }
  | fillRect {x y width height colour : Line} {box : Box} {fill : String} (hbox : SpellsBox x y width height box)
      (hfill : Resolves colour fill) :
      Draws o number .fillRect [x, y, width, height, colour]
        { id := "rect_" ++ toString number, shape := .rectangle, x := box.x, y := box.y
          width := some (.int box.width), height := some (.int box.height)
          colour := some (.str fill), background := some fill }
  | drawRect {x y width height colour : Line} {box : Box} {edge : String} (hbox : SpellsBox x y width height box)
      (hedge : Resolves colour edge) :
      Draws o number .drawRect [x, y, width, height, colour]
        { id := "rect_" ++ toString number, shape := .rectangle, x := box.x, y := box.y
          width := some (.int box.width), height := some (.int box.height)
          colour := some (.str edge) }
  /-- the edge has a colour of its own, if one is given -/
  | fillRoundRect {smooth : Bool} {x y width height radius colour : Line} {stroke : Option Line} {box : Box} {r : Int}
      {fill : String} {edge : Option String} (hbox : SpellsBox x y width height box) (hradius : Spells radius r)
      (hfill : Resolves colour fill) (hedge : Option.Rel Resolves stroke edge) :
      Draws o number (.fillRoundRect smooth) ([x, y, width, height, radius, colour] ++ stroke.toList)
        { id := "roundrect_" ++ toString number, shape := .roundedRectangle (some r), x := box.x, y := box.y
          width := some (.int box.width), height := some (.int box.height)
          colour := some (.str (edge.getD fill)), background := some fill }
  /-- the colour behind does not count -/
  | drawRoundRect {smooth : Bool} {x y width height radius colour : Line} {behind : Option Line} {box : Box} {r : Int}
      {edge : String} (hbox : SpellsBox x y width height box) (hradius : Spells radius r)
      (hedge : Resolves colour edge) :
      Draws o number (.drawRoundRect smooth) ([x, y, width, height, radius, colour] ++ behind.toList)
        { id := "roundrect_" ++ toString number, shape := .roundedRectangle (some r), x := box.x, y := box.y
          width := some (.int box.width), height := some (.int box.height)
          colour := some (.str edge) }
  | fillCircle {smooth : Bool} {x y radius colour : Line} {behind : Option Line} {a b r : Int} {fill : String}
      (hx : Spells x a) (hy : Spells y b) (hradius : Spells radius r) (hfill : Resolves colour fill) :
      Draws o number (.fillCircle smooth) ([x, y, radius, colour] ++ behind.toList)
        { id := "circle_" ++ toString number, shape := .circle (some r), x := a - r, y := b - r
          width := some (.int (r * 2)), height := some (.int (r * 2))
          colour := some (.str fill), background := some fill }
  | drawCircle {x y radius colour : Line} {behind : Option Line} {a b r : Int} {edge : String}
      (hx : Spells x a) (hy : Spells y b) (hradius : Spells radius r) (hedge : Resolves colour edge) :
      Draws o number .drawCircle ([x, y, radius, colour] ++ behind.toList)
        { id := "circle_" ++ toString number, shape := .circle (some r), x := a - r, y := b - r
          width := some (.int (r * 2)), height := some (.int (r * 2))
          colour := some (.str edge) }
  | drawLine {x1 y1 x2 y2 colour : Line} {a b a' b' : Int} {edge : String} (hx1 : Spells x1 a) (hy1 : Spells y1 b)
      (hx2 : Spells x2 a') (hy2 : Spells y2 b') (hedge : Resolves colour edge) :
      Draws o number .drawLine [x1, y1, x2, y2, colour]
        { id := "line_" ++ toString number, shape := .line (some a') (some b') (some 1), x := a, y := b
          colour := some (.str edge) }
  /-- the extents stand behind the data, and a colour may follow -/
  | drawBitmap {x y data width height : Line} {more : List Line} {box : Box} {edge : Option String}
      (hbox : SpellsBox x y width height box) (hedge : Option.Rel Resolves more.head? edge) :
      Draws o number .drawBitmap (x :: y :: data :: width :: height :: more)
        { id := "bitmap_" ++ toString number, shape := .bitmap, x := box.x, y := box.y
          width := some (.int box.width), height := some (.int box.height)
          colour := edge.map .str }
  | pushImage {x y width height data : Line} {more : List Line} {box : Box} (hbox : SpellsBox x y width height box) :
      Draws o number .pushImage (x :: y :: width :: height :: data :: more)
        { id := "bitmap_" ++ toString number, shape := .bitmap, x := box.x, y := box.y
          width := some (.int box.width), height := some (.int box.height) }

/-! ## What the forms draw -/

/-- whether a form makes an element of a line -/
def Form.Shows (form : Form) (o : Options) (number : Int) (line : Line) (e : Element) : Prop :=
  ∃ d, form line = .ok (some d) ∧ (d.element o number).result = .ok e

/-- whether a function has these arguments on a line, and no other function that a form asks for is called there -/
structure CalledAlone (p : Primitive) (line : Line) (tokens : List Line) : Prop where
  own : arguments? line p.name.toList = some tokens
  others : ∀ names ∈ askedFor, ∀ name ∈ names, name ≠ p.name → arguments? line name.toList = none
  nonempty : ∀ token ∈ tokens, token ≠ []

section Forms

variable {o : Options} {number : Int} {line : Line} {tokens : List Line} {e : Element}

theorem fillScreen?_shows (h : CalledAlone .fillScreen line tokens) :
    Form.Shows fillScreen? o number line e ↔ Draws o number .fillScreen tokens e := by
  constructor
  · rintro ⟨d, hd, he⟩
    obtain ⟨colour, rfl, rfl⟩ := (fillScreen?_iff h.own).1 hd
    obtain ⟨fill, hfill, rfl⟩ := coloured_iff.1 he
    exact .fillScreen hfill
  · intro hdraws
    cases hdraws with
    | fillScreen hfill => exact ⟨_, (fillScreen?_iff h.own).2 ⟨_, rfl, rfl⟩, coloured_iff.2 ⟨_, hfill, rfl⟩⟩

theorem fillRect?_shows (h : CalledAlone .fillRect line tokens) :
    Form.Shows fillRect? o number line e ↔ Draws o number .fillRect tokens e := by
  constructor
  · rintro ⟨d, hd, he⟩
    obtain ⟨x, y, width, height, colour, box, rfl, hbox, rfl⟩ := (rectangle?_iff h.own).1 hd
    obtain ⟨fill, hfill, rfl⟩ := coloured_iff.1 he
    exact .fillRect hbox hfill
  · intro hdraws
    cases hdraws with
    | fillRect hbox hfill =>
      exact ⟨_, (rectangle?_iff h.own).2 ⟨_, _, _, _, _, _, rfl, hbox, rfl⟩, coloured_iff.2 ⟨_, hfill, rfl⟩⟩

theorem drawRect?_shows (h : CalledAlone .drawRect line tokens) :
    Form.Shows drawRect? o number line e ↔ Draws o number .drawRect tokens e := by
  constructor
  · rintro ⟨d, hd, he⟩
    obtain ⟨x, y, width, height, colour, box, rfl, hbox, rfl⟩ := (rectangle?_iff h.own).1 hd
    obtain ⟨edge, hedge, rfl⟩ := coloured_iff.1 he
    exact .drawRect hbox hedge
  · intro hdraws
    cases hdraws with
    | drawRect hbox hedge =>
      exact ⟨_, (rectangle?_iff h.own).2 ⟨_, _, _, _, _, _, rfl, hbox, rfl⟩, coloured_iff.2 ⟨_, hedge, rfl⟩⟩

theorem fillRoundRect?_shows {smooth : Bool} (h : CalledAlone (.fillRoundRect smooth) line tokens) :
    Form.Shows fillRoundRect? o number line e ↔ Draws o number (.fillRoundRect smooth) tokens e := by
  have hform := fun d => roundRectangle?_iff (d := d) (f := .fillRoundRect)
    (show _ ∈ ["fillSmoothRoundRect", "fillRoundRect"] by cases smooth <;> simp [Primitive.name])
    (h.others _ (by simp [askedFor])) h.own
  constructor
  · rintro ⟨d, hd, he⟩
    obtain ⟨x, y, width, height, radius, colour, stroke, box, r, rfl, hbox, hradius, rfl⟩ := (hform d).1 hd
    obtain ⟨fill, hfill, he⟩ := Traced.bind_eq_ok_iff.1 he
    obtain ⟨edge, hedge, he⟩ := Traced.bind_eq_ok_iff.1 he
    cases he
    have hstroke : ∀ argument ∈ stroke, argument ≠ [] := fun argument harg =>
      h.nonempty _ (List.mem_append_right _ (Option.mem_toList.2 harg))
    exact .fillRoundRect hbox hradius (colourOf_iff.1 hfill) ((colourOf?_iff hstroke).1 hedge)
  · intro hdraws
    cases hdraws with
    | @fillRoundRect _ x y width height radius colour stroke box r fill edge hbox hradius hfill hedge =>
      have hstroke : ∀ argument ∈ stroke, argument ≠ [] := fun argument harg =>
        h.nonempty _ (List.mem_append_right _ (Option.mem_toList.2 harg))
      refine ⟨_, (hform _).2 ⟨_, _, _, _, _, _, _, _, _, rfl, hbox, hradius, rfl⟩, ?_⟩
      refine Traced.bind_eq_ok_iff.2 ⟨_, colourOf_iff.2 hfill, ?_⟩
      exact Traced.bind_eq_ok_iff.2 ⟨_, (colourOf?_iff hstroke).2 hedge, rfl⟩

theorem drawRoundRect?_shows {smooth : Bool} (h : CalledAlone (.drawRoundRect smooth) line tokens) :
    Form.Shows drawRoundRect? o number line e ↔ Draws o number (.drawRoundRect smooth) tokens e := by
  have hform := fun d => roundRectangle?_iff (d := d) (f := .drawRoundRect)
    (show _ ∈ ["drawSmoothRoundRect", "drawRoundRect"] by cases smooth <;> simp [Primitive.name])
    (h.others _ (by simp [askedFor])) h.own
  constructor
  · rintro ⟨d, hd, he⟩
    obtain ⟨x, y, width, height, radius, colour, behind, box, r, rfl, hbox, hradius, rfl⟩ := (hform d).1 hd
    obtain ⟨edge, hedge, rfl⟩ := coloured_iff.1 he
    exact .drawRoundRect hbox hradius hedge
  · intro hdraws
    cases hdraws with
    | drawRoundRect hbox hradius hedge =>
      refine ⟨_, (hform _).2 ⟨_, _, _, _, _, _, _, _, _, rfl, hbox, hradius, rfl⟩, ?_⟩
      exact coloured_iff.2 ⟨_, hedge, rfl⟩

theorem circle?_iff {p : Primitive} {filled : Bool} {d : Drawing} (h : CalledAlone p line tokens)
    (hp : (p.name, filled) ∈ [("fillSmoothCircle", true), ("fillCircle", true), ("drawCircle", false)]) :
    circle? line = .ok (some d) ↔ ∃ x y radius colour behind a b r,
      tokens = [x, y, radius, colour] ++ Option.toList behind ∧ Spells x a ∧ Spells y b ∧ Spells radius r ∧
        d = .circle a b r colour filled := by
  refine circleNamed?_iff (List.mem_map_of_mem hp) (fun other hother hne => ?_) (fun other hother hname => ?_) h.own
  · exact h.others _ (by simp [askedFor]) _ (List.mem_map_of_mem hother) hne
  · have hsame : ∀ first ∈ [("fillSmoothCircle", true), ("fillCircle", true), ("drawCircle", false)],
        ∀ second ∈ [("fillSmoothCircle", true), ("fillCircle", true), ("drawCircle", false)],
          first.1 = second.1 → first.2 = second.2 := by decide
    exact hsame other hother _ hp hname

theorem fillCircle_shows {smooth : Bool} (h : CalledAlone (.fillCircle smooth) line tokens) :
    Form.Shows circle? o number line e ↔ Draws o number (.fillCircle smooth) tokens e := by
  have hform := fun d => circle?_iff (d := d) h
    (show (_, true) ∈ _ by cases smooth <;> simp [Primitive.name])
  constructor
  · rintro ⟨d, hd, he⟩
    obtain ⟨x, y, radius, colour, behind, a, b, r, rfl, hx, hy, hradius, rfl⟩ := (hform d).1 hd
    obtain ⟨fill, hfill, rfl⟩ := coloured_iff.1 he
    exact .fillCircle hx hy hradius hfill
  · intro hdraws
    cases hdraws with
    | fillCircle hx hy hradius hfill =>
      refine ⟨_, (hform _).2 ⟨_, _, _, _, _, _, _, _, rfl, hx, hy, hradius, rfl⟩, ?_⟩
      exact coloured_iff.2 ⟨_, hfill, rfl⟩

theorem drawCircle_shows (h : CalledAlone .drawCircle line tokens) :
    Form.Shows circle? o number line e ↔ Draws o number .drawCircle tokens e := by
  have hform := fun d => circle?_iff (d := d) h (show (_, false) ∈ _ by simp [Primitive.name])
  constructor
  · rintro ⟨d, hd, he⟩
    obtain ⟨x, y, radius, colour, behind, a, b, r, rfl, hx, hy, hradius, rfl⟩ := (hform d).1 hd
    obtain ⟨edge, hedge, rfl⟩ := coloured_iff.1 he
    exact .drawCircle hx hy hradius hedge
  · intro hdraws
    cases hdraws with
    | drawCircle hx hy hradius hedge =>
      refine ⟨_, (hform _).2 ⟨_, _, _, _, _, _, _, _, rfl, hx, hy, hradius, rfl⟩, ?_⟩
      exact coloured_iff.2 ⟨_, hedge, rfl⟩

theorem drawLine?_shows (h : CalledAlone .drawLine line tokens) :
    Form.Shows drawLine? o number line e ↔ Draws o number .drawLine tokens e := by
  constructor
  · rintro ⟨d, hd, he⟩
    obtain ⟨x1, y1, x2, y2, colour, a, b, a', b', rfl, hx1, hy1, hx2, hy2, rfl⟩ := (drawLine?_iff h.own).1 hd
    obtain ⟨edge, hedge, rfl⟩ := coloured_iff.1 he
    exact .drawLine hx1 hy1 hx2 hy2 hedge
  · intro hdraws
    cases hdraws with
    | drawLine hx1 hy1 hx2 hy2 hedge =>
      refine ⟨_, (drawLine?_iff h.own).2 ⟨_, _, _, _, _, _, _, _, _, rfl, hx1, hy1, hx2, hy2, rfl⟩, ?_⟩
      exact coloured_iff.2 ⟨_, hedge, rfl⟩

theorem drawBitmap_shows (h : CalledAlone .drawBitmap line tokens) :
    Form.Shows bitmap? o number line e ↔ Draws o number .drawBitmap tokens e := by
  constructor
  · rintro ⟨d, hd, he⟩
    obtain ⟨x, y, data, width, height, more, box, rfl, hbox, rfl⟩ := (bitmap?_iff_drawBitmap h.own).1 hd
    obtain ⟨edge, hedge, he⟩ := Traced.bind_eq_ok_iff.1 he
    cases he
    have hmore : ∀ argument ∈ more.head?, argument ≠ [] := fun argument harg =>
      h.nonempty _ (by simp [List.mem_of_mem_head? harg])
    exact .drawBitmap hbox ((colourOf?_iff hmore).1 hedge)
  · intro hdraws
    cases hdraws with
    | @drawBitmap x y data width height more box edge hbox hedge =>
      have hmore : ∀ argument ∈ more.head?, argument ≠ [] := fun argument harg =>
        h.nonempty _ (by simp [List.mem_of_mem_head? harg])
      refine ⟨_, (bitmap?_iff_drawBitmap h.own).2 ⟨_, _, _, _, _, _, _, rfl, hbox, rfl⟩, ?_⟩
      exact Traced.bind_eq_ok_iff.2 ⟨_, (colourOf?_iff hmore).2 hedge, rfl⟩

theorem pushImage_shows (h : CalledAlone .pushImage line tokens) :
    Form.Shows bitmap? o number line e ↔ Draws o number .pushImage tokens e := by
  have hother : arguments? line "drawBitmap".toList = none :=
    h.others ["drawBitmap", "pushImage"] (by simp [askedFor]) _ (by simp) (by decide)
  constructor
  · rintro ⟨d, hd, he⟩
    obtain ⟨x, y, width, height, data, more, box, rfl, hbox, rfl⟩ := (bitmap?_iff_pushImage hother h.own).1 hd
    cases he
    exact .pushImage hbox
  · intro hdraws
    cases hdraws with
    | pushImage hbox =>
      exact ⟨_, (bitmap?_iff_pushImage hother h.own).2 ⟨_, _, _, _, _, _, _, rfl, hbox, rfl⟩, rfl⟩

/-- what a function that is called alone draws -/
theorem CalledAlone.command_iff {p : Primitive} {place : Int} (h : CalledAlone p line tokens) :
    (command o line number place).result = .ok (some e) ↔ Draws o number p tokens e := by
  have hsilent : ∀ i (hi : i < askedFor.length), i ≠ p.place → ∀ name ∈ askedFor[i], arguments? line name.toList = none := by
    intro i hi hne name hname
    refine h.others _ (List.getElem_mem hi) name hname fun hsame => hne ?_
    exact p.place_of_asked i hi (hsame ▸ hname)
  have hplace := p.place_lt
  rw [Sketch.command_iff, drawing?_only hplace hsilent]
  show Form.Shows forms[p.place] o number line e ↔ _
  cases p with
  | fillScreen => exact fillScreen?_shows h
  | fillRect => exact fillRect?_shows h
  | drawRect => exact drawRect?_shows h
  | fillRoundRect smooth => exact fillRoundRect?_shows h
  | drawRoundRect smooth => exact drawRoundRect?_shows h
  | fillCircle smooth => exact fillCircle_shows h
  | drawCircle => exact drawCircle_shows h
  | drawLine => exact drawLine?_shows h
  | drawBitmap => exact drawBitmap_shows h
  | pushImage => exact pushImage_shows h

end Forms

/-! ## Allowed arguments -/

section Allowed

variable {o : Options} {number : Int} {p : Primitive} {x y width height radius : Line} {tokens more : List Line} {e : Element}

theorem exists_spellsBox_iff : (∃ box, SpellsBox x y width height box) ↔
    (∃ n, Spells x n) ∧ (∃ n, Spells y n) ∧ (∃ n, Spells width n) ∧ ∃ n, Spells height n := by
  constructor
  · rintro ⟨box, hbox⟩
    exact ⟨⟨_, hbox.x⟩, ⟨_, hbox.y⟩, ⟨_, hbox.width⟩, ⟨_, hbox.height⟩⟩
  · rintro ⟨⟨a, hx⟩, ⟨b, hy⟩, ⟨w, hwidth⟩, ⟨h, hheight⟩⟩
    exact ⟨⟨a, b, w, h⟩, hx, hy, hwidth, hheight⟩

theorem literalsAt_box_iff : LiteralsAt (x :: y :: width :: height :: more) [0, 1, 2, 3] ↔
    ∃ box, SpellsBox x y width height box := by
  rw [exists_spellsBox_iff]
  simp [LiteralsAt]

theorem literalsAt_bitmap_iff {data : Line} : LiteralsAt (x :: y :: data :: width :: height :: more) [0, 1, 3, 4] ↔
    ∃ box, SpellsBox x y width height box := by
  rw [exists_spellsBox_iff]
  simp [LiteralsAt]

theorem literalsAt_round_iff : LiteralsAt (x :: y :: width :: height :: radius :: more) [0, 1, 2, 3, 4] ↔
    (∃ box, SpellsBox x y width height box) ∧ ∃ r, Spells radius r := by
  rw [exists_spellsBox_iff]
  simp [LiteralsAt, and_assoc]

theorem literalsAt_circle_iff : LiteralsAt (x :: y :: radius :: more) [0, 1, 2] ↔
    (∃ a, Spells x a) ∧ (∃ b, Spells y b) ∧ ∃ r, Spells radius r := by
  simp [LiteralsAt]

theorem Draws.allows (h : Draws o number p tokens e) : p.Allows tokens := by
  cases h with
  | fillScreen => exact ⟨rfl, nofun⟩
  | fillRect hbox => exact ⟨rfl, literalsAt_box_iff.2 ⟨_, hbox⟩⟩
  | drawRect hbox => exact ⟨rfl, literalsAt_box_iff.2 ⟨_, hbox⟩⟩
  | @fillRoundRect _ _ _ _ _ _ _ stroke _ _ _ _ hbox hradius =>
    exact ⟨by cases stroke <;> simp [Primitive.Takes], literalsAt_round_iff.2 ⟨⟨_, hbox⟩, _, hradius⟩⟩
  | @drawRoundRect _ _ _ _ _ _ _ behind _ _ _ hbox hradius =>
    exact ⟨by cases behind <;> simp [Primitive.Takes], literalsAt_round_iff.2 ⟨⟨_, hbox⟩, _, hradius⟩⟩
  | @fillCircle _ _ _ _ _ behind _ _ _ _ hx hy hradius =>
    exact ⟨by cases behind <;> simp [Primitive.Takes], literalsAt_circle_iff.2 ⟨⟨_, hx⟩, ⟨_, hy⟩, _, hradius⟩⟩
  | @drawCircle _ _ _ _ behind _ _ _ _ hx hy hradius =>
    exact ⟨by cases behind <;> simp [Primitive.Takes], literalsAt_circle_iff.2 ⟨⟨_, hx⟩, ⟨_, hy⟩, _, hradius⟩⟩
  | @drawLine _ _ _ _ _ a b a' b' _ hx1 hy1 hx2 hy2 =>
    exact ⟨rfl, literalsAt_box_iff.2 ⟨⟨a, b, a', b'⟩, hx1, hy1, hx2, hy2⟩⟩
  | drawBitmap hbox => exact ⟨by simp [Primitive.Takes], literalsAt_bitmap_iff.2 ⟨_, hbox⟩⟩
  | pushImage hbox => exact ⟨by simp [Primitive.Takes], literalsAt_box_iff.2 ⟨_, hbox⟩⟩

theorem exists_rel_resolves {token : Option Line} (h : ∀ text ∈ token, ∃ colour, Resolves text colour) :
    ∃ colour, Option.Rel Resolves token colour := by
  cases token with
  | none => exact ⟨none, .none⟩
  | some text =>
    obtain ⟨colour, hcolour⟩ := h text rfl
    exact ⟨some colour, .some hcolour⟩

/-- a list of one of two neighbouring lengths ends with an entry that may be missing -/
theorem exists_optional_last {n : Nat} (h : tokens.length = n ∨ tokens.length = n + 1) :
    ∃ front last, tokens = front ++ Option.toList last ∧ front.length = n := by
  rcases h with h | h
  · exact ⟨tokens, none, by simp, h⟩
  · obtain ⟨front, last, rfl⟩ := (List.eq_nil_or_concat' tokens).resolve_left (by rintro rfl; simp at h)
    exact ⟨front, some last, rfl, by simpa using h⟩

/-- **Allowed arguments.** With arguments that it allows, and whose colours can be read, a function draws something. -/
theorem Primitive.Allows.draws (h : p.Allows tokens) (hcolours : ∀ token ∈ tokens, ∃ colour, Resolves token colour) :
    ∃ e, Draws o number p tokens e := by
  obtain ⟨hcount, hwhole⟩ := h
  cases p with
  | fillScreen =>
    match tokens, hcount with
    | [colour], _ =>
      obtain ⟨fill, hfill⟩ := hcolours colour (by simp)
      exact ⟨_, .fillScreen hfill⟩
  | fillRect =>
    match tokens, hcount with
    | [x, y, width, height, colour], _ =>
      obtain ⟨box, hbox⟩ := literalsAt_box_iff.1 hwhole
      obtain ⟨fill, hfill⟩ := hcolours colour (by simp)
      exact ⟨_, .fillRect hbox hfill⟩
  | drawRect =>
    match tokens, hcount with
    | [x, y, width, height, colour], _ =>
      obtain ⟨box, hbox⟩ := literalsAt_box_iff.1 hwhole
      obtain ⟨edge, hedge⟩ := hcolours colour (by simp)
      exact ⟨_, .drawRect hbox hedge⟩
  | fillRoundRect smooth =>
    obtain ⟨front, stroke, rfl, hfront⟩ := exists_optional_last hcount
    match front, hfront with
    | [x, y, width, height, radius, colour], _ =>
      obtain ⟨⟨box, hbox⟩, r, hradius⟩ := literalsAt_round_iff.1 hwhole
      obtain ⟨fill, hfill⟩ := hcolours colour (by simp)
      obtain ⟨edge, hedge⟩ := exists_rel_resolves fun text htext =>
        hcolours text (List.mem_append_right _ (Option.mem_toList.2 htext))
      exact ⟨_, .fillRoundRect hbox hradius hfill hedge⟩
  | drawRoundRect smooth =>
    obtain ⟨front, behind, rfl, hfront⟩ := exists_optional_last hcount
    match front, hfront with
    | [x, y, width, height, radius, colour], _ =>
      obtain ⟨⟨box, hbox⟩, r, hradius⟩ := literalsAt_round_iff.1 hwhole
      obtain ⟨edge, hedge⟩ := hcolours colour (by simp)
      exact ⟨_, .drawRoundRect hbox hradius hedge⟩
  | fillCircle smooth =>
    obtain ⟨front, behind, rfl, hfront⟩ := exists_optional_last hcount
    match front, hfront with
    | [x, y, radius, colour], _ =>
      obtain ⟨⟨a, hx⟩, ⟨b, hy⟩, r, hradius⟩ := literalsAt_circle_iff.1 hwhole
      obtain ⟨fill, hfill⟩ := hcolours colour (by simp)
      exact ⟨_, .fillCircle hx hy hradius hfill⟩
  | drawCircle =>
    obtain ⟨front, behind, rfl, hfront⟩ := exists_optional_last hcount
    match front, hfront with
    | [x, y, radius, colour], _ =>
      obtain ⟨⟨a, hx⟩, ⟨b, hy⟩, r, hradius⟩ := literalsAt_circle_iff.1 hwhole
      obtain ⟨edge, hedge⟩ := hcolours colour (by simp)
      exact ⟨_, .drawCircle hx hy hradius hedge⟩
  | drawLine =>
    match tokens, hcount with
    | [x1, y1, x2, y2, colour], _ =>
      obtain ⟨ends, hends⟩ := literalsAt_box_iff.1 hwhole
      obtain ⟨edge, hedge⟩ := hcolours colour (by simp)
      exact ⟨_, .drawLine hends.x hends.y hends.width hends.height hedge⟩
  | drawBitmap =>
    match tokens, hcount with
    | x :: y :: data :: width :: height :: more, _ =>
      obtain ⟨box, hbox⟩ := literalsAt_bitmap_iff.1 hwhole
      have hmore : ∀ text ∈ more, ∃ colour, Resolves text colour := fun text htext => hcolours text (by simp [htext])
      obtain ⟨edge, hedge⟩ := exists_rel_resolves fun text htext => hmore text (List.mem_of_mem_head? htext)
      exact ⟨_, .drawBitmap hbox hedge⟩
  | pushImage =>
    match tokens, hcount with
    | x :: y :: width :: height :: data :: more, _ =>
      obtain ⟨box, hbox⟩ := literalsAt_box_iff.1 hwhole
      exact ⟨_, .pushImage hbox⟩

end Allowed

/-! ## The statement -/

/-- a statement that is a call of a function of the library -/
def call (p : Primitive) (text : Line) : Line := library ++ p.name.toList ++ '(' :: (text ++ [')'])

section Statement

variable {p : Primitive} {tokens : List Line} {text : Line}

theorem Primitive.name_word (p : Primitive) : p.name.toList ≠ [] ∧ ∀ c ∈ p.name.toList, isWord c = true := by
  obtain ⟨names, hnames, hname⟩ := p.asked
  exact askedFor_word names hnames p.name hname

theorem calledAlone_call (h : Written tokens text) : CalledAlone p (call p text) tokens where
  own := by
    obtain ⟨parts, hparts, htokens⟩ : ∃ parts, CallArguments (text ++ [')']) parts ∧
        tokens = if parts.map trim = [[]] then [] else parts.map trim := h.arguments
    have hcall : FirstCall (call p text) p.name.toList (text ++ [')']) := firstCall_library p.name_word.2 p.name_word.1
    exact arguments?_eq_some_iff.2 ⟨_, parts, hcall, hparts, htokens⟩
  others := by
    intro names hnames name hname hne
    obtain ⟨hsome, hword⟩ := askedFor_word names hnames name hname
    refine arguments?_of_not_called fun hcalled => hne ?_
    have hsplit : call p text = "tft".toList ++ '.' :: (p.name.toList ++ '(' :: (text ++ [')'])) := by
      simp [call, library]
    rw [hsplit] at hcalled
    -- before the point stands no bracket, and behind it the one behind the name
    rcases calledIn_beside hword severs_point hcalled with hcalled | hcalled
    · exact absurd hcalled (not_calledIn_of_no_bracket (by decide))
    · have hrest : '(' ∉ text ++ [')'] := by simpa using h.no_bracket
      exact String.toList_inj.1 (calledIn_single p.name_word.2 hrest hword hsome hcalled)
  nonempty := fun token htoken => (h.isToken token htoken).ne_nil

/-- **A single call.** The statement draws something exactly if the function allows the arguments, it draws what the
function draws with them, and with other arguments it draws nothing. -/
theorem single_call (o : Options) (number place : Int) (hwritten : Written tokens text)
    (hshort : ∀ run, DigitRun (call p text) run → run.length ≤ digitLimit) :
    ((∃ e, (command o (call p text) number place).result = .ok (some e)) ↔ p.Allows tokens) ∧
      (∀ e, (command o (call p text) number place).result = .ok (some e) ↔ Draws o number p tokens e) ∧
      (¬ p.Allows tokens → (command o (call p text) number place).result = .ok none) := by
  have halone : CalledAlone p (call p text) tokens := calledAlone_call hwritten
  have hdraws : ∀ e, (command o (call p text) number place).result = .ok (some e) ↔ Draws o number p tokens e :=
    fun e => halone.command_iff
  have hcolours : ∀ token ∈ tokens, ∃ colour, Resolves token colour := by
    intro token htoken
    have hread := (resolution_reads token).within (arguments?_within halone.own token htoken)
    obtain ⟨resolution, hresolution, -⟩ := hread.answers hshort
    exact ⟨_, resolution, hresolution, rfl⟩
  refine ⟨⟨?_, fun hallows => ?_⟩, hdraws, fun hnot => ?_⟩
  · rintro ⟨e, he⟩
    exact ((hdraws e).1 he).allows
  · obtain ⟨e, he⟩ := hallows.draws hcolours
    exact ⟨e, (hdraws e).2 he⟩
  · obtain ⟨found, hfound, -⟩ := (command_reads o (call p text) number place).answers hshort
    cases found with
    | none => exact hfound
    | some e => exact absurd ((hdraws e).1 hfound).allows hnot

end Statement

/-- a corner with a sign and blanks around the arguments -/
def circleText : Line := " 10 ,+7,\t5, TFT_RED ".toList

theorem circle_written : Written ["10".toList, "+7".toList, "5".toList, "TFT_RED".toList] circleText := by
  have hspace : ∀ c ∈ [' '], isBlank c = true := List.forall_mem_singleton.2 isBlank_space
  have hnone : ∀ c ∈ ([] : Line), isBlank c = true := List.forall_mem_nil _
  have h10 : Padded "10".toList " 10 ".toList :=
    ⟨Or.inl ⟨10, signedDigits_iff.1 (by decide +kernel)⟩, [' '], [' '], hspace, hspace, by decide⟩
  have h7 : Padded "+7".toList "+7".toList :=
    ⟨Or.inl ⟨7, signedDigits_iff.1 (by decide +kernel)⟩, [], [], hnone, hnone, by decide⟩
  have h5 : Padded "5".toList "\t5".toList :=
    ⟨Or.inl ⟨5, signedDigits_iff.1 (by decide +kernel)⟩, ['\t'], [], List.forall_mem_singleton.2 (by decide), hnone,
      by decide⟩
  have hred : Padded "TFT_RED".toList " TFT_RED ".toList :=
    ⟨Or.inr ⟨by decide, List.all_eq_true.1 (by decide)⟩, [' '], [' '], hspace, hspace, by decide⟩
  exact .cons h10 (by decide) (.cons h7 (by decide) (.cons h5 (by decide) (.last hred)))

/-- the box of the circle goes from the centre to both sides -/
theorem single_circle : (command usual (call (.fillCircle true) circleText) 3 1).result = .ok (some
    { id := "circle_3", shape := .circle (some 5), x := 5, y := 2, width := some (.int 10), height := some (.int 10)
      colour := some (.str "#ff0000"), background := some "#ff0000" }) := by
  have hshort : ∀ run, DigitRun (call (.fillCircle true) circleText) run → run.length ≤ digitLimit :=
    fun run hrun => hrun.within.length_le.trans (by decide)
  have hred : Resolves "TFT_RED".toList "#ff0000" := ⟨.colour "#ff0000", by rfl, rfl⟩
  refine ((single_call usual 3 1 circle_written hshort).2.1 _).2 ?_
  have hx : Spells "10".toList 10 := signedDigits_iff.1 (by decide +kernel)
  have hy : Spells "+7".toList 7 := signedDigits_iff.1 (by decide +kernel)
  have hradius : Spells "5".toList 5 := signedDigits_iff.1 (by decide +kernel)
  exact show Draws usual 3 (.fillCircle true) (["10".toList, "+7".toList, "5".toList, "TFT_RED".toList] ++
    Option.toList none) _ from .fillCircle hx hy hradius hred

end SketchPanel.Sketch

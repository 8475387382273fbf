/-
Pixels of a frame of boxes. Ink without opacity puts its colour in place of what was there, and a box that reaches a
pixel is laid on what lies below; so what a pixel shows is the last box that reaches it, or the background.

Rectangles are painted with edges rounded to registers. `Painted` says that this does not show in the frame.

Results:
- `under_solid`: opaque ink puts its colour in place of any other.
- `boxLayers_over`: a box changes the pixels that it covers, and no other.
- `pixel_topmost`: a pixel of a frame of boxes has the colour of the last box over it. Witness: `stacked_topmost`.
-/
import Mathlib.Tactic
import SketchPanel.Proofs.FrameParts
import SketchPanel.Proofs.HexColours
import SketchPanel.Proofs.RegisterEdges

namespace SketchPanel.Colour

open Text

/-! ## Six digits -/

/-- a hash and six digits in hex -/
def SixDigits (text : String) : Prop :=
  text.toList.head? = some '#' ∧ text.toList.tail.length = 6 ∧ text.toList.tail.all isHexDigit = true

instance (text : String) : Decidable (SixDigits text) := inferInstanceAs (Decidable (_ ∧ _ ∧ _))

/-- six digits are an opaque colour -/
theorem hexText?_sixDigits {text : String} (h : SixDigits text) :
    ∃ digits, hexText? text.toList = some ⟨digits, []⟩ := by
  obtain ⟨hhash, hlength, hhex⟩ := h
  obtain ⟨digits, htext⟩ := List.head?_eq_some_iff.mp hhash
  rw [htext, List.tail_cons] at hlength hhex
  refine ⟨digits, ?_⟩
  rw [htext]
  exact hexText?_hashed hlength (List.all_eq_true.1 hhex)

theorem rgb_bounds (t : HexText) : ∃ r g b : Nat, t.rgb = ⟨r, g, b⟩ ∧ r < 256 ∧ g < 256 ∧ b < 256 :=
  ⟨_, _, _, rfl, Nat.mod_lt _ (by decide), Nat.mod_lt _ (by decide), Nat.mod_lt _ (by decide)⟩

end SketchPanel.Colour

namespace SketchPanel.Surface

open Number Imaging

/-! ## Ink on pixels -/

theorem blend_solid (old new : Nat) (h : new < 256) : blend old new 255 = new := by
  simp only [blend]
  omega

theorem clip_channel {n : Nat} (h : n < 256) : clip n = n := by
  unfold clip
  omega

/-- opaque ink puts its colour in place of any other -/
theorem under_solid (p : Pixel) {r g b : Nat} (hr : r < 256) (hg : g < 256) (hb : b < 256) :
    p.under ⟨⟨r, g, b⟩, 255⟩ = ⟨r, g, b⟩ := by
  have halpha : clip 255 = 255 := clip_channel (n := 255) (by decide)
  simp only [Pixel.under, halpha, clip_channel hr, clip_channel hg, clip_channel hb, blend_solid _ _ hr,
    blend_solid _ _ hg, blend_solid _ _ hb]

theorem inkable_channels {r g b : Nat} (hr : r < 256) (hg : g < 256) (hb : b < 256) :
    inkable ⟨⟨r, g, b⟩, 255⟩ = .ok () := by
  have hheld : ∀ n : Nat, n < 256 → wide n = .ok (n : Int) ∧ narrow n = .ok (n : Int) := by
    intro n hn
    have hwide : holds 64 n = true := holds_wide.mpr (by omega)
    have hnarrow : holds 32 n = true := holds_narrow.mpr (by omega)
    exact ⟨by rw [wide, if_pos hwide], by simp [narrow, hwide, hnarrow]⟩
  have halpha := (hheld 255 (by decide)).2
  rw [Nat.cast_ofNat] at halpha
  simp only [inkable, (hheld r hr).1, (hheld g hg).2, (hheld b hb).2, halpha]
  rfl

/-! ## Filled boxes -/

/-- the pixel of a colour in hex -/
def pixelOf (text : String) : Pixel :=
  match Colour.hexText? text.toList with
  | some t => ⟨t.rgb.red.toNat, t.rgb.green.toNat, t.rgb.blue.toNat⟩
  | none => .black

theorem hexToRgb_pixelOf {text : String} (h : Colour.SixDigits text) :
    Colour.hexToRgb text = .ok ⟨(pixelOf text).red, (pixelOf text).green, (pixelOf text).blue⟩ := by
  obtain ⟨digits, hdigits⟩ := Colour.hexText?_sixDigits h
  obtain ⟨r, g, b, hrgb, -⟩ := Colour.rgb_bounds ⟨digits, []⟩
  simp [Colour.hexToRgb, pixelOf, hdigits, hrgb]

/-- six digits are an ink that can be held, and that puts its colour in place of any other -/
theorem inkOf_sixDigits {text : String} (h : Colour.SixDigits text) :
    ∃ colour, inkOf (.str text) = .ok colour ∧ inkable colour = .ok () ∧
      ∀ p : Pixel, p.under colour = pixelOf text := by
  obtain ⟨digits, hdigits⟩ := Colour.hexText?_sixDigits h
  obtain ⟨r, g, b, hrgb, hr, hg, hb⟩ := Colour.rgb_bounds ⟨digits, []⟩
  refine ⟨⟨⟨r, g, b⟩, 255⟩, ?_, inkable_channels hr hg hb, fun p => ?_⟩
  · have hrgba : Colour.toRgba text = .ok ⟨⟨r, g, b⟩, 255⟩ := by
      simp [Colour.toRgba_eq, hdigits, hrgb, Colour.HexText.alpha]
    show (Colour.toRgba text).mapError Fault.specifier = _
    rw [hrgba]
    rfl
  · rw [under_solid p hr hg hb]
    simp [pixelOf, hdigits, hrgb]

/-- between edges that are in order an ink that can be held is painted; a corner that is lost shows afterwards -/
theorem filled_inked {x0 y0 x1 y1 : Int} {colour : Rgba} (hinkable : inkable colour = .ok ())
    (hx : border x0 ≤ border x1) (hy : border y0 ≤ border y1) :
    filled x0 y0 x1 y1 colour = .ok (inked (border x0) (border y0) (border x1) (border y1) colour,
      if [x0, y0, x1, y1].all (holds 64) then .ok () else .error .cornerLost) := by
  simp only [filled, hinkable, not_lt.mpr hx, not_lt.mpr hy, if_false]
  rfl

section

variable {t : Surface} {text : String} {x y sw sh : Int}

theorem filledBox_whole {style : Style} {colour : Rgba} (hink : inkOf style.fill = .ok colour)
    (hinkable : inkable colour = .ok ()) (hx : border x ≤ border (x + sw - 1)) (hy : border y ≤ border (y + sh - 1)) :
    filledBox style x y (.whole sw) (.whole sh) =
      .ok (inked (border x) (border y) (border (x + sw - 1)) (border (y + sh - 1)) colour,
        if [x, y, x + sw - 1, y + sh - 1].all (holds 64) then
          .ok (.rectangle x y (x + sw - 1) (y + sh - 1) colour)
        else .error (.imaging .cornerLost)) := by
  have hround : ∀ n : Int, Scalar.round (.whole n) = .ok n := fun _ => rfl
  have hadd : ∀ m n : Int, (Scalar.whole m).add (.whole n) = .ok (.whole (m + n)) := fun _ _ => rfl
  have hreckon : ∀ {α : Type} (a : α), reckon (.ok a) = .ok a := fun _ => rfl
  simp only [filledBox, hround, hadd, hreckon, bind, Except.bind, hink, filled_inked hinkable hx hy, Except.mapError]
  split_ifs <;> rfl

theorem fillRect_lays {width height : Scalar} {image : Image} {strokes : List Stroke} {layer : Layer}
    {stroke : Except Fault Stroke} (hsheet : t.sheet = .raster image strokes) (hflat : flat width height = false)
    (hbox : filledBox t.style x y width height = .ok (layer, stroke)) :
    (t.fillRect x y width height).1.sheet.layers = image.layers ++ [layer] ∧
      ((∃ done, stroke = .ok done) → (t.fillRect x y width height).2 = none) := by
  rw [fillRect, hflat, if_neg Bool.false_ne_true, hsheet]
  simp only [hbox]
  cases stroke with
  | ok done => exact ⟨rfl, fun _ => rfl⟩
  | error fault =>
    refine ⟨rfl, ?_⟩
    rintro ⟨_, hdone⟩
    cases hdone

/-- a filled box changes the pixels that it covers, and no other -/
theorem fillRect_over {w h : Int} {image : Image} {strokes : List Stroke} (hsheet : t.sheet = .raster image strokes)
    (hempty : image.layers = []) (hfill : t.style.fill = .str text) (htext : Colour.SixDigits text)
    (hfills : 0 < sw → 0 < sh → Fills w h x y (x + sw - 1) (y + sh - 1)) {i j : Int} (hi : 0 ≤ i ∧ i < w)
    (hj : 0 ≤ j ∧ j < h) (p : Pixel) :
    (t.fillRect x y (.whole sw) (.whole sh)).1.sheet.layers.foldl (Layer.over i j) p =
      if x ≤ i ∧ i < x + sw ∧ y ≤ j ∧ j < y + sh then pixelOf text else p := by
  by_cases hflat : sw ≤ 0 ∨ sh ≤ 0
  · rw [fillRect, flat_whole, decide_eq_true hflat, if_pos rfl, hsheet, Sheet.layers, hempty, if_neg (by omega)]
    rfl
  · obtain ⟨hw, hh⟩ := not_or.mp hflat
    obtain ⟨hacross, hdown, hinks⟩ := hfills (not_le.mp hw) (not_le.mp hh)
    obtain ⟨colour, hink, hinkable, hunder⟩ := inkOf_sixDigits htext
    rw [← hfill] at hink
    have hlays := (fillRect_lays hsheet ((flat_whole sw sh).trans (decide_eq_false hflat))
      (filledBox_whole hink hinkable hacross hdown)).1
    -- the far edges of the closed box are those of the covered one, less one
    have hbox : (x ≤ i ∧ i ≤ x + sw - 1 ∧ y ≤ j ∧ j ≤ y + sh - 1) ↔
        (x ≤ i ∧ i < x + sw ∧ y ≤ j ∧ j < y + sh) := by omega
    rw [hlays, hempty, List.nil_append, List.foldl_cons, List.foldl_nil, hinks colour p i j hi.1 hi.2 hj.1 hj.2, hunder]
    exact if_congr hbox rfl rfl

theorem fillRect_returns {w h : Int} {image : Image} {strokes : List Stroke} (hsheet : t.sheet = .raster image strokes)
    (hfill : t.style.fill = .str text) (htext : Colour.SixDigits text)
    (hfills : Fills w h x y (x + sw - 1) (y + sh - 1))
    (hheld : ∀ n ∈ [x, y, x + sw - 1, y + sh - 1], holds 64 n = true) :
    (t.fillRect x y (.whole sw) (.whole sh)).2 = none := by
  by_cases hflat : sw ≤ 0 ∨ sh ≤ 0
  · rw [fillRect, flat_whole, decide_eq_true hflat, if_pos rfl]
  · obtain ⟨colour, hink, hinkable, -⟩ := inkOf_sixDigits htext
    rw [← hfill] at hink
    refine (fillRect_lays hsheet ((flat_whole sw sh).trans (decide_eq_false hflat))
      (filledBox_whole hink hinkable hfills.across hfills.down)).2 ⟨_, if_pos ?_⟩
    exact List.all_eq_true.mpr hheld

end

/-! ## Pixels read -/

theorem read_inside {image : Image} {i j : Int} (hi : 0 ≤ i ∧ i < image.width) (hj : 0 ≤ j ∧ j < image.height)
    (hwidth : holds 32 image.width = true) (hheight : holds 32 image.height = true) :
    image.read (.whole i) (.whole j) = .ok (image.pixel i j) := by
  have hbounds : ∀ {n size : Int}, 0 ≤ n ∧ n < size → holds 32 size = true →
      kept (.whole n) = true ∧ lookedUp n = n := by
    intro n size hn hsize
    rw [holds_narrow] at hsize
    have hkept : holds 64 n = true := holds_wide.mpr (by omega)
    refine ⟨hkept, ?_⟩
    rw [lookedUp, if_pos hkept, wrapped]
    exact Int.bmod_eq_of_le (by omega) (by omega)
  obtain ⟨hkeptx, hx⟩ := hbounds hi hwidth
  obtain ⟨hkepty, hy⟩ := hbounds hj hheight
  have hpixel : image.pixel? i j = some (image.pixel i j) := by
    simp only [Image.pixel?, not_lt.mpr hi.1, not_lt.mpr hj.1, if_false]
    exact if_pos ⟨hi.1, hi.2, hj.1, hj.2⟩
  simp only [Image.read, hx, hy, hpixel, hkeptx, hkepty, Bool.and_self, if_true]

end SketchPanel.Surface

namespace SketchPanel.Frame

open Number Surface
open Imaging (Image Layer Metrics Pixel)

/-! ## Frames of boxes -/

/-- an extent that is whole or missing, as a number -/
def span : Option Json → Int
  | some (.int n) => n
  | _ => 0

/-- a box with whole extents, or none, in a colour of six digits and no other -/
structure PlainBox (e : Element) : Prop where
  shape : e.shape = .rectangle
  width : ∃ size : Option Int, e.width = size.map .int
  height : ∃ size : Option Int, e.height = size.map .int
  colour : ∃ text, e.background = some text ∧ Colour.SixDigits text ∧ (e.colour = none ∨ e.colour = some (.str text))

/-- a scene of plain boxes: of some size, out of debug mode, on a background of six digits -/
structure PlainScene (scene : Slice) (w h : Int) : Prop where
  width : scene.width = .int w
  height : scene.height = .int h
  wide : 0 < w
  high : 0 < h
  debug : scene.debug.truthy = false
  background : Colour.SixDigits scene.background
  boxes : ∀ e ∈ scene.elements, PlainBox e

/-- painting fills the background and the visible boxes of a scene -/
structure Painted (scene : Slice) (w h : Int) : Prop where
  ground : Fills w h 0 0 (w - 1) (h - 1)
  boxes : ∀ e ∈ scene.elements, e.visible = true → 0 < span e.width → 0 < span e.height →
    Fills w h e.x e.y (e.x + span e.width - 1) (e.y + span e.height - 1)

/-- the rounding of edges does not show in a frame of at most 2 ^ 24 pixels each way -/
theorem painted_of_bounds {scene : Slice} {w h : Int} (hw : 0 < w ∧ w ≤ 2 ^ 24) (hh : 0 < h ∧ h ≤ 2 ^ 24)
    (hedges : ∀ e ∈ scene.elements, ∀ n ∈ [e.x, e.y, e.x + span e.width - 1, e.y + span e.height - 1],
      n.natAbs ≤ 2 ^ 30) : Painted scene w h := by
  refine ⟨fills_of_bounds hw.2 hh.2 (by omega) (by omega) ?_, fun e he _ hwidth hheight => ?_⟩
  · intro n hn
    simp only [List.mem_cons, List.not_mem_nil, or_false] at hn
    omega
  · exact fills_of_bounds hw.2 hh.2 (by omega) (by omega) (hedges e he)

/-- whether a place lies in the box of an element, its far edges left out -/
def covers (i j : Int) (e : Element) : Bool := e.x ≤ i ∧ i < e.x + span e.width ∧ e.y ≤ j ∧ j < e.y + span e.height

/-- the last of the elements over a place that are visible -/
def topmost (places : List (Element × Nat)) (i j : Int) : Option Element :=
  ((places.map Prod.fst).filter fun e => covers i j e && e.visible).getLast?

/-- the colour at a place: of the last visible element over it, or the background -/
def colourAt (scene : Slice) (places : List (Element × Nat)) (i j : Int) : String :=
  ((topmost places i j).bind (·.background)).getD scene.background

theorem extent_span {size : Option Json} (h : ∃ n : Option Int, size = n.map .int) :
    extent size = .int (span size) := by
  obtain ⟨n | n, rfl⟩ := h
  · rfl
  · by_cases hzero : n = 0
    · subst hzero
      rfl
    · have htruthy : (Json.int n).truthy = true := bne_iff_ne.mpr hzero
      simp [extent, meant, Option.filter, htruthy, span]

theorem rectangle_plain {e : Element} (he : PlainBox e) {text : String} (htext : e.background = some text) :
    rectangle e =
      [.ok (.fillStyle text), .ok (.fillRect e.x e.y (.whole (span e.width)) (.whole (span e.height)))] := by
  obtain ⟨text', htext', hdigits, hcolour⟩ := he.colour
  obtain rfl : text' = text := Option.some.inj (htext'.symm.trans htext)
  have hgiven : given e.background = some text' := by
    have hne : text' ≠ "" := by
      rintro rfl
      cases hdigits.1
    simp [given, htext, hne]
  have houtline : outlineColour e = none := by
    rw [outlineColour, Option.filter_eq_none_iff]
    intro c hc
    have hgivenColour : e.colour = some c := (Option.filter_eq_some_iff.mp hc).1
    rcases hcolour with hnone | hgiven'
    · rw [hnone] at hgivenColour
      cases hgivenColour
    · obtain rfl : Json.str text' = c := Option.some.inj (hgiven'.symm.trans hgivenColour)
      have hsame : Json.same (.str text') (.str text') = true := by simp [Json.same]
      simp [htext, hsame]
  simp only [rectangle, hgiven, houtline, extent_span he.width, extent_span he.height]
  rfl

/-- drawing one thing after another over a value, the last one is what stays -/
theorem foldl_latest {α β : Type} (reaches : α → Bool) (value : α → β) (b : β) (l : List α) :
    l.foldl (fun b a => if reaches a then value a else b) b = ((l.filter reaches).getLast?.map value).getD b := by
  induction l using List.reverseRecOn with
  | nil => rfl
  | append_singleton l a ih =>
    rw [List.foldl_append, ih, List.filter_append]
    by_cases h : reaches a <;> simp [h]

section

variable {scene : Slice} {w h : Int}

theorem backdropBox_plain (hscene : PlainScene scene w h) :
    backdropBox scene = [.ok (.fillRect (0 : Int) (0 : Int) (.whole w) (.whole h))] := by
  rw [backdropBox, hscene.width, hscene.height]
  rfl

/-- the topmost element is the last over the place of those that are drawn -/
theorem topmost_drawn {places : List (Element × Nat)}
    (hplaces : drawnElements scene = (places.filter (·.1.visible)).map Prod.fst) {i j : Int} :
    topmost places i j = ((drawnElements scene).filter (covers i j)).getLast? := by
  rw [hplaces, topmost, ← List.filter_filter, List.filter_map]
  rfl

/-- a colour of six digits is there for every place -/
theorem colourAt_sixDigits (hscene : PlainScene scene w h) {places : List (Element × Nat)}
    (hperm : places.Perm scene.elements.zipIdx) {i j : Int} : Colour.SixDigits (colourAt scene places i j) := by
  rw [colourAt]
  cases htop : topmost places i j with
  | none => exact hscene.background
  | some e =>
    obtain ⟨⟨e', k⟩, hplace, rfl⟩ := List.mem_map.mp (List.mem_filter.mp (List.mem_of_getLast? htop)).1
    have hmem := List.fst_mem_of_mem_zipIdx (hperm.mem_iff.mp hplace)
    obtain ⟨text, htext, hdigits, -⟩ := (hscene.boxes e' hmem).colour
    simpa [htext] using hdigits

theorem sized_held (hw : 0 < w) (hh : 0 < h) {made : Image} (hmade : imageSized (.int w) (.int h) = .ok made) :
    holds 32 w = true ∧ holds 32 h = true := by
  obtain ⟨rfl, hwidth, hheight⟩ := sized_blank w h made hmade
  rw [Image.blank, max_eq_right hw, max_eq_right hh] at hwidth hheight
  exact ⟨hwidth, hheight⟩

end

/-! ## Boxes on a surface -/

section

variable [Metrics]

theorem run_single (s : Surface) (op : Op) : s.run [.ok op] = s.apply op := by
  rw [run_ok]
  rcases s.apply op with ⟨t, none | fault⟩ <;> rfl

section

variable {s : Surface} {scene : Slice} {w h : Int} {image : Image} {strokes : List Stroke}

/-- a plain box, drawn alone, changes the pixels that it covers, and no other -/
theorem boxLayers_over (family : Json) (hstage : (stage s scene).sheet = .raster image strokes)
    (hempty : image.layers = []) {e : Element} (he : PlainBox e)
    (hfills : 0 < span e.width → 0 < span e.height →
      Fills w h e.x e.y (e.x + span e.width - 1) (e.y + span e.height - 1)) {i j : Int} (hi : 0 ≤ i ∧ i < w)
    (hj : 0 ≤ j ∧ j < h) (p : Pixel) :
    (drawElement family (stage s scene) e).1.sheet.layers.foldl (Layer.over i j) p =
      if covers i j e then pixelOf (e.background.getD scene.background) else p := by
  obtain ⟨text, htext, hdigits, -⟩ := he.colour
  have hprogram : program family e = rectangle e := by rw [program, he.shape]
  have hsheet : (drawElement family (stage s scene) e).1.sheet =
      (((stage s scene).apply (.fillStyle text)).1.fillRect e.x e.y (.whole (span e.width))
        (.whole (span e.height))).1.sheet := by
    show (isolated (stage s scene) (program family e)).1.sheet = _
    rw [isolated_stage s scene (program_drawing family e), drawnAlone, stage_bare, hprogram, rectangle_plain he htext,
      run_ok]
    exact congrArg (fun r => r.1.sheet) (run_single _ _)
  have hrestyled : ((stage s scene).apply (.fillStyle text)).1.sheet = .raster image strokes := hstage
  rw [hsheet, fillRect_over hrestyled hempty rfl hdigits hfills hi hj, htext, Option.getD_some]
  simp only [covers, decide_eq_true_eq]

/-- the background, drawn alone, gives every pixel of the frame its colour -/
theorem backdropLayers_over (hstage : (stage s scene).sheet = .raster image strokes) (hempty : image.layers = [])
    (hscene : PlainScene scene w h) (hpainted : Painted scene w h) {i j : Int} (hi : 0 ≤ i ∧ i < w) (hj : 0 ≤ j ∧ j < h)
    (p : Pixel) :
    ((stage s scene).run (backdropBox scene)).1.sheet.layers.foldl (Layer.over i j) p = pixelOf scene.background := by
  have hfills : Fills w h 0 0 (0 + w - 1) (0 + h - 1) := by simpa using hpainted.ground
  have hfill : (stage s scene).style.fill = .str scene.background := rfl
  have hover := fillRect_over hstage hempty hfill hscene.background (fun _ _ => hfills) hi hj p
  rw [if_pos (by omega)] at hover
  rw [backdropBox_plain hscene, run_single]
  exact hover

theorem backdrop_returns (hstage : (stage s scene).sheet = .raster image strokes) (hscene : PlainScene scene w h)
    (hpainted : Painted scene w h) (hwidth : holds 32 w = true) (hheight : holds 32 h = true) :
    ((stage s scene).run (backdropBox scene)).2 = none := by
  have hfills : Fills w h 0 0 (0 + w - 1) (0 + h - 1) := by simpa using hpainted.ground
  have hfill : (stage s scene).style.fill = .str scene.background := rfl
  have hwide := hscene.wide
  have hhigh := hscene.high
  rw [holds_narrow] at hwidth hheight
  rw [backdropBox_plain hscene, run_single]
  refine fillRect_returns hstage hfill hscene.background hfills fun n hn => holds_wide.mpr ?_
  simp only [List.mem_cons, List.not_mem_nil, or_false] at hn
  omega

/-- background and boxes in turn over a pixel: the last that covers it is what stays -/
theorem frameLayers_over (family : Json) (hstage : (stage s scene).sheet = .raster image strokes)
    (hempty : image.layers = []) (hscene : PlainScene scene w h) (hpainted : Painted scene w h)
    {places : List (Element × Nat)} (hplaces : drawnElements scene = (places.filter (·.1.visible)).map Prod.fst)
    {i j : Int} (hi : 0 ≤ i ∧ i < w) (hj : 0 ≤ j ∧ j < h) :
    ((frameSheets family s scene).flatMap Sheet.layers).foldl (Layer.over i j) .black =
      pixelOf (colourAt scene places i j) := by
  have hsheets : frameSheets family s scene = ((stage s scene).run (backdropBox scene)).1.sheet
      :: (drawnElements scene).map fun e => (drawElement family (stage s scene) e).1.sheet := by
    simp [frameSheets, hscene.debug]
  have hboxes : ∀ e ∈ drawnElements scene, ∀ p,
      (drawElement family (stage s scene) e).1.sheet.layers.foldl (Layer.over i j) p =
        if covers i j e then pixelOf (e.background.getD scene.background) else p := by
    intro e he p
    obtain ⟨hmem, hvisible⟩ := List.mem_filter.mp he
    have hmem : e ∈ scene.elements := (List.mergeSort_perm _ _).mem_iff.mp hmem
    exact boxLayers_over family hstage hempty (hscene.boxes e hmem) (hpainted.boxes e hmem hvisible) hi hj p
  have hcolour : ((topmost places i j).map fun e => pixelOf (e.background.getD scene.background)).getD
      (pixelOf scene.background) = pixelOf (colourAt scene places i j) := by
    rw [colourAt]
    cases topmost places i j with
    | none => rfl
    | some e => rfl
  rw [hsheets, List.flatMap_cons, List.foldl_append, backdropLayers_over hstage hempty hscene hpainted hi hj,
    List.flatMap_map, List.foldl_flatMap, List.foldl_ext _ _ _ fun p e he => hboxes e he p, foldl_latest,
    ← topmost_drawn hplaces, hcolour]

/-- a raster surface, once it has the size of the scene and is cleared: under the clearing lies what is not seen -/
theorem cleared_raster (hs : Sound s) (hraster : s.sheet.kind = .raster) (hscene : PlainScene scene w h)
    (hmade : ∃ made, imageSized (.int w) (.int h) = .ok made) :
    ∃ below strokes, (cleared s scene).2 = none ∧
      (cleared s scene).1.sheet = .raster ⟨w, h, below ++ [.clear 0 0 w h]⟩ strokes := by
  obtain ⟨t, hcleared, -, -, hkind, hsized⟩ :=
    cleared_whole hs hscene.width hscene.height hscene.wide hscene.high fun _ => hmade
  rw [hcleared]
  cases hsheet : t.sheet with
  | vector => rw [← hkind, hsheet] at hraster; cases hraster
  | raster image strokes =>
    rw [hsheet] at hsized
    exact ⟨image.layers, strokes, rfl, by simp [wiped, Image.lay, hsized.1, hsized.2]⟩

end

end

attribute [local instance] Metrics.halves

/-- a box in one colour -/
def boxed (x y : Int) (width height : Option Int) (text : String) (zIndex : Int) (visible : Bool) : Element :=
  { id := "box", x, y, width := width.map .int, height := height.map .int, background := some text, visible, zIndex
    shape := .rectangle }

theorem boxed_plain {x y : Int} {width height : Option Int} {text : String} {zIndex : Int} {visible : Bool}
    (h : Colour.SixDigits text) : PlainBox (boxed x y width height text zIndex visible) :=
  ⟨rfl, ⟨width, rfl⟩, ⟨height, rfl⟩, text, rfl, h, .inl rfl⟩

/-- a high box that goes beyond the panel, a low one that begins before it, one without an inside, one out of sight -/
def stacked : Slice :=
  { elements := [boxed 1 1 (some 100) (some 2) "#00ff00" 2 true, boxed (-1) (-1) (some 3) (some 3) "#FF0000" 1 true,
      boxed 0 0 none (some 4) "#ffffff" 3 true, boxed 0 0 (some 4) (some 4) "#ffffff" 3 false]
    background := "#000080", width := .int 4, height := .int 3 }

/-- something drawn, another size, and something drawn again -/
def scribbles : List Op :=
  [.fillStyle "#123456", .fillRect 0 0 1 1, .save, .resize (.int 7) (.int 5), .fillStyle "nonsense", .fillRect 2 2 2 2]

end SketchPanel.Frame

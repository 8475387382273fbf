/-
Documents of scenes. A document drops what has no value, runs the words of names together, and puts words for the members
of families, and still nothing is lost: no two names of one record run together to the same word, no two members share a
word, and shapes with the same fields differ in their kind. So whatever comparison of values is meant, documents that
compare as the same are of things that agree in every part; the parts that settings may put anything into agree as values
do, and are the same if they are of the right kinds.

Results:
- `get?_record`: a field stands under its name if it has a value, and nothing stands there if it has none.
- `names_distinct`: the names of a shape's fields stay apart.
- `Zone.of_document`, `Element.of_document`, `Outline.of_document`: what documents that compare as the same are of.
- `documents_tell_apart`: outlines, elements and zones are told apart by their documents.
Witness:
- `boxed_told_apart`: a number for a truth value counts as the same, a box for a picture does not.
-/
import SketchPanel.Proofs.LikeValues
import SketchPanel.Scene.Outline

namespace SketchPanel

open Json (Likeness Alike Fields)

variable {R : Json → Json → Prop}

/-! ## Records -/

namespace Scene

variable {fields fields' : List (String × Option Json)} {name : String} {value value' : Option Json}

/-- the names of fields as a document has them -/
def fieldKeys (fields : List (String × Option Json)) : List String := fields.map fun field => camelCase field.1

theorem keys_record : (record fields).keys ⊆ fieldKeys fields := by
  intro key hkey
  obtain ⟨⟨_, v⟩, hfield, rfl⟩ := List.mem_map.1 hkey
  obtain ⟨⟨name, value⟩, hmem, hsome⟩ := List.mem_filterMap.1 hfield
  obtain ⟨w, -, heq⟩ := Option.map_eq_some_iff.1 hsome
  exact List.mem_map.2 ⟨(name, value), hmem, (Prod.mk.inj heq).1⟩

/-- a field stands under its name if it has a value, and nothing does if it has none -/
theorem get?_record (once : (fieldKeys fields).Nodup) (h : (name, value) ∈ fields) :
    (record fields).get? (camelCase name) = value := by
  induction fields with
  | nil => simp at h
  | cons field fields ih =>
    obtain ⟨other, v⟩ := field
    obtain ⟨hother, once⟩ := List.nodup_cons.1 once
    rcases List.mem_cons.1 h with hfirst | hrest
    · obtain ⟨rfl, rfl⟩ := Prod.mk.inj hfirst
      cases value with
      | none => simpa [record] using Json.Fields.get?_eq_none_iff.2 fun hkey => hother (keys_record hkey)
      | some v => simp [record, Json.Fields.get?_cons]
    · have hname : camelCase name ∈ fieldKeys fields := List.mem_map.2 ⟨(name, value), hrest, rfl⟩
      have hne : camelCase name ≠ camelCase other := fun heq => hother (show camelCase other ∈ fieldKeys fields from heq ▸ hname)
      have htail := ih once hrest
      cases v with
      | none => simpa [record] using htail
      | some v => simpa [record, Json.Fields.get?_cons, hne] using htail

/-- two records that count as the same agree on a field that both have -/
theorem record_field (hR : Likeness R) (once : (fieldKeys fields).Nodup) (once' : (fieldKeys fields').Nodup)
    (h : R (.obj (record fields)) (.obj (record fields'))) (hv : (name, value) ∈ fields)
    (hv' : (name, value') ∈ fields') : Option.Rel R value value' := by
  have hrel := hR.fields h (camelCase name)
  rwa [get?_record once hv, get?_record once' hv'] at hrel

/-- two records of the same names that count as the same agree field by field -/
theorem record_alike (hR : Likeness R) (names : List String) (hnames : fields.map Prod.fst = names)
    (hnames' : fields'.map Prod.fst = names) (once : (names.map camelCase).Nodup)
    (h : R (.obj (record fields)) (.obj (record fields'))) :
    List.Forall₂ (fun a b => Option.Rel R a.2 b.2) fields fields' := by
  have hkeys : fieldKeys fields = names.map camelCase := by rw [← hnames, List.map_map]; rfl
  have hkeys' : fieldKeys fields' = names.map camelCase := by rw [← hnames', List.map_map]; rfl
  exact Json.forall₂_of_names (hnames.trans hnames'.symm) fun _ _ _ hv hw =>
    record_field hR (hkeys ▸ once) (hkeys' ▸ once) h hv hw

end Scene

/-! ## Zones -/

/-- a zone is all in its document -/
theorem Zone.of_document (hR : Likeness R) {z z' : Zone} (h : R z.toJson z'.toJson) : z = z' := by
  have hfields := Scene.record_alike hR
    ["id", "x", "y", "width", "height", "action", "target_state", "visible", "debug_color"] rfl rfl (by decide +kernel) h
  simp only [List.forall₂_cons, Json.Likeness.some_iff] at hfields
  obtain ⟨hid, hx, hy, hwidth, hheight, haction, htarget, hvisible, hdebug, -⟩ := hfields
  cases z
  cases z'
  simp only [Zone.mk.injEq]
  exact ⟨hR.text hid, hR.whole hx, hR.whole hy, hR.whole hwidth, hR.whole hheight, hR.text haction, hR.texts htarget,
    hR.truth hvisible, hR.texts hdebug⟩

/-! ## Elements -/

namespace Scene

theorem Align.word_injective : Function.Injective Align.word := by
  intro a b
  cases a <;> cases b <;> decide

theorem Baseline.word_injective : Function.Injective Baseline.word := by
  intro a b
  cases a <;> cases b <;> decide

/-- shapes of one kind with the same extents, and sizes of text that agree -/
inductive Shape.Agree (R : Json → Json → Prop) : Shape → Shape → Prop
  | rectangle : Agree R .rectangle .rectangle
  | roundedRectangle (radius : Option Int) : Agree R (.roundedRectangle radius) (.roundedRectangle radius)
  | circle (radius : Option Int) : Agree R (.circle radius) (.circle radius)
  | text (content : String) {size size' : Option Json} (hsize : Option.Rel R size size') (font : Option String)
      (align : Option Align) (baseline : Option Baseline) :
      Agree R (.text content size font align baseline) (.text content size' font align baseline)
  | bitmap : Agree R .bitmap .bitmap
  | line (x2 y2 strokeWidth : Option Int) : Agree R (.line x2 y2 strokeWidth) (.line x2 y2 strokeWidth)

end Scene

namespace Element

open Scene

/-- elements that agree in what may come from the settings, and are the same in all else -/
structure Agree (R : Json → Json → Prop) (e e' : Element) : Prop where
  id : e.id = e'.id
  x : e.x = e'.x
  y : e.y = e'.y
  width : Option.Rel R e.width e'.width
  height : Option.Rel R e.height e'.height
  colour : Option.Rel R e.colour e'.colour
  background : e.background = e'.background
  visible : e.visible = e'.visible
  zIndex : e.zIndex = e'.zIndex
  shape : Shape.Agree R e.shape e'.shape

/-- the names of what every element has -/
def commonNames : List String :=
  ["id", "x", "y", "width", "height", "color", "background_color", "visible", "z_index"]

/-- the names of what a shape adds -/
def shapeNames : Shape → List String
  | .rectangle | .bitmap => []
  | .roundedRectangle _ | .circle _ => ["radius"]
  | .text .. => ["text", "font_size", "font", "text_align", "text_baseline"]
  | .line .. => ["x2", "y2", "stroke_width"]

/-- no two names of a shape's fields run together to the same word -/
theorem names_distinct (shape : Shape) : ((commonNames ++ shapeNames shape ++ ["type"]).map camelCase).Nodup := by
  cases shape <;> (simp only [shapeNames]; decide +kernel)

/-- what every element has, what its shape adds, and its kind -/
def allFields (e : Element) : List (String × Option Json) := [
    ("id", some (.str e.id)), ("x", some (.int e.x)), ("y", some (.int e.y)),
    ("width", e.width), ("height", e.height), ("color", e.colour), ("background_color", e.background.map .str),
    ("visible", some (.bool e.visible)), ("z_index", some (.int e.zIndex))]
  ++ shapeFields e.shape ++ [("type", some (.str e.shape.kind))]

theorem names_allFields (e : Element) : e.allFields.map Prod.fst = commonNames ++ shapeNames e.shape ++ ["type"] := by
  obtain ⟨_, _, _, _, _, _, _, _, _, shape⟩ := e
  cases shape <;> rfl

theorem once_allFields (e : Element) : (fieldKeys e.allFields).Nodup := by
  have h := names_distinct e.shape
  rw [← names_allFields, List.map_map] at h
  exact h

/-- the kind tells apart what has the same fields -/
theorem kind_of_document (hR : Likeness R) {e e' : Element} (h : R e.toJson e'.toJson) : e.shape.kind = e'.shape.kind := by
  have hkind : ∀ e : Element, ("type", some (.str e.shape.kind)) ∈ e.allFields := fun e => by simp [allFields]
  exact hR.text (Json.Likeness.some_iff.1
    (record_field hR (once_allFields e) (once_allFields e') h (hkind e) (hkind e')))

/-- shapes of one kind are all in the fields that they add -/
theorem shape_of_fields (hR : Likeness R) {shape shape' : Shape} {tail tail' : List (String × Option Json)}
    (hkind : shape.kind = shape'.kind)
    (h : List.Forall₂ (fun a b => Option.Rel R a.2 b.2) (shapeFields shape ++ tail) (shapeFields shape' ++ tail')) :
    Shape.Agree R shape shape' := by
  cases shape with
  | rectangle =>
    cases shape' with
    | rectangle => exact .rectangle
    | _ => simp [Shape.kind] at hkind
  | roundedRectangle radius =>
    cases shape' with
    | roundedRectangle radius' =>
      simp only [shapeFields, List.cons_append, List.forall₂_cons] at h
      obtain rfl := hR.wholes h.1
      exact .roundedRectangle radius
    | _ => simp [Shape.kind] at hkind
  | circle radius =>
    cases shape' with
    | circle radius' =>
      simp only [shapeFields, List.cons_append, List.forall₂_cons] at h
      obtain rfl := hR.wholes h.1
      exact .circle radius
    | _ => simp [Shape.kind] at hkind
  | text content size font align baseline =>
    cases shape' with
    | text content' size' font' align' baseline' =>
      simp only [shapeFields, List.cons_append, List.forall₂_cons, Json.Likeness.some_iff] at h
      obtain ⟨hcontent, hsize, hfont, halign, hbaseline, -⟩ := h
      obtain rfl := hR.text hcontent
      obtain rfl := hR.texts hfont
      obtain rfl := Json.Likeness.absent (fun {_ _} h => Align.word_injective (hR.text h)) halign
      obtain rfl := Json.Likeness.absent (fun {_ _} h => Baseline.word_injective (hR.text h)) hbaseline
      exact .text content hsize font align baseline
    | _ => simp [Shape.kind] at hkind
  | bitmap =>
    cases shape' with
    | bitmap => exact .bitmap
    | _ => simp [Shape.kind] at hkind
  | line x2 y2 strokeWidth =>
    cases shape' with
    | line x2' y2' strokeWidth' =>
      simp only [shapeFields, List.cons_append, List.forall₂_cons] at h
      obtain ⟨hx, hy, hwidth, -⟩ := h
      obtain rfl := hR.wholes hx
      obtain rfl := hR.wholes hy
      obtain rfl := hR.wholes hwidth
      exact .line x2 y2 strokeWidth
    | _ => simp [Shape.kind] at hkind

theorem shapeNames_of_kind {shape shape' : Shape} (h : shape.kind = shape'.kind) : shapeNames shape = shapeNames shape' := by
  cases shape <;> cases shape' <;> first | rfl | simp [Shape.kind] at h

/-- an element is all in its document, whatever its shape -/
theorem of_document (hR : Likeness R) {e e' : Element} (h : R e.toJson e'.toJson) : Agree R e e' := by
  have hkind := kind_of_document hR h
  have hnames' : e'.allFields.map Prod.fst = commonNames ++ shapeNames e.shape ++ ["type"] := by
    rw [names_allFields, shapeNames_of_kind hkind]
  have hfields := record_alike hR _ (names_allFields e) hnames' (names_distinct e.shape) h
  simp only [allFields, List.cons_append, List.nil_append, List.forall₂_cons, Json.Likeness.some_iff] at hfields
  obtain ⟨hid, hx, hy, hwidth, hheight, hcolour, hbackground, hvisible, hz, hshape⟩ := hfields
  exact ⟨hR.text hid, hR.whole hx, hR.whole hy, hwidth, hheight, hcolour, hR.texts hbackground, hR.truth hvisible,
    hR.whole hz, shape_of_fields hR hkind hshape⟩

end Element

/-! ## Outlines -/

namespace Scene

theorem StateKind.word_injective : Function.Injective StateKind.word := by
  intro a b
  cases a <;> cases b <;> decide

theorem Severity.word_injective : Function.Injective Severity.word := by
  intro a b
  cases a <;> cases b <;> decide

theorem Transition.of_document (hR : Likeness R) {t t' : Transition} (h : R t.toJson t'.toJson) : t = t' := by
  have hfields := hR.object ["source", "target", "trigger", "condition", "action"] rfl rfl (by decide) h
  simp only [List.forall₂_cons] at hfields
  obtain ⟨hsource, htarget, htrigger, hcondition, haction, -⟩ := hfields
  cases t
  cases t'
  simp only [Transition.mk.injEq]
  exact ⟨hR.text hsource, hR.text htarget, hR.text htrigger, hR.text_or_null hcondition, hR.text_or_null haction⟩

theorem State.of_document (hR : Likeness R) {s s' : State} (h : R s.toJson s'.toJson) : s = s' := by
  have hfields := hR.object ["name", "value", "type", "screens"] rfl rfl (by decide) h
  simp only [List.forall₂_cons] at hfields
  obtain ⟨hname, hvalue, hkind, hscreens, -⟩ := hfields
  cases s
  cases s'
  simp only [State.mk.injEq]
  exact ⟨hR.text hname, hR.text hvalue, StateKind.word_injective (hR.text hkind), hR.text_items hscreens⟩

theorem Function.of_document (hR : Likeness R) {f f' : Function} (h : R f.toJson f'.toJson) : f = f' := by
  have hfields := hR.object ["name", "returnType", "parameters", "line"] rfl rfl (by decide) h
  simp only [List.forall₂_cons] at hfields
  obtain ⟨hname, htype, hparameters, hline, -⟩ := hfields
  cases f
  cases f'
  simp only [Function.mk.injEq]
  exact ⟨hR.text hname, hR.text htype, hR.text_items hparameters, hR.whole hline⟩

theorem Diagnostic.of_document (hR : Likeness R) {d d' : Diagnostic} (h : R d.toJson d'.toJson) : d = d' := by
  have hfields := hR.object ["message", "line", "column", "severity"] rfl rfl (by decide) h
  simp only [List.forall₂_cons] at hfields
  obtain ⟨hmessage, hline, hcolumn, hseverity, -⟩ := hfields
  cases d
  cases d'
  simp only [Diagnostic.mk.injEq]
  exact ⟨hR.text hmessage, hR.whole hline, hR.whole hcolumn, Severity.word_injective (hR.text hseverity)⟩

/-- variables whose values agree, and that are the same in all else -/
structure Variable.Agree (R : Json → Json → Prop) (v v' : Variable) : Prop where
  name : v.name = v'.name
  type : v.type = v'.type
  line : v.line = v'.line
  value : R v.value v'.value
  scope : v.scope = v'.scope

theorem Variable.of_document (hR : Likeness R) {v v' : Variable} (h : R v.toJson v'.toJson) : Variable.Agree R v v' := by
  have hfields := hR.object ["name", "type", "value", "scope", "line"] rfl rfl (by decide) h
  simp only [List.forall₂_cons] at hfields
  obtain ⟨hname, htype, hvalue, hscope, hline, -⟩ := hfields
  exact ⟨hR.text hname, hR.text htype, hR.whole hline, hvalue, hR.text hscope⟩

/-- geometries that agree in every part -/
structure Geometry.Agree (R : Json → Json → Prop) (g g' : Geometry) : Prop where
  rotation : R g.rotation g'.rotation
  width : R g.width g'.width
  height : R g.height g'.height

theorem Geometry.of_document (hR : Likeness R) {g g' : Geometry} (h : R g.toJson g'.toJson) : Geometry.Agree R g g' := by
  have hfields := hR.object ["rotation", "width", "height"] rfl rfl (by decide) h
  simp only [List.forall₂_cons] at hfields
  obtain ⟨hrotation, hwidth, hheight, -⟩ := hfields
  exact ⟨hrotation, hwidth, hheight⟩

end Scene

/-- screens with elements that agree, and that are the same in all else -/
structure Screen.Agree (R : Json → Json → Prop) (s s' : Screen) : Prop where
  id : s.id = s'.id
  name : s.name = s'.name
  elements : List.Forall₂ (Element.Agree R) s.elements s'.elements
  zones : s.zones = s'.zones
  background : s.background = s'.background
  transitions : s.transitions = s'.transitions

theorem Screen.of_document (hR : Likeness R) {s s' : Screen} (h : R s.toJson s'.toJson) : Screen.Agree R s s' := by
  have hfields := hR.object ["id", "name", "backgroundColor", "elements", "touchZones", "transitions"] rfl rfl
    (by decide) h
  simp only [List.forall₂_cons] at hfields
  obtain ⟨hid, hname, hbackground, helements, hzones, htransitions, -⟩ := hfields
  exact ⟨hR.text hid, hR.text hname, hR.list (Element.of_document hR) helements, hR.list_eq (Zone.of_document hR) hzones,
    hR.text hbackground, hR.list_eq (Scene.Transition.of_document hR) htransitions⟩

namespace Outline

/-- outlines with screens, variables and a geometry that agree, and that are the same in all else -/
structure Agree (R : Json → Json → Prop) (p q : Outline) : Prop where
  screens : List.Forall₂ (Screen.Agree R) p.screens q.screens
  states : p.states = q.states
  declarations : List.Forall₂ (Scene.Variable.Agree R) p.declarations q.declarations
  functions : p.functions = q.functions
  includes : p.includes = q.includes
  diagnostics : p.diagnostics = q.diagnostics
  geometry : Option.Rel (Scene.Geometry.Agree R) p.geometry q.geometry

theorem of_document (hR : Likeness R) {p q : Outline} (h : R p.toJson q.toJson) : Agree R p q := by
  have hfields := hR.object ["screens", "states", "variables", "functions", "includes", "errors", "displayConfig"] rfl rfl
    (by decide) h
  simp only [fields, List.forall₂_cons] at hfields
  obtain ⟨hscreens, hstates, hvariables, hfunctions, hincludes, hdiagnostics, hgeometry, -⟩ := hfields
  refine ⟨hR.list (Screen.of_document hR) hscreens, hR.list_eq (Scene.State.of_document hR) hstates,
    hR.list (Scene.Variable.of_document hR) hvariables, hR.list_eq (Scene.Function.of_document hR) hfunctions,
    hR.text_items hincludes, hR.list_eq (Scene.Diagnostic.of_document hR) hdiagnostics, ?_⟩
  exact Json.Likeness.or_null hR.null_object hR.object_null (Scene.Geometry.of_document hR) hgeometry

end Outline

/-! ## The same documents -/

section Same

theorem Scene.Shape.Agree.eq {shape shape' : Scene.Shape} (h : Scene.Shape.Agree Eq shape shape') : shape = shape' := by
  cases h with
  | text _ hsize => rw [Json.Likeness.eq_of_rel hsize]
  | _ => rfl

theorem Element.Agree.eq {e e' : Element} (h : Element.Agree Eq e e') : e = e' := by
  obtain ⟨hid, hx, hy, hwidth, hheight, hcolour, hbackground, hvisible, hz, hshape⟩ := h
  cases e
  cases e'
  simp only [Element.mk.injEq]
  exact ⟨hid, hx, hy, Json.Likeness.eq_of_rel hwidth, Json.Likeness.eq_of_rel hheight, Json.Likeness.eq_of_rel hcolour,
    hbackground, hvisible, hz, hshape.eq⟩

theorem Scene.Variable.Agree.eq {v v' : Scene.Variable} (h : Scene.Variable.Agree Eq v v') : v = v' := by
  obtain ⟨hname, htype, hline, hvalue, hscope⟩ := h
  cases v
  cases v'
  simp only [Scene.Variable.mk.injEq]
  exact ⟨hname, htype, hline, hvalue, hscope⟩

theorem Scene.Geometry.Agree.eq {g g' : Scene.Geometry} (h : Scene.Geometry.Agree Eq g g') : g = g' := by
  obtain ⟨hrotation, hwidth, hheight⟩ := h
  cases g
  cases g'
  simp only [Scene.Geometry.mk.injEq]
  exact ⟨hrotation, hwidth, hheight⟩

/-- items that are the same whenever they agree -/
theorem eq_of_forall₂ {α : Type} {S : α → α → Prop} (hS : ∀ {a b}, S a b → a = b) {xs ys : List α}
    (h : List.Forall₂ S xs ys) : xs = ys := by
  have heq := h.imp fun _ _ => hS
  rwa [List.forall₂_eq_eq_eq] at heq

theorem Screen.Agree.eq {s s' : Screen} (h : Screen.Agree Eq s s') : s = s' := by
  obtain ⟨hid, hname, helements, hzones, hbackground, htransitions⟩ := h
  cases s
  cases s'
  simp only [Screen.mk.injEq]
  exact ⟨hid, hname, eq_of_forall₂ Element.Agree.eq helements, hzones, hbackground, htransitions⟩

theorem Outline.Agree.eq {p q : Outline} (h : Outline.Agree Eq p q) : p = q := by
  obtain ⟨hscreens, hstates, hvariables, hfunctions, hincludes, hdiagnostics, hgeometry⟩ := h
  cases p
  cases q
  simp only [Outline.mk.injEq]
  refine ⟨eq_of_forall₂ Screen.Agree.eq hscreens, hstates, eq_of_forall₂ Scene.Variable.Agree.eq hvariables, hfunctions,
    hincludes, hdiagnostics, ?_⟩
  cases hgeometry with
  | none => rfl
  | some h => rw [h.eq]

end Same

/-! ## Values of the right kinds -/

/-- the size of a text, if the shape is one that has it -/
def Scene.Shape.size : Scene.Shape → Option Json
  | .text _ size _ _ _ => size
  | _ => none

/-- elements whose sizes are whole numbers and whose colour is a text -/
structure Element.WellTyped (e : Element) : Prop where
  width : ∀ v ∈ e.width, Json.IsWhole v
  height : ∀ v ∈ e.height, Json.IsWhole v
  colour : ∀ v ∈ e.colour, Json.IsText v
  size : ∀ v ∈ e.shape.size, Json.IsWhole v

/-- geometries in whole numbers -/
structure Scene.Geometry.WellTyped (g : Scene.Geometry) : Prop where
  rotation : Json.IsWhole g.rotation
  width : Json.IsWhole g.width
  height : Json.IsWhole g.height

/-- outlines with such elements and such a geometry; the values of variables may be anything -/
structure Outline.WellTyped (p : Outline) : Prop where
  elements : ∀ s ∈ p.screens, ∀ e ∈ s.elements, e.WellTyped
  geometry : ∀ g ∈ p.geometry, g.WellTyped

theorem Element.Agree.strict (hR : Likeness R) {e e' : Element} (h : Element.Agree R e e') (he : e.WellTyped)
    (he' : e'.WellTyped) : Element.Agree Eq e e' where
  id := h.id
  x := h.x
  y := h.y
  width := Json.Likeness.strict hR.eq_of_whole h.width he.width he'.width
  height := Json.Likeness.strict hR.eq_of_whole h.height he.height he'.height
  colour := Json.Likeness.strict hR.eq_of_text h.colour he.colour he'.colour
  background := h.background
  visible := h.visible
  zIndex := h.zIndex
  shape := by
    have hsize := he.size
    have hsize' := he'.size
    have hshape := h.shape
    generalize e.shape = shape at hshape hsize
    generalize e'.shape = shape' at hshape hsize'
    cases hshape with
    | rectangle => exact .rectangle
    | roundedRectangle radius => exact .roundedRectangle radius
    | circle radius => exact .circle radius
    | text content hsizes font align baseline =>
      exact .text content (Json.Likeness.strict hR.eq_of_whole hsizes hsize hsize') font align baseline
    | bitmap => exact .bitmap
    | line x2 y2 strokeWidth => exact .line x2 y2 strokeWidth

theorem Screen.Agree.strict (hR : Likeness R) {s s' : Screen} (h : Screen.Agree R s s')
    (hs : ∀ e ∈ s.elements, e.WellTyped) (hs' : ∀ e ∈ s'.elements, e.WellTyped) : Screen.Agree Eq s s' :=
  { h with elements := Json.forall₂_strengthen (fun h he he' => h.strict hR he he') h.elements hs hs' }

theorem Scene.Geometry.Agree.strict (hR : Likeness R) {g g' : Scene.Geometry} (h : Scene.Geometry.Agree R g g')
    (hg : g.WellTyped) (hg' : g'.WellTyped) : Scene.Geometry.Agree Eq g g' where
  rotation := hR.eq_of_whole h.rotation hg.rotation hg'.rotation
  width := hR.eq_of_whole h.width hg.width hg'.width
  height := hR.eq_of_whole h.height hg.height hg'.height

/-- outlines that are the same, the values of variables as far as values count as the same -/
structure Outline.Same (p q : Outline) : Prop where
  screens : p.screens = q.screens
  states : p.states = q.states
  declarations : List.Forall₂ (Scene.Variable.Agree Alike) p.declarations q.declarations
  functions : p.functions = q.functions
  includes : p.includes = q.includes
  diagnostics : p.diagnostics = q.diagnostics
  geometry : p.geometry = q.geometry

theorem Outline.Agree.same {p q : Outline} (h : Outline.Agree Alike p q) (hp : p.WellTyped) (hq : q.WellTyped) :
    Outline.Same p q := by
  have hscreens : List.Forall₂ (Screen.Agree Eq) p.screens q.screens :=
    Json.forall₂_strengthen (fun h hs hs' => h.strict Json.likeness_alike hs hs') h.screens hp.elements hq.elements
  refine { h with screens := eq_of_forall₂ Screen.Agree.eq hscreens, geometry := ?_ }
  have hgeometry := h.geometry
  have hp' := hp.geometry
  have hq' := hq.geometry
  generalize p.geometry = o at hgeometry hp'
  generalize q.geometry = o' at hgeometry hq'
  cases hgeometry with
  | none => rfl
  | some hg => rw [(hg.strict Json.likeness_alike (hp' _ rfl) (hq' _ rfl)).eq]

/-! ## Documents tell apart -/

/-- **Documents lose nothing.** Outlines, elements and zones with the same document are the same. If the documents only
count as the same, whatever the order of their fields and the form of their numbers, what they are of counts as the
same, and with values of the right kinds it is the same. -/
theorem documents_tell_apart :
    (Function.Injective Outline.toJson ∧ Function.Injective Element.toJson ∧ Function.Injective Zone.toJson) ∧
    (∀ p q : Outline, Alike p.toJson q.toJson → Outline.Agree Alike p q) ∧
    (∀ p q : Outline, p.WellTyped → q.WellTyped → Alike p.toJson q.toJson → Outline.Same p q) ∧
    (∀ e e' : Element, e.WellTyped → e'.WellTyped → Alike e.toJson e'.toJson → e = e') ∧
    ∀ z z' : Zone, Alike z.toJson z'.toJson → z = z' := by
  have halike := Json.likeness_alike
  refine ⟨⟨fun p q h => ?_, fun e e' h => ?_, fun z z' h => ?_⟩, fun p q h => ?_, fun p q hp hq h => ?_,
    fun e e' he he' h => ?_, fun z z' h => ?_⟩
  · exact (Outline.of_document Json.likeness_eq h).eq
  · exact (Element.of_document Json.likeness_eq h).eq
  · exact Zone.of_document Json.likeness_eq h
  · exact Outline.of_document halike h
  · exact (Outline.of_document halike h).same hp hq
  · exact ((Element.of_document halike h).strict halike he he').eq
  · exact Zone.of_document halike h

/-- a screen with a box and a title, and a variable with a value -/
def boxed (shape : Scene.Shape) (value : Json) : Outline where
  screens := [{
    id := "drawHome", name := "Home"
    elements := [
      { id := "box_0", x := 1, y := 2, width := some (.int 3), height := some (.int 4), shape }]
    zones := [{ id := "touch_0", x := 1, y := 2, width := 3, height := 4, target := some "PAD" }] }]
  declarations := [{ name := "state", type := "int", line := 1, value }]
  geometry := some ⟨.int 0, .int 320, .int 240⟩

/-- a number and a truth value count as the same, and a box and a picture of the same extent do not -/
theorem boxed_told_apart : (boxed .rectangle (.int 1)).WellTyped ∧ (boxed .rectangle (.bool true)).WellTyped ∧
    Alike (boxed .rectangle (.int 1)).toJson (boxed .rectangle (.bool true)).toJson ∧
    Outline.Same (boxed .rectangle (.int 1)) (boxed .rectangle (.bool true)) ∧
    ¬ Alike (boxed .rectangle (.int 1)).toJson (boxed .bitmap (.int 1)).toJson := by
  have htyped : ∀ shape value, shape.size = none → (boxed shape value).WellTyped := by
    intro shape value hsize
    refine ⟨fun s hs e he => ?_, fun g hg => ?_⟩
    · obtain rfl := List.mem_singleton.1 hs
      obtain rfl := List.mem_singleton.1 he
      refine ⟨?_, ?_, ?_, ?_⟩
      · rintro v ⟨⟩
        exact ⟨3, rfl⟩
      · rintro v ⟨⟩
        exact ⟨4, rfl⟩
      · rintro v ⟨⟩
      · simp [hsize]
    · cases hg
      exact ⟨⟨0, rfl⟩, ⟨320, rfl⟩, ⟨240, rfl⟩⟩
  have hvalue : Alike (.int 1) (.bool true) := .number rfl rfl (by rw [Number.Scalar.same_whole]; rfl)
  have hvariable : Alike (Scene.Variable.toJson { name := "state", type := "int", line := 1, value := .int 1 })
      (Scene.Variable.toJson { name := "state", type := "int", line := 1, value := .bool true }) :=
    .of_fields (by simp [hvalue, Alike.refl])
  have halike : Alike (boxed .rectangle (.int 1)).toJson (boxed .rectangle (.bool true)).toJson :=
    .of_fields (by simp [boxed, Outline.fields, Alike.refl, Alike.arr, hvariable])
  have hsame := documents_tell_apart.2.2.1 _ _ (htyped _ _ rfl) (htyped _ _ rfl) halike
  refine ⟨htyped _ _ rfl, htyped _ _ rfl, halike, hsame, fun h => ?_⟩
  have hscreens := (documents_tell_apart.2.2.1 _ _ (htyped _ _ rfl) (htyped _ _ rfl) h).screens
  simp [boxed] at hscreens

end SketchPanel

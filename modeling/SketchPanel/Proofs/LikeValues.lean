/-
Values that count as the same. Two values can be compared as they stand or as what they hold: a number by what it
counts, an object by what stands under its keys, in whatever order. What is read off a document should not depend on
which of the two is meant, so it is read through what both share: a text, a whole number or a truth value is itself, a
list is its items in turn, and an object is a map.

Results:
- `likeness_eq`, `likeness_alike`: to be the same, and to count as the same, are both such comparisons.
- `Alike.refl`: a value counts as the same as itself.
- `Likeness.texts`, `Likeness.wholes`, `Likeness.words`: what may be absent is absent on both sides.
-/
import Mathlib.Data.List.Forall2
import Mathlib.Data.Option.Basic
import SketchPanel.Json.Loose
import SketchPanel.Proofs.ObjectFields

namespace SketchPanel.Json

open Number

/-- a comparison of values that tells texts, whole numbers and truth values apart, null from texts, and that goes into
lists in turn and into objects by their keys -/
structure Likeness (R : Json → Json → Prop) : Prop where
  text : ∀ {s t : String}, R (.str s) (.str t) → s = t
  whole : ∀ {m n : Int}, R (.int m) (.int n) → m = n
  truth : ∀ {a b : Bool}, R (.bool a) (.bool b) → a = b
  null_text : ∀ {s : String}, ¬ R .null (.str s)
  text_null : ∀ {s : String}, ¬ R (.str s) .null
  null_object : ∀ {f : Fields}, ¬ R .null (.obj f)
  object_null : ∀ {f : Fields}, ¬ R (.obj f) .null
  items : ∀ {xs ys : List Json}, R (.arr xs) (.arr ys) → List.Forall₂ R xs ys
  fields : ∀ {f g : Fields}, R (.obj f) (.obj g) → ∀ key, Option.Rel R (f.get? key) (g.get? key)

theorem option_rel_refl {α : Type} {R : α → α → Prop} (h : ∀ a, R a a) (o : Option α) : Option.Rel R o o := by
  cases o with
  | none => exact .none
  | some a => exact .some (h a)

/-- to be the same value is the strictest such comparison -/
theorem likeness_eq : Likeness Eq where
  text := Json.str.inj
  whole := Json.int.inj
  truth := Json.bool.inj
  null_text h := by cases h
  text_null h := by cases h
  null_object h := by cases h
  object_null h := by cases h
  items h := by
    rw [Json.arr.inj h]
    exact List.forall₂_refl _
  fields h key := by
    rw [Json.obj.inj h]
    exact option_rel_refl (fun _ => rfl) _

/-- whether values count as the same: numbers and truth values by what they count, objects by what stands under each
key, in any order -/
inductive Alike : Json → Json → Prop
  | null : Alike .null .null
  | str (s : String) : Alike (.str s) (.str s)
  | number {x y : Json} {m n : Scalar} (hx : x.scalar? = some m) (hy : y.scalar? = some n) (h : m.same n = true) :
      Alike x y
  /-- the undefined number counts as itself -/
  | real {x y : Float} (h : sameFloat x y = true) : Alike (.real x) (.real y)
  | arr {xs ys : List Json} (h : List.Forall₂ Alike xs ys) : Alike (.arr xs) (.arr ys)
  | obj {f g : Fields} (h : ∀ key, Option.Rel Alike (f.get? key) (g.get? key)) : Alike (.obj f) (.obj g)

theorem likeness_alike : Likeness Alike where
  text h := by
    cases h with
    | str => rfl
    | number hx => simp [scalar?, whole?] at hx
  whole h := by
    cases h with
    | number hx hy h =>
      obtain rfl := Option.some.inj hx
      obtain rfl := Option.some.inj hy
      rw [Scalar.same_whole] at h
      exact of_decide_eq_true h
  truth {a b} h := by
    cases h with
    | number hx hy h =>
      obtain rfl := Option.some.inj hx
      obtain rfl := Option.some.inj hy
      rw [Scalar.same_whole] at h
      revert h
      cases a <;> cases b <;> decide
  null_text h := by
    cases h with
    | number hx => simp [scalar?, whole?] at hx
  text_null h := by
    cases h with
    | number hx => simp [scalar?, whole?] at hx
  null_object h := by
    cases h with
    | number hx => simp [scalar?, whole?] at hx
  object_null h := by
    cases h with
    | number hx => simp [scalar?, whole?] at hx
  items h := by
    cases h with
    | number hx => simp [scalar?, whole?] at hx
    | arr h => exact h
  fields h := by
    cases h with
    | number hx => simp [scalar?, whole?] at hx
    | obj h => exact h

namespace Alike

/-- fields with the same keys in the same order, and values that count as the same -/
theorem of_fields {f g : Fields} (h : List.Forall₂ (fun a b => a.1 = b.1 ∧ Alike a.2 b.2) f g) :
    Alike (.obj f) (.obj g) := by
  refine .obj fun key => ?_
  induction h with
  | nil => exact .none
  | @cons a b f g hab _ ih =>
    obtain ⟨name, v⟩ := a
    obtain ⟨_, w⟩ := b
    obtain ⟨rfl, hvw⟩ := hab
    by_cases hkey : key = name
    · simpa [Fields.get?_cons, hkey] using Option.Rel.some hvw
    · simpa [Fields.get?_cons, hkey] using ih

mutual

theorem refl : ∀ v : Json, Alike v v
  | .null => .null
  | .bool b => .number rfl rfl (by rw [Scalar.same_whole]; simp)
  | .int n => .number rfl rfl (by rw [Scalar.same_whole]; simp)
  | .real x => .real (by simp [sameFloat])
  | .str s => .str s
  | .arr items => .arr (refl_items items)
  | .obj fields => of_fields (refl_fields fields)

theorem refl_items : ∀ items : List Json, List.Forall₂ Alike items items
  | [] => .nil
  | item :: items => .cons (refl item) (refl_items items)

theorem refl_fields : ∀ fields : Fields, List.Forall₂ (fun a b : String × Json => a.1 = b.1 ∧ Alike a.2 b.2) fields fields
  | [] => .nil
  | (_, v) :: fields => .cons ⟨rfl, refl v⟩ (refl_fields fields)

end

end Alike

/-- fields with the same names agree one by one, if they agree by name -/
theorem forall₂_of_names {α : Type} {S : α → α → Prop} {f g : List (String × α)} (hnames : f.map Prod.fst = g.map Prod.fst)
    (h : ∀ name v w, (name, v) ∈ f → (name, w) ∈ g → S v w) : List.Forall₂ (fun a b => S a.2 b.2) f g := by
  induction f generalizing g with
  | nil =>
    cases g with
    | nil => exact .nil
    | cons b g => simp at hnames
  | cons a f ih =>
    cases g with
    | nil => simp at hnames
    | cons b g =>
      obtain ⟨name, v⟩ := a
      obtain ⟨_, w⟩ := b
      obtain ⟨rfl, hrest⟩ := List.cons.inj hnames
      exact .cons (h name v w List.mem_cons_self List.mem_cons_self) (ih hrest fun key v w hv hw =>
        h key v w (List.mem_cons_of_mem _ hv) (List.mem_cons_of_mem _ hw))

/-- items that agree in turn, each with what is so of it -/
theorem forall₂_strengthen {α : Type} {S T : α → α → Prop} {P : α → Prop} (hS : ∀ {a b}, S a b → P a → P b → T a b)
    {xs ys : List α} (h : List.Forall₂ S xs ys) (hx : ∀ x ∈ xs, P x) (hy : ∀ y ∈ ys, P y) : List.Forall₂ T xs ys := by
  induction h with
  | nil => exact .nil
  | cons hab _ ih =>
    obtain ⟨ha, hx⟩ := List.forall_mem_cons.1 hx
    obtain ⟨hb, hy⟩ := List.forall_mem_cons.1 hy
    exact .cons (hS hab ha hb) (ih hx hy)

/-! ## What may be absent -/

namespace Likeness

variable {R : Json → Json → Prop}

theorem some_iff {v w : Json} : Option.Rel R (some v) (some w) ↔ R v w :=
  ⟨fun h => by cases h; assumption, .some⟩

/-- values that a kind of its own is made into, if it is told apart by the comparison -/
theorem absent {α : Type} {make : α → Json} (hmake : ∀ {a b}, R (make a) (make b) → a = b) {o o' : Option α}
    (h : Option.Rel R (o.map make) (o'.map make)) : o = o' := by
  cases o <;> cases o' <;> cases h
  · rfl
  · rename_i h
    rw [hmake h]

/-- something or null, if the two are told apart -/
theorem or_null {α : Type} {make : α → Json} {S : α → α → Prop} (hnull : ∀ {a}, ¬ R .null (make a))
    (hnull' : ∀ {a}, ¬ R (make a) .null) (hmake : ∀ {a b}, R (make a) (make b) → S a b) {o o' : Option α}
    (h : R (ofOption (o.map make)) (ofOption (o'.map make))) : Option.Rel S o o' := by
  cases o <;> cases o'
  · exact .none
  · exact absurd h hnull
  · exact absurd h hnull'
  · exact .some (hmake h)

theorem eq_of_rel {α : Type} {o o' : Option α} (h : Option.Rel Eq o o') : o = o' := by
  cases h with
  | none => rfl
  | some h => rw [h]

variable (hR : Likeness R)

include hR

theorem texts {o o' : Option String} (h : Option.Rel R (o.map .str) (o'.map .str)) : o = o' := absent hR.text h

theorem wholes {o o' : Option Int} (h : Option.Rel R (o.map .int) (o'.map .int)) : o = o' := absent hR.whole h

theorem text_or_null {o o' : Option String} (h : R (ofOption (o.map .str)) (ofOption (o'.map .str))) : o = o' :=
  eq_of_rel (or_null hR.null_text hR.text_null hR.text h)

/-- objects with the same keys agree field by field -/
theorem object (names : List String) {f g : Fields} (hf : f.keys = names) (hg : g.keys = names) (once : names.Nodup)
    (h : R (.obj f) (.obj g)) : List.Forall₂ (fun a b => R a.2 b.2) f g :=
  forall₂_of_names (hf.trans hg.symm) fun key _ _ hv hw => by
    have hrel := hR.fields h key
    rwa [Fields.get?_of_mem (hf ▸ once) hv, Fields.get?_of_mem (hg ▸ once) hw, some_iff] at hrel

/-- lists agree item by item -/
theorem list {α : Type} {make : α → Json} {S : α → α → Prop} (hmake : ∀ {a b}, R (make a) (make b) → S a b) {xs ys : List α}
    (h : R (.arr (xs.map make)) (.arr (ys.map make))) : List.Forall₂ S xs ys := by
  have hitems := hR.items h
  rw [List.forall₂_map_left_iff, List.forall₂_map_right_iff] at hitems
  exact hitems.imp fun _ _ => hmake

/-- items of a kind that is told apart -/
theorem list_eq {α : Type} {make : α → Json} (hmake : ∀ {a b}, R (make a) (make b) → a = b) {xs ys : List α}
    (h : R (.arr (xs.map make)) (.arr (ys.map make))) : xs = ys := by
  have hitems := hR.list hmake h
  rwa [List.forall₂_eq_eq_eq] at hitems

/-- texts in a list -/
theorem text_items {xs ys : List String} (h : R (.arr (xs.map .str)) (.arr (ys.map .str))) : xs = ys :=
  hR.list_eq hR.text h

end Likeness

/-! ## Whole numbers and texts -/

/-- whether a value is a whole number -/
def IsWhole (v : Json) : Prop := ∃ n, v = .int n

/-- whether a value is a text -/
def IsText (v : Json) : Prop := ∃ s, v = .str s

namespace Likeness

variable {R : Json → Json → Prop} {v w : Json} {o o' : Option Json}

theorem eq_of_whole (hR : Likeness R) (h : R v w) (hv : IsWhole v) (hw : IsWhole w) : v = w := by
  obtain ⟨m, rfl⟩ := hv
  obtain ⟨n, rfl⟩ := hw
  rw [hR.whole h]

theorem eq_of_text (hR : Likeness R) (h : R v w) (hv : IsText v) (hw : IsText w) : v = w := by
  obtain ⟨s, rfl⟩ := hv
  obtain ⟨t, rfl⟩ := hw
  rw [hR.text h]

/-- values of a kind that is told apart, where they are there -/
theorem strict {P : Json → Prop} (hP : ∀ {v w}, R v w → P v → P w → v = w) (h : Option.Rel R o o')
    (ho : ∀ v ∈ o, P v) (ho' : ∀ v ∈ o', P v) : Option.Rel Eq o o' := by
  cases h with
  | none => exact .none
  | some h => exact .some (hP h (ho _ rfl) (ho' _ rfl))

end Likeness

end SketchPanel.Json

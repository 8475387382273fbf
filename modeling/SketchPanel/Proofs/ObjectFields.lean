/-
The fields of an object as a finite map: what stands under a key after a field was put, which keys there are then, and
that no key comes twice in what was put together so. An object whose keys come once each is known by its keys in their
order and by what stands under them.

Results:
- `get?_put`, `keys_put`: a field put changes what stands under one key, and no key is lost or moves.
- `ext_keys`: fields with the same keys in the same order and the same values under them are the same.
- `read_keyed`: in an object that a text is read as no key comes twice, nor in any object inside it.
-/
import SketchPanel.Json.Reader

namespace SketchPanel.Json

namespace Fields

variable {f g : Fields} {key other : String} {value : Json}

/-- the keys of some fields, in their order -/
def keys (f : Fields) : List String := f.map Prod.fst

@[simp] theorem keys_nil : keys [] = [] := rfl

@[simp] theorem keys_cons (field : String × Json) (f : Fields) : keys (field :: f) = field.1 :: keys f := rfl

@[simp] theorem keys_append (f g : Fields) : keys (f ++ g) = keys f ++ keys g := List.map_append

@[simp] theorem get?_nil (key : String) : get? [] key = none := rfl

theorem get?_cons (key other : String) (value : Json) (f : Fields) :
    get? ((key, value) :: f) other = if other = key then some value else get? f other := by
  by_cases h : other = key
  · simp [get?, h]
  · have hne : (other == key) = false := beq_false_of_ne h
    simp [get?, List.lookup_cons, h, hne]

theorem get?_eq_none_iff : f.get? key = none ↔ key ∉ f.keys := by
  induction f with
  | nil => simp
  | cons field f ih =>
    obtain ⟨name, value⟩ := field
    by_cases h : key = name <;> simp [get?_cons, h, ih]

theorem mem_of_get? (h : f.get? key = some value) : (key, value) ∈ f := by
  induction f with
  | nil => simp at h
  | cons field f ih =>
    obtain ⟨name, old⟩ := field
    rw [get?_cons] at h
    by_cases hkey : key = name
    · rw [if_pos hkey] at h
      simp [hkey, Option.some.inj h]
    · rw [if_neg hkey] at h
      exact List.mem_cons_of_mem _ (ih h)

theorem get?_of_mem (once : f.keys.Nodup) (h : (key, value) ∈ f) : f.get? key = some value := by
  induction f with
  | nil => simp at h
  | cons field f ih =>
    obtain ⟨name, old⟩ := field
    obtain ⟨hname, once⟩ := List.nodup_cons.1 once
    rw [get?_cons]
    rcases List.mem_cons.1 h with hfirst | hrest
    · obtain ⟨rfl, rfl⟩ := Prod.mk.inj hfirst
      exact if_pos rfl
    · have hkey : key ∈ keys f := List.mem_map.2 ⟨(key, value), hrest, rfl⟩
      have hne : key ≠ name := fun heq => hname (heq ▸ hkey)
      rw [if_neg hne, ih once hrest]

/-! ## A field put -/

theorem get?_put (f : Fields) (key : String) (value : Json) (other : String) :
    (put key value f).get? other = if other = key then some value else f.get? other := by
  induction f with
  | nil => simp [put, get?_cons]
  | cons field f ih =>
    obtain ⟨name, old⟩ := field
    by_cases hname : name = key
    · subst hname
      by_cases h : other = name <;> simp [put, get?_cons, h]
    · have hcons : put key value ((name, old) :: f) = (name, old) :: put key value f := if_neg hname
      by_cases h : other = name
      · subst h
        simp [hcons, get?_cons, hname]
      · simp [hcons, get?_cons, ih, h]

theorem keys_put (key : String) (value : Json) (f : Fields) :
    (put key value f).keys = if key ∈ f.keys then f.keys else f.keys ++ [key] := by
  induction f with
  | nil => rfl
  | cons field f ih =>
    obtain ⟨name, old⟩ := field
    by_cases hname : name = key
    · simp [put, hname]
    · have hother : key ≠ name := Ne.symm hname
      by_cases h : key ∈ keys f <;> simp [put, hname, hother, h, ih]

theorem nodup_keys_put (key : String) (value : Json) (hf : f.keys.Nodup) : (put key value f).keys.Nodup := by
  rw [keys_put]
  split
  · exact hf
  · rename_i hkey
    refine List.nodup_append.2 ⟨hf, by simp, fun name hname last hlast => ?_⟩
    obtain rfl := List.mem_singleton.1 hlast
    exact fun h => hkey (h ▸ hname)

/-- fields read one after another have each key once -/
theorem nodup_keys_ofPairs (pairs : List (String × Json)) : (ofPairs pairs).keys.Nodup := by
  suffices h : ∀ f : Fields, f.keys.Nodup →
      (pairs.foldl (fun fields pair => put pair.1 pair.2 fields) f).keys.Nodup from h [] (by simp)
  induction pairs with
  | nil => exact fun f hf => hf
  | cons pair pairs ih => exact fun f hf => ih _ (nodup_keys_put _ _ hf)

theorem put_of_not_mem (value : Json) (h : key ∉ f.keys) : put key value f = f ++ [(key, value)] := by
  induction f with
  | nil => rfl
  | cons field f ih =>
    obtain ⟨hne, hf⟩ := not_or.1 (mt List.mem_cons.2 h)
    have hcons : put key value (field :: f) = field :: put key value f := if_neg (Ne.symm hne)
    rw [hcons, ih hf, List.cons_append]

/-- fields that have each key once are put together from themselves -/
theorem ofPairs_eq (once : f.keys.Nodup) : ofPairs f = f := by
  suffices h : ∀ g : Fields, (g ++ f).keys.Nodup →
      f.foldl (fun fields pair => put pair.1 pair.2 fields) g = g ++ f from h [] once
  intro g hg
  induction f generalizing g with
  | nil => simp
  | cons field f ih =>
    obtain ⟨_, hrest⟩ := List.nodup_cons.1 once
    have hnew : field.1 ∉ keys g := fun hmem => by
      have hapart := (List.nodup_append.1 (keys_append g _ ▸ hg)).2.2 field.1 hmem field.1 (by simp)
      exact hapart rfl
    rw [List.foldl_cons, put_of_not_mem _ hnew, ih hrest _ (by simpa using hg), List.append_assoc]
    rfl

/-- what stands under a key of such fields is one of the values read -/
theorem mem_of_get?_ofPairs {pairs : List (String × Json)} (h : (ofPairs pairs).get? key = some value) :
    (key, value) ∈ pairs := by
  suffices hall : ∀ f : Fields, (pairs.foldl (fun fields pair => put pair.1 pair.2 fields) f).get? key = some value →
      f.get? key = some value ∨ (key, value) ∈ pairs by
    rcases hall [] h with hnone | hmem
    · simp at hnone
    · exact hmem
  clear h
  induction pairs with
  | nil => exact fun f hf => Or.inl hf
  | cons pair pairs ih =>
    intro f hf
    rcases ih _ hf with hput | hmem
    · rw [get?_put] at hput
      split at hput
      · rename_i hkey
        obtain rfl := Option.some.inj hput
        exact Or.inr (by simp [hkey])
      · exact Or.inl hput
    · exact Or.inr (List.mem_cons_of_mem _ hmem)

/-! ## Fields known by their keys -/

/-- keys that come once, and what stands under them, are all there is to know of fields -/
theorem ext_keys (hkeys : f.keys = g.keys) (hf : f.keys.Nodup) (hsame : ∀ key, f.get? key = g.get? key) : f = g := by
  induction f generalizing g with
  | nil =>
    cases g with
    | nil => rfl
    | cons field g => simp at hkeys
  | cons field f ih =>
    obtain ⟨name, value⟩ := field
    cases g with
    | nil => simp at hkeys
    | cons field g =>
      obtain ⟨name', value'⟩ := field
      obtain ⟨rfl, hrest⟩ : name = name' ∧ keys f = keys g := by simpa using hkeys
      obtain ⟨hname, hf⟩ := List.nodup_cons.1 hf
      have hvalue : value = value' := by simpa [get?_cons] using hsame name
      have htail : f = g := by
        refine ih hrest hf fun key => ?_
        by_cases hkey : key = name
        · subst hkey
          rw [get?_eq_none_iff.2 hname, get?_eq_none_iff.2 (hrest ▸ hname)]
        · simpa [get?_cons, hkey] using hsame key
      rw [hvalue, htail]

/-- no key comes twice, nor in any object under a key -/
inductive Keyed : Fields → Prop
  | of {f : Fields} (once : f.keys.Nodup) (inner : ∀ key fields, f.get? key = some (.obj fields) → Keyed fields) :
      Keyed f

namespace Keyed

theorem once (h : Keyed f) : f.keys.Nodup := by cases h; assumption

theorem inner {fields : Fields} (h : Keyed f) (hkey : f.get? key = some (.obj fields)) : Keyed fields := by
  cases h with
  | of _ inner => exact inner _ _ hkey

end Keyed

end Fields

/-! ## Objects read from a text -/

/-- the fields of a value that is an object have each key once, at every depth -/
def Keyed (v : Json) : Prop := ∀ fields, v = .obj fields → Fields.Keyed fields

theorem keyed_ofPairs {pairs : List (String × Json)} (h : ∀ pair ∈ pairs, Keyed pair.2) :
    Fields.Keyed (Fields.ofPairs pairs) :=
  .of (Fields.nodup_keys_ofPairs pairs) fun _ fields hkey => h _ (Fields.mem_of_get?_ofPairs hkey) fields rfl

/-- a number is no object -/
theorem number_plain {text rest : List Char} {v : Json} (h : number text = .ok (v, rest)) : v.fields? = none := by
  unfold number at h
  repeat' split at h
  all_goals simp_all [flawBefore]
  all_goals
    obtain ⟨rfl, -⟩ := h
    rfl

/-- a word, or what else there may be -/
theorem plain_or {word v : Json} {found : Option (List Char)} {others : Unit → Option (Json × List Char)}
    {rest : List Char} (hword : word.fields? = none) (hothers : others () = some (v, rest) → v.fields? = none)
    (h : ((found.map (word, ·)).orElse others) = some (v, rest)) : v.fields? = none := by
  cases found with
  | none => exact hothers h
  | some more =>
    obtain ⟨rfl, -⟩ := Prod.mk.inj (Option.some.inj h)
    exact hword

/-- a word is no object -/
theorem word?_plain {text rest : List Char} {v : Json} (h : word? text = some (v, rest)) : v.fields? = none := by
  refine plain_or rfl (plain_or rfl (plain_or rfl (plain_or rfl (plain_or rfl fun hlast => ?_)))) h
  obtain ⟨more, -, hmore⟩ := Option.map_eq_some_iff.1 hlast
  obtain ⟨rfl, -⟩ := Prod.mk.inj hmore
  rfl

/-- an object is put together from pairs -/
theorem value_object {room fuel : Nat} {text rest : List Char} {fields : Fields}
    (h : value room (fuel + 1) text = .ok (.obj fields, rest)) :
    fields = [] ∨ ∃ inside more found, pairs inside fuel more = .ok (found, rest) ∧ fields = Fields.ofPairs found := by
  unfold value at h
  split at h
  · cases h
  · simp only [bind, Except.bind] at h
    split at h
    · cases h
    · cases h
  · split at h
    · cases h
    · cases h
    · simp only [bind, Except.bind] at h
      split at h
      · cases h
      · cases h
  · split at h
    · cases h
    · cases h
      exact Or.inl rfl
    · rename_i inside more
      simp only [bind, Except.bind] at h
      split at h
      · cases h
      · rename_i found hfound
        cases h
        exact Or.inr ⟨_, _, _, hfound, rfl⟩
  · split at h
    · rename_i found hfound
      cases h
      exact absurd (word?_plain hfound) (by simp [fields?])
    · exact absurd (number_plain h) (by simp [fields?])

/-- pairs are one pair and then others, or no others -/
theorem pairs_cases {room fuel : Nat} {text rest : List Char} {found : List (String × Json)}
    (h : pairs room (fuel + 1) text = .ok (found, rest)) :
    ∃ key start v after others, value room fuel start = .ok (v, after) ∧ found = (key, v) :: others ∧
      (others = [] ∨ ∃ more, pairs room fuel more = .ok (others, rest)) := by
  unfold pairs at h
  split at h
  · simp only [bind, Except.bind] at h
    split at h
    · cases h
    · split at h
      · split at h
        · cases h
        · rename_i hvalue
          split at h
          · cases h
            exact ⟨_, _, _, _, _, hvalue, rfl, .inl rfl⟩
          · split at h
            · cases h
            · rename_i hmore
              cases h
              exact ⟨_, _, _, _, _, hvalue, rfl, .inr ⟨_, hmore⟩⟩
          · cases h
      · cases h
  · cases h

theorem keyed_of_plain {v : Json} (h : v.fields? = none) : Keyed v := by
  rintro fields rfl
  simp [fields?] at h

/-- by the count that bounds the reading, for values and for pairs at once -/
theorem keyed_of_value (fuel : Nat) :
    (∀ room text v rest, value room fuel text = .ok (v, rest) → Keyed v) ∧
      ∀ room text found rest, pairs room fuel text = .ok (found, rest) → ∀ pair ∈ found, Keyed pair.2 := by
  induction fuel with
  | zero =>
    refine ⟨fun room text v rest h => ?_, fun room text found rest h => ?_⟩
    · simp [value, flawBefore] at h
    · simp [pairs, flawBefore] at h
  | succ fuel ih =>
    obtain ⟨hvalue, hpairs⟩ := ih
    constructor
    · rintro room text _ rest h fields rfl
      rcases value_object h with rfl | ⟨_, _, found, hfound, rfl⟩
      · exact .of (by simp) (by simp)
      · exact keyed_ofPairs (hpairs _ _ _ _ hfound)
    · intro room text found rest h pair hpair
      obtain ⟨_, _, v, _, others, hv, rfl, hothers⟩ := pairs_cases h
      rcases List.mem_cons.1 hpair with rfl | hpair
      · exact hvalue _ _ _ _ hv
      · rcases hothers with rfl | ⟨_, hmore⟩
        · simp at hpair
        · exact hpairs _ _ _ _ hmore _ hpair

/-- an object that a text is has each key once, at every depth -/
theorem read_keyed {text : List Char} {v : Json} (h : read text = .ok v) : Keyed v := by
  unfold read at h
  split at h
  · simp [flawBefore] at h
  · simp only [bind, Except.bind] at h
    split at h
    · cases h
    · rename_i found hfound
      split at h
      · cases h
        exact (keyed_of_value _).1 _ _ _ _ hfound
      · simp [flawBefore] at h

end SketchPanel.Json

/-
Settings laid over others. Under every key that the upper settings have stands what they have there, laid over what
stood there; every other key keeps what it had. That decides all else: what is laid over itself is the same, and laying
the same settings over a second time, or laying the result over the settings below once more, changes nothing. The last
two go down into the objects inside, where an object may lie over a plain value and a plain value over an object.

Results:
- `get?_merge`, `keys_merge`: what stands under each key, and which keys there are.
- `merge_self`, `merge_again`, `merge_over_below`: laying over is absorbed.
-/
import SketchPanel.Proofs.ObjectFields
import SketchPanel.Settings.Basic

namespace SketchPanel.Settings

open Json (Fields)
open Json.Fields (get?_put get?_cons keys_put ext_keys get?_eq_none_iff Keyed)

variable {t s : Settings}

/-! ## One value over another -/

/-- an object over an object goes into it -/
theorem overlaid_obj (lower upper : Settings) : overlaid (some (.obj lower)) (.obj upper) = .obj (merge lower upper) := by
  rw [overlaid]

/-- anything else replaces what was there -/
theorem overlaid_of_mismatch {old : Option Json} {value : Json}
    (h : ∀ lower upper, old = some (.obj lower) → value ≠ .obj upper) : overlaid old value = value := by
  cases value with
  | obj upper =>
    rw [overlaid]
    exact fun lower hold => h lower upper hold rfl
  | _ => simp [overlaid]

/-- a value lies over another as an object over an object, or it does not -/
theorem object_or_mismatch (old : Option Json) (value : Json) :
    (∃ lower upper, old = some (.obj lower) ∧ value = .obj upper) ∨
      ∀ lower upper, old = some (.obj lower) → value ≠ .obj upper := by
  by_cases h : ∃ lower upper, old = some (.obj lower) ∧ value = .obj upper
  · exact .inl h
  · exact .inr fun lower upper hold hvalue => h ⟨lower, upper, hold, hvalue⟩

/-- a value over itself, if that holds of its fields -/
theorem overlaid_self {value : Json} (h : ∀ fields, value = .obj fields → merge fields fields = fields) :
    overlaid (some value) value = value := by
  cases value with
  | obj fields => rw [overlaid_obj, h fields rfl]
  | _ => simp [overlaid]

/-! ## What stands under a key -/

theorem get?_merge (t : Settings) (hs : s.keys.Nodup) (key : String) :
    (merge t s).get? key = (s.get? key).elim (t.get? key) fun value => some (overlaid (t.get? key) value) := by
  induction s generalizing t with
  | nil => simp [merge]
  | cons field s ih =>
    obtain ⟨name, value⟩ := field
    obtain ⟨hname, hs⟩ := List.nodup_cons.1 hs
    rw [merge, ih _ hs, get?_cons, get?_put]
    by_cases hkey : key = name
    · subst hkey
      simp [get?_eq_none_iff.2 hname]
    · simp [hkey]

/-- no key is lost or moves; new ones follow in their order -/
theorem keys_merge (t : Settings) (hs : s.keys.Nodup) :
    (merge t s).keys = t.keys ++ (Fields.keys s).filter (· ∉ t.keys) := by
  induction s generalizing t with
  | nil => simp [merge]
  | cons field s ih =>
    obtain ⟨name, value⟩ := field
    obtain ⟨hname, hs⟩ := List.nodup_cons.1 hs
    rw [merge, ih _ hs, keys_put]
    by_cases hkey : name ∈ t.keys
    · simp [hkey]
    · have hrest : (Fields.keys s).filter (· ∉ t.keys ++ [name]) = (Fields.keys s).filter (· ∉ t.keys) := by
        refine List.filter_congr fun other hother => ?_
        have hne : other ≠ name := fun h => hname (h ▸ hother)
        simp [hne]
      rw [if_neg hkey, hrest]
      simp [hkey]

theorem mem_keys_merge (hs : s.keys.Nodup) {key : String} :
    key ∈ (merge t s).keys ↔ key ∈ t.keys ∨ key ∈ s.keys := by
  rw [keys_merge t hs]
  by_cases h : key ∈ t.keys <;> simp [h]

theorem nodup_keys_merge (ht : t.keys.Nodup) (hs : s.keys.Nodup) : (merge t s).keys.Nodup := by
  rw [keys_merge t hs]
  refine List.nodup_append.2 ⟨ht, hs.filter _, fun key hkey other hother => ?_⟩
  rintro rfl
  simp [hkey] at hother

/-- settings laid over others have each key once at every depth, if both have -/
theorem keyed_merge (ht : Keyed t) (hs : Keyed s) : Keyed (merge t s) := by
  induction hs generalizing t with
  | @of s once inner ih =>
    refine .of (nodup_keys_merge ht.once once) fun key fields hkey => ?_
    rw [get?_merge t once] at hkey
    cases hvalue : s.get? key with
    | none => exact ht.inner (by simpa [hvalue] using hkey)
    | some value =>
      have hover : overlaid (t.get? key) value = .obj fields := by simpa [hvalue] using hkey
      rcases object_or_mismatch (t.get? key) value with ⟨lower, upper, hlower, rfl⟩ | hmismatch
      · rw [hlower, overlaid_obj] at hover
        obtain rfl := Json.obj.inj hover
        exact ih _ _ hvalue (ht.inner hlower)
      · rw [overlaid_of_mismatch hmismatch] at hover
        exact inner key fields (hover ▸ hvalue)

/-- if all keys of the upper settings are there, the keys stay as they are -/
theorem keys_merge_of_subset (hs : s.keys.Nodup) (h : ∀ key ∈ s.keys, key ∈ t.keys) : (merge t s).keys = t.keys := by
  rw [keys_merge t hs]
  simpa using h

/-! ## Absorption -/

/-- settings laid over themselves; by the depth of their objects -/
theorem merge_self (ht : Keyed t) : merge t t = t := by
  induction ht with
  | @of t once _ ih =>
    refine ext_keys (keys_merge_of_subset once fun _ h => h) (nodup_keys_merge once once) fun key => ?_
    rw [get?_merge t once]
    cases hvalue : t.get? key with
    | none => rfl
    | some value => exact congrArg some (overlaid_self fun fields h => ih key fields (h ▸ hvalue))

/-- settings laid over once more -/
theorem merge_again (ht : Keyed t) (hs : Keyed s) : merge (merge t s) s = merge t s := by
  induction hs generalizing t with
  | @of s once inner ih =>
    refine ext_keys (keys_merge_of_subset once fun _ h => (mem_keys_merge once).2 (.inr h))
      (nodup_keys_merge (nodup_keys_merge ht.once once) once) fun key => ?_
    rw [get?_merge _ once, get?_merge t once]
    cases hvalue : s.get? key with
    | none => rfl
    | some value =>
      refine congrArg some ?_
      rw [Option.elim_some]
      rcases object_or_mismatch (t.get? key) value with ⟨lower, upper, hlower, rfl⟩ | hmismatch
      · rw [hlower, overlaid_obj, overlaid_obj, ih _ _ hvalue (ht.inner hlower)]
      · -- what has replaced the old value now lies over itself
        rw [overlaid_of_mismatch hmismatch]
        exact overlaid_self fun fields h => merge_self (inner key fields (h ▸ hvalue))

/-- the result laid over the settings below it -/
theorem merge_over_below (ht : Keyed t) (hs : Keyed s) : merge t (merge t s) = merge t s := by
  induction hs generalizing t with
  | @of s once inner ih =>
    have honce := nodup_keys_merge ht.once once
    have hkeys : (merge t (merge t s)).keys = (merge t s).keys := by
      rw [keys_merge t honce, keys_merge t once]
      simp [List.filter_append, List.filter_filter]
    refine ext_keys hkeys (nodup_keys_merge ht.once honce) fun key => ?_
    rw [get?_merge t honce, get?_merge t once]
    cases hvalue : s.get? key with
    | none =>
      cases hold : t.get? key with
      | none => rfl
      | some old => exact congrArg some (overlaid_self fun fields h => merge_self (ht.inner (h ▸ hold)))
    | some value =>
      refine congrArg some ?_
      rcases object_or_mismatch (t.get? key) value with ⟨lower, upper, hlower, rfl⟩ | hmismatch
      · rw [hlower, overlaid_obj, overlaid_obj, ih _ _ hvalue (ht.inner hlower)]
      · rw [overlaid_of_mismatch hmismatch, overlaid_of_mismatch hmismatch]

/-! ## The settings that hold unless others are given -/

/-- none of them is an object -/
theorem defaults_keyed (level : String) : Keyed (defaults level) := by
  refine .of (by simp [defaults]) fun key fields hkey => ?_
  have hmem := Json.Fields.mem_of_get? hkey
  simp [defaults] at hmem

end SketchPanel.Settings

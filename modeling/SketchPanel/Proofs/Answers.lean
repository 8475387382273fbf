/-
Answers that may fail to come. What is reckoned in steps answers only if every step does; so a property of the answer
follows from properties of the steps, and of a step that fails nothing need be known.

Results:
- `bind_eq_ok_iff`: an answer in two steps, taken apart.
- `Gives.bind`, `gives_bind`: a property of it from one of the first step, or whatever the first step gives.
- `Gives.mapError`: naming the faults otherwise does not change the answer.
- `gives_length_mapM`: a list reckoned item by item has as many items.
-/
import Mathlib.Tactic

namespace SketchPanel

variable {ε α β : Type}

theorem bind_eq_ok_iff {x : Except ε α} {f : α → Except ε β} {b : β} :
    x >>= f = .ok b ↔ ∃ a, x = .ok a ∧ f a = .ok b := by
  cases x <;> simp [bind, Except.bind]

namespace Surface

/-- an answer, if there is one, has a property -/
def Gives {ε α : Type} (P : α → Prop) (x : Except ε α) : Prop := ∀ a, x = .ok a → P a

variable {P Q : α → Prop} {R : β → Prop}

@[simp] theorem gives_ok {a : α} : Gives P (.ok a : Except ε α) ↔ P a := by simp [Gives]

@[simp] theorem gives_pure {a : α} : Gives P (pure a : Except ε α) ↔ P a := gives_ok

@[simp] theorem gives_error {fault : ε} : Gives P (.error fault) := fun _ h => nomatch h

theorem Gives.bind {x : Except ε β} {f : β → Except ε α} (hx : Gives R x) (h : ∀ b, R b → Gives P (f b)) :
    Gives P (x >>= f) := by
  intro a ha
  obtain ⟨b, hb, hf⟩ := bind_eq_ok_iff.1 ha
  exact h b (hx b hb) a hf

theorem gives_bind {x : Except ε β} {f : β → Except ε α} (h : ∀ b, Gives P (f b)) : Gives P (x >>= f) :=
  Gives.bind (fun _ _ => trivial) fun b _ => h b

theorem Gives.mono (h : ∀ a, P a → Q a) {x : Except ε α} (hx : Gives P x) : Gives Q x :=
  fun a ha => h a (hx a ha)

theorem Gives.mapError {δ : Type} {x : Except ε α} (hx : Gives P x) (f : ε → δ) : Gives P (x.mapError f) := by
  cases x with
  | error fault => exact gives_error
  | ok a => exact gives_ok.2 (gives_ok.1 hx)

theorem gives_length_mapM (f : α → Except ε β) (items : List α) :
    Gives (fun made => made.length = items.length) (items.mapM f) := by
  induction items with
  | nil => exact gives_pure.2 rfl
  | cons item items ih =>
    rw [List.mapM_cons]
    refine gives_bind fun made => ih.bind fun others hothers => ?_
    rw [gives_pure, List.length_cons, List.length_cons, hothers]

end Surface

end SketchPanel

/-
Computations that leave notes and may fail. The notes left before a failure stay. What such a computation answers
does not depend on its notes: `result` respects sequencing.
-/

namespace SketchPanel

/-- notes left on the way, and how it ended -/
structure Traced (ν ε α : Type) where
  notes : List ν
  result : Except ε α

namespace Traced

variable {ν ε α β : Type}

instance : Monad (Traced ν ε) where
  pure a := ⟨[], .ok a⟩
  bind x f := match x.result with
    | .ok a => ⟨x.notes ++ (f a).notes, (f a).result⟩
    | .error e => ⟨x.notes, .error e⟩

/-- leaves one note -/
def tell (note : ν) : Traced ν ε Unit := ⟨[note], .ok ()⟩

/-- an answer or a failure without notes -/
def lift (result : Except ε α) : Traced ν ε α := ⟨[], result⟩

/-- the same computation, its notes taken as another kind of note and its failures as another kind of failure -/
def map {ν' ε' : Type} (note : ν → ν') (fault : ε → ε') (x : Traced ν ε α) : Traced ν' ε' α :=
  ⟨x.notes.map note, x.result.mapError fault⟩

@[simp] theorem result_pure (a : α) : (pure a : Traced ν ε α).result = .ok a := rfl

@[simp] theorem notes_pure (a : α) : (pure a : Traced ν ε α).notes = [] := rfl

@[simp] theorem result_bind (x : Traced ν ε α) (f : α → Traced ν ε β) :
    (x >>= f).result = x.result >>= fun a => (f a).result := by
  cases h : x.result <;> simp [bind, h, Except.bind]

theorem bind_eq_ok_iff {x : Traced ν ε α} {f : α → Traced ν ε β} {b : β} :
    (x >>= f).result = .ok b ↔ ∃ a, x.result = .ok a ∧ (f a).result = .ok b := by
  cases h : x.result <;> simp [bind, h]

theorem bind_ok {x : Traced ν ε α} {f : α → Traced ν ε β} {a : α} (h : x.result = .ok a) :
    (x >>= f).result = (f a).result := by
  rw [result_bind, h]
  rfl

theorem bind_error {x : Traced ν ε α} {f : α → Traced ν ε β} {e : ε} (h : x.result = .error e) :
    (x >>= f).result = .error e := by
  rw [result_bind, h]
  rfl

theorem map_eq_ok_iff {ν' ε' : Type} {note : ν → ν'} {fault : ε → ε'} {x : Traced ν ε α} {a : α} :
    (x.map note fault).result = .ok a ↔ x.result = .ok a := by
  obtain ⟨notes, result⟩ := x
  cases result with
  | ok b => exact ⟨fun h => congrArg Except.ok (Except.ok.inj h), fun h => congrArg Except.ok (Except.ok.inj h)⟩
  | error e => exact ⟨fun h => (nomatch h), fun h => (nomatch h)⟩

@[simp] theorem result_tell (note : ν) : (tell note : Traced ν ε Unit).result = .ok () := rfl

@[simp] theorem result_lift (r : Except ε α) : (lift r : Traced ν ε α).result = r := rfl

@[simp] theorem notes_lift (r : Except ε α) : (lift r : Traced ν ε α).notes = [] := rfl

end Traced

/-- a computation with notes that also acts on the world outside -/
def TracedT (m : Type → Type) (ν ε α : Type) : Type := m (Traced ν ε α)

namespace TracedT

variable {m : Type → Type} [Monad m] {ν ε α β : Type}

instance : Monad (TracedT m ν ε) where
  pure a := (pure (pure a) : m (Traced ν ε _))
  bind x f := (do
    let first : Traced ν ε _ ← x
    match first.result with
    | .error fault => return ⟨first.notes, .error fault⟩
    | .ok a =>
      let second : Traced ν ε _ ← f a
      return ⟨first.notes ++ second.notes, second.result⟩ : m (Traced ν ε _))

/-- a computation that does not act -/
def still (x : Traced ν ε α) : TracedT m ν ε α := (pure x : m (Traced ν ε α))

/-- an action without notes, its failures taken as another kind of failure -/
def act {ε' : Type} (fault : ε → ε') (x : m (Except ε α)) : TracedT m ν ε' α :=
  (do return ⟨[], (← x).mapError fault⟩ : m (Traced ν ε' α))

/-- an action with notes, its failures taken as another kind of failure -/
def ofTraced {ε' : Type} (fault : ε → ε') (x : m (Traced ν ε α)) : TracedT m ν ε' α :=
  (do return (← x).map id fault : m (Traced ν ε' α))

/-- notes and end of the computation -/
def run (x : TracedT m ν ε α) : m (Traced ν ε α) := x

end TracedT

end SketchPanel

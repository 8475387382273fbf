/-
Paths as they grow. A path is a list of polylines of which only the last ever gets points, and a closed one gets none: what
comes after it begins a polyline of its own. So a point stays where it is, in its polyline and among all points of the path,
until the path is begun anew, and every polyline has the point that it was begun with. An arc is worked out before the path
is touched, so one that fails leaves the path alone.

Results:
- `Path.Grows`: what a path may become by further points; `Path.Grows.trans`: one growth after another.
- `Path.grows_goesOn`, `Path.grows_arc`: a line adds one point, an arc between 5 and 721.
- `apply_makes`: what an operation makes of the path.
- `path_only_grows`: the same at every moment of a surface's history, and from one moment to any later one.
Witness:
- `corner_only_grows`: a closed polyline, an arc that fails, and a line that begins anew.
-/
import SketchPanel.Proofs.SurfaceRuns

namespace SketchPanel.Surface

open Number Imaging

/-! ## Growth -/

/-- what a polyline may become: its points stay in front of any others, and once closed it stays as it is -/
structure SubPath.Becomes (a b : SubPath) : Prop where
  points : a.points <+: b.points
  closed : a.closed = true → b = a

theorem SubPath.Becomes.refl (a : SubPath) : a.Becomes a := ⟨List.prefix_rfl, fun _ => rfl⟩

theorem SubPath.Becomes.trans {a b c : SubPath} (h : a.Becomes b) (h' : b.Becomes c) : a.Becomes c := by
  refine ⟨h.points.trans h'.points, ?_⟩
  intro hclosed
  have hsame := h.closed hclosed
  subst hsame
  exact h'.closed hclosed

namespace Path

/-- all points, polyline after polyline -/
def points (path : Path) : List Point := path.flatMap SubPath.points

/-- what a path may become by further points: a polyline keeps its place, a new one has a point, and the further points come
after all others -/
structure Grows (path : Path) (more : List Point) (next : Path) : Prop where
  polylines : ∀ (i : Nat) (a : SubPath), path[i]? = some a → ∃ b, next[i]? = some b ∧ a.Becomes b
  begun : ∀ (i : Nat) (b : SubPath), next[i]? = some b → path[i]? = none → b.points ≠ []
  points : next.points = path.points ++ more

/-- whether every polyline has a point -/
def Drawn (path : Path) : Prop := ∀ a ∈ path, a.points ≠ []

section

variable {path next later : Path} {more further : List Point} {p : Point} {ofArc : Bool}

theorem Grows.refl (path : Path) : path.Grows [] path := by
  refine ⟨?_, ?_, (List.append_nil _).symm⟩
  · intro i a ha
    exact ⟨a, ha, SubPath.Becomes.refl a⟩
  · intro i b hb hnone
    cases hb.symm.trans hnone

/-- a polyline with a point keeps it -/
theorem Grows.kept (h : path.Grows more next) {i : Nat} {b : SubPath} (hb : next[i]? = some b)
    (hpath : ∀ a, path[i]? = some a → a.points ≠ []) : b.points ≠ [] := by
  cases ha : path[i]? with
  | none => exact h.begun i b hb ha
  | some a =>
    obtain ⟨c, hc, hbecomes⟩ := h.polylines i a ha
    cases hb.symm.trans hc
    intro hnil
    apply hpath a ha
    rw [← List.prefix_nil, ← hnil]
    exact hbecomes.points

theorem Grows.trans (h : path.Grows more next) (h' : next.Grows further later) :
    path.Grows (more ++ further) later := by
  refine ⟨?_, ?_, ?_⟩
  · intro i a ha
    obtain ⟨b, hb, hab⟩ := h.polylines i a ha
    obtain ⟨c, hc, hbc⟩ := h'.polylines i b hb
    exact ⟨c, hc, hab.trans hbc⟩
  · intro i c hc hnone
    apply h'.kept hc
    intro b hb
    exact h.begun i b hb hnone
  · rw [h'.points, h.points, List.append_assoc]

theorem Drawn.grows (hpath : path.Drawn) (h : path.Grows more next) : next.Drawn := by
  intro b hb
  obtain ⟨i, hi⟩ := List.mem_iff_getElem?.1 hb
  apply h.kept hi
  intro a ha
  exact hpath a (List.mem_of_getElem? ha)

/-! ## The last polyline -/

/-- a path grows by the points that its last polyline gets -/
theorem grows_last (front : Path) {a b : SubPath} (h : a.Becomes b) (hmore : b.points = a.points ++ more) :
    Grows (front ++ [a]) more (front ++ [b]) := by
  refine ⟨?_, ?_, ?_⟩
  · intro i c hc
    rcases Nat.lt_or_ge i front.length with hi | hi
    · rw [List.getElem?_append_left hi] at hc ⊢
      exact ⟨c, hc, SubPath.Becomes.refl c⟩
    · rw [List.getElem?_append_right hi] at hc ⊢
      cases hplace : i - front.length with
      | zero =>
        rw [hplace] at hc
        cases hc
        exact ⟨b, rfl, h⟩
      | succ place =>
        rw [hplace] at hc
        cases hc
  · intro i c hc hnone
    have hlength := List.getElem?_eq_none_iff.1 hnone
    rw [List.getElem?_eq_none (by simpa using hlength)] at hc
    cases hc
  · simp only [Path.points, List.flatMap_append, List.flatMap_singleton, hmore, List.append_assoc]

theorem grows_begins (path : Path) (p : Point) (ofArc : Bool) : path.Grows [p] (path.begins p ofArc) := by
  refine ⟨?_, ?_, ?_⟩
  · intro i a ha
    refine ⟨a, ?_, SubPath.Becomes.refl a⟩
    rw [begins, List.getElem?_append_left (List.getElem?_eq_some_iff.1 ha).1]
    exact ha
  · intro i b hb hnone
    rw [begins, List.getElem?_append_right (List.getElem?_eq_none_iff.1 hnone)] at hb
    have hlast := List.mem_of_getElem? hb
    rw [List.mem_singleton] at hlast
    rw [hlast]
    exact List.cons_ne_nil _ _
  · simp [begins, Path.points]

theorem extend_last (front : Path) (last : SubPath) (more : List Point) (ofArc : Bool) :
    extend (front ++ [last]) more ofArc =
      front ++ [{ last with points := last.points ++ more, arcLast := ofArc }] := by
  induction front with
  | nil => rfl
  | cons first rest ih =>
    rw [List.cons_append, extend, ih]
    · rfl
    · simp

theorem close_last (front : Path) (last : SubPath) :
    close (front ++ [last]) = front ++ [{ last with closed := true }] := by
  induction front with
  | nil => rfl
  | cons first rest ih =>
    rw [List.cons_append, close, ih]
    · rfl
    · simp

/-- a line goes on from a path whose last polyline is open -/
theorem ended_eq_false_iff : path.ended = false ↔ ∃ front last, path = front ++ [last] ∧ last.closed = false := by
  rcases List.eq_nil_or_concat' path with rfl | ⟨front, last, rfl⟩
  · simp [ended]
  · constructor
    · intro h
      refine ⟨front, last, rfl, ?_⟩
      simpa [ended] using h
    · rintro ⟨front', last', hpath, hopen⟩
      rw [hpath]
      simpa [ended] using hopen

/-- an open polyline goes on with any points -/
theorem grows_extend (h : path.ended = false) (more : List Point) (ofArc : Bool) :
    path.Grows more (path.extend more ofArc) := by
  obtain ⟨front, last, rfl, hopen⟩ := ended_eq_false_iff.1 h
  rw [extend_last]
  refine grows_last front ⟨List.prefix_append _ _, ?_⟩ rfl
  intro hclosed
  cases hopen.symm.trans hclosed

/-! ## Operations on paths -/

theorem grows_goesOn (path : Path) (p : Point) (ofArc : Bool) : path.Grows [p] (path.goesOn p ofArc) := by
  cases h : path.ended with
  | true =>
    rw [goesOn, if_pos h]
    exact grows_begins path p ofArc
  | false =>
    rw [goesOn, h, if_neg Bool.false_ne_true]
    exact grows_extend h [p] ofArc

/-- a path that has just gone on is open -/
theorem ended_goesOn (path : Path) (p : Point) (ofArc : Bool) : (path.goesOn p ofArc).ended = false := by
  cases h : path.ended with
  | true =>
    rw [goesOn, if_pos h]
    exact ended_eq_false_iff.2 ⟨path, _, rfl, rfl⟩
  | false =>
    rw [goesOn, h, if_neg Bool.false_ne_true]
    obtain ⟨front, last, rfl, hopen⟩ := ended_eq_false_iff.1 h
    rw [extend_last]
    exact ended_eq_false_iff.2 ⟨front, _, rfl, hopen⟩

theorem grows_close (path : Path) : path.Grows [] path.close := by
  rcases List.eq_nil_or_concat' path with rfl | ⟨front, last, rfl⟩
  · exact Grows.refl []
  · rw [close_last]
    refine grows_last front ⟨List.prefix_rfl, ?_⟩ (List.append_nil _).symm
    intro hclosed
    rw [← hclosed]

end

end Path

/-! ## Arcs -/

theorem gives_reckon {α : Type} {P : α → Prop} {x : Except Scalar.Fault α} (h : Gives P x) : Gives P (reckon x) := by
  cases x with
  | error fault => exact gives_error
  | ok a => exact gives_ok.2 (h a rfl)

/-- an arc has between four and 720 lines -/
theorem segmentsOf_bounds (sweep : Float) (radius : Scalar) :
    Gives (fun segments => 4 ≤ segments ∧ segments ≤ 720) (segmentsOf sweep radius) := by
  unfold segmentsOf
  refine gives_bind fun longest => gives_bind fun segments => ?_
  rw [gives_pure, maxSegments]
  omega

/-- an arc has one point more than lines -/
theorem arcPoints_length (cx cy radius start stop : Scalar) (anticlockwise : Bool) :
    Gives (fun points => 5 ≤ points.length ∧ points.length ≤ 721)
      (arcPoints cx cy radius start stop anticlockwise) := by
  unfold arcPoints
  split_ifs
  · exact gives_error
  refine gives_reckon (gives_bind fun sweep => (segmentsOf_bounds sweep radius).bind fun segments hsegments => ?_)
  refine Gives.mono ?_ (gives_length_mapM _ _)
  intro points hpoints
  rw [List.length_range] at hpoints
  omega

/-- an arc that comes about adds all its points -/
theorem Path.grows_arc (path : Path) (cx cy radius start stop : Scalar) (anticlockwise : Bool) :
    Gives (fun next => ∃ more, 5 ≤ more.length ∧ more.length ≤ 721 ∧ path.Grows more next)
      (path.arc cx cy radius start stop anticlockwise) := by
  unfold Path.arc
  refine (arcPoints_length cx cy radius start stop anticlockwise).bind fun points hpoints => ?_
  obtain ⟨hleast, hmost⟩ := hpoints
  cases points with
  | nil => exact absurd hleast (by decide)
  | cons first rest =>
    have hfirst := path.grows_goesOn first true
    have hrest := Path.grows_extend (path.ended_goesOn first true) rest true
    exact gives_pure.2 ⟨first :: rest, hleast, hmost, hfirst.trans hrest⟩

/-! ## Operations on surfaces -/

/-- whether an operation discards the path -/
def Op.discards : Op → Bool
  | .beginPath | .resize .. => true
  | _ => false

/-- what an operation makes of a path, and whether it fails -/
def Op.Makes (path next : Path) (fault : Option Fault) : Op → Prop
  | .beginPath => fault = none ∧ next = []
  | .moveTo x y | .lineTo x y => fault = none ∧ path.Grows [(x, y)] next
  | .closePath => fault = none ∧ path.Grows [] next
  | .arc .. =>
    fault = none ∧ (∃ more, 5 ≤ more.length ∧ more.length ≤ 721 ∧ path.Grows more next) ∨
      fault ≠ none ∧ next = path
  | .resize .. => next = []
  | _ => next = path

theorem withSheet_path (s : Surface) (x : Except Fault Sheet) : (s.withSheet x).1.path = s.path := by
  cases x <;> rfl

/-- only six operations touch the path; of these only three add points to it, and only two take any away, all of them -/
theorem apply_makes [Metrics] (s : Surface) (op : Op) : op.Makes s.path (s.apply op).1.path (s.apply op).2 := by
  cases op with
  | beginPath => exact ⟨rfl, rfl⟩
  | moveTo x y => exact ⟨rfl, s.path.grows_begins (x, y) false⟩
  | lineTo x y => exact ⟨rfl, s.path.grows_goesOn (x, y) false⟩
  | closePath => exact ⟨rfl, s.path.grows_close⟩
  | arc cx cy radius start stop anticlockwise =>
    simp only [apply]
    cases harc : s.path.arc cx cy radius start stop anticlockwise with
    | error fault => exact .inr ⟨Option.some_ne_none fault, rfl⟩
    | ok next => exact .inl ⟨rfl, s.path.grows_arc cx cy radius start stop anticlockwise next harc⟩
  | resize width height => exact withSheet_path _ _
  | clearRect | fillText => exact withSheet_path s _
  | restore =>
    simp only [apply]
    cases s.saved <;> exact rfl
  | fillRect | strokeRect | fill | stroke =>
    simp only [apply, fillRect, strokeRect, fillPath, strokePath]
    repeat' split
    all_goals first | exact rfl | exact withSheet_path s _
  | _ => exact rfl

section

variable {path next : Path} {fault : Option Fault} {op : Op}

/-- a path that is not discarded grows -/
theorem Op.Makes.grows (h : op.Makes path next fault) (hop : op.discards = false) : ∃ more, path.Grows more next := by
  cases op with
  | beginPath | resize => cases hop
  | moveTo x y | lineTo x y => exact ⟨_, h.2⟩
  | closePath => exact ⟨_, h.2⟩
  | arc =>
    rcases h with ⟨-, more, -, -, hgrows⟩ | ⟨-, hsame⟩
    · exact ⟨more, hgrows⟩
    · exact ⟨[], hsame ▸ Path.Grows.refl path⟩
  | _ =>
    obtain rfl : next = path := h
    exact ⟨[], Path.Grows.refl next⟩

theorem Op.Makes.drawn (h : op.Makes path next fault) (hpath : path.Drawn) : next.Drawn := by
  cases hop : op.discards with
  | false =>
    obtain ⟨more, hgrows⟩ := h.grows hop
    exact hpath.grows hgrows
  | true =>
    have hnil : next = [] := by
      cases op with
      | beginPath => exact h.2
      | resize => exact h
      | _ => cases hop
    rw [hnil]
    intro a ha
    cases ha

end

/-! ## Histories -/

theorem new_path {kind : Kind} {width height : Json} {s : Surface} (hs : new kind width height = .ok s) : s.path = [] := by
  obtain ⟨sheet, -, hs⟩ := bind_eq_ok_iff.1 hs
  cases hs
  rfl

section

variable [Metrics]

theorem after_drawn {s : Surface} (hs : s.path.Drawn) (ops : List Op) : (s.after ops).path.Drawn := by
  induction ops generalizing s with
  | nil => exact hs
  | cons op ops ih => exact ih ((apply_makes s op).drawn hs)

theorem after_grows (s : Surface) {ops : List Op} (hops : ∀ op ∈ ops, op.discards = false) :
    ∃ more, s.path.Grows more (s.after ops).path := by
  induction ops generalizing s with
  | nil => exact ⟨[], Path.Grows.refl s.path⟩
  | cons op ops ih =>
    obtain ⟨more, hmore⟩ := (apply_makes s op).grows (hops op List.mem_cons_self)
    obtain ⟨further, hfurther⟩ := ih (s.apply op).1 fun op' hop' => hops op' (List.mem_cons_of_mem op hop')
    exact ⟨more ++ further, hmore.trans hfurther⟩

/-- **Paths only grow.** After any operations on a new surface, failed ones included, every polyline of the path has a
point. The next operation begins the path anew, or adds its one point, or none, or those of an arc if that comes about; and
however many come next, as long as none discards the path, every polyline keeps its place and its points, and a closed one
gets no more. -/
theorem path_only_grows {kind : Kind} {width height : Json} {s : Surface} (hs : new kind width height = .ok s)
    (ops : List Op) :
    (∀ a ∈ (s.after ops).path, a.points ≠ []) ∧
      (∀ op : Op, op.Makes (s.after ops).path (s.after (ops ++ [op])).path ((s.after ops).apply op).2) ∧
      ∀ more : List Op, (∀ op ∈ more, op.discards = false) →
        ∃ added, (s.after ops).path.Grows added (s.after (ops ++ more)).path := by
  refine ⟨?_, ?_, ?_⟩
  · apply after_drawn
    rw [new_path hs]
    intro a ha
    cases ha
  · intro op
    rw [after_append]
    exact apply_makes (s.after ops) op
  · intro more hmore
    rw [after_append]
    exact after_grows (s.after ops) hmore

end

attribute [local instance] Metrics.halves

/-- a corner that is closed, an arc that no radius allows, and a line -/
def corner : List Op :=
  [.moveTo 1 2, .lineTo 3 2, .lineTo 3 4, .closePath, .arc 0 0 (.whole (-1)) 0 1 false, .lineTo 5 6]

/-- the closed polyline stays, the arc adds nothing, and the line begins anew -/
theorem corner_only_grows : ∃ s, new .vector (.int 10) (.int 10) = .ok s ∧
    (∀ op ∈ corner.drop 4, op.discards = false) ∧
    (s.after corner).path.map (·.points) = [[(1, 2), (3, 2), (3, 4)], [(5, 6)]] ∧
    (∃ added, (s.after (corner.take 4)).path.Grows added (s.after corner).path) ∧
    ∀ a ∈ (s.after corner).path, a.points ≠ [] := by
  have hnew : new .vector (.int 10) (.int 10) = .ok ⟨.int 10, .int 10, {}, [], [], .vector []⟩ := rfl
  refine ⟨_, hnew, by decide, rfl, ?_, ?_⟩
  · exact (path_only_grows hnew (corner.take 4)).2.2 (corner.drop 4) (by decide)
  · exact (path_only_grows hnew corner).1

end SketchPanel.Surface

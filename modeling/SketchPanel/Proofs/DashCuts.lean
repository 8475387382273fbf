/-
Dashes cut from a polyline. The cutting goes along the edges; between two cuts it stands either in a dash or in a gap, with
the points that the dash has so far, or with the last place passed in the gap. A cut ends a dash and never leaves it with
less than two points, and a corner goes into the dash that is being drawn when it is passed, or into none. So what stands
between the ends of the dashes, one after another, are corners of the polyline in its order. How often an edge is cut does not
come into this; a bound on that only tells when to give up, and an answer is the same under every bound that gives one.

Results:
- `Cut.Keeps`: what holds between cuts; `Cut.Rests`: what holds at the end of an edge.
- `Cut.Keeps.turn`, `Cut.Keeps.arrive`, `cutEdge_rests`: a cut, and an edge to its end.
- `cutEdges_rests`: all edges of a polyline, one after another.
- `dashesWithin_more`: a larger bound gives the same answer.
- `dashes_along_polyline`: length, start and corners of the dashes.
Witness:
- `bent_along_polyline`: a dash around a corner, and one behind the gap.
-/
import SketchPanel.Proofs.PathGrowth
import SketchPanel.Surface.Dash

namespace SketchPanel.Surface

open Number

/-- the points of a polyline between its ends -/
def corners (points : List Point) : List Point := points.tail.dropLast

/-! ## Between cuts -/

/-- what holds between cuts, after a polyline has been followed from its start to the last of the points `passed` -/
structure Cut.Keeps (start : Point) (passed : List Point) (cut : Cut) : Prop where
  /-- there is always a point to go on from -/
  current : cut.current ≠ []
  /-- a gap has no corners -/
  gap : cut.drawing = false → cut.current.tail = []
  /-- finished dashes have two points at least -/
  long : ∀ dash ∈ cut.dashes, 2 ≤ dash.length
  /-- as long as no dash is finished, the first one is being drawn from the start on -/
  fresh : cut.dashes = [] → cut.drawing = true ∧ cut.current.head? = some start
  /-- once it is finished it has that start -/
  first : ∀ dash ∈ cut.dashes.getLast?, dash.head? = some start
  /-- corners of finished dashes, and then what may become one, are points passed, in order -/
  corners : (cut.dashes.reverse.flatMap corners ++ cut.current.tail).Sublist passed

/-- what holds at the end of an edge: the point just passed is no corner of a dash yet -/
structure Cut.Rests (start : Point) (passed : List Point) (cut : Cut) : Prop extends Cut.Keeps start passed cut where
  inner : (cut.dashes.reverse.flatMap Surface.corners ++ Surface.corners cut.current).Sublist passed.dropLast

section

variable {start : Point} {passed : List Point} {cut : Cut}

/-- before the first edge -/
theorem rests_start (start : Point) (remaining : Scalar) :
    Cut.Rests start [] { current := [start], drawing := true, index := 0, remaining, dashes := [] } := by
  refine ⟨⟨List.cons_ne_nil _ _, nofun, ?_, fun _ => ⟨rfl, rfl⟩, ?_, List.Sublist.refl _⟩, List.Sublist.refl _⟩
  · intro dash hdash
    cases hdash
  · intro dash hdash
    cases hdash

theorem corners_snoc {points : List Point} (hne : points ≠ []) (p : Point) : corners (points ++ [p]) = points.tail := by
  rw [corners, List.tail_append_of_ne_nil hne, List.dropLast_concat]

/-- a cut that ends a dash -/
theorem Cut.Keeps.turn_dash (h : cut.Keeps start passed) (hdrawing : cut.drawing = true) (pattern : List Scalar)
    (p : Point) : (cut.turn pattern p).Keeps start passed := by
  have hlength : 0 < cut.current.length := List.length_pos_iff.2 h.current
  have hdashes : (cut.turn pattern p).dashes = (cut.current ++ [p]) :: cut.dashes := by rw [turn, hdrawing, if_pos rfl]
  refine ⟨List.cons_ne_nil _ _, fun _ => rfl, ?_, ?_, ?_, ?_⟩
  · rw [hdashes]
    intro dash hdash
    rcases List.mem_cons.1 hdash with rfl | hdash
    · rw [List.length_append, List.length_singleton]
      omega
    · exact h.long dash hdash
  · intro hnil
    rw [hdashes] at hnil
    cases hnil
  · rw [hdashes]
    intro dash hdash
    cases hrest : cut.dashes with
    | nil =>
      -- the first cut of all ends the dash that began at the start
      rw [hrest] at hdash
      obtain rfl : cut.current ++ [p] = dash := Option.some.inj hdash
      rw [List.head?_append_of_ne_nil _ h.current]
      exact (h.fresh hrest).2
    | cons last others =>
      rw [hrest, List.getLast?_cons_cons, ← hrest] at hdash
      exact h.first dash hdash
  · have hcorners := h.corners
    rw [hdashes, List.reverse_cons, List.flatMap_append, List.flatMap_singleton, corners_snoc h.current]
    simpa [turn] using hcorners

/-- a cut that ends a gap -/
theorem Cut.Keeps.turn_gap (h : cut.Keeps start passed) (hdrawing : cut.drawing = false) (pattern : List Scalar)
    (p : Point) : (cut.turn pattern p).Keeps start passed := by
  have hdashes : (cut.turn pattern p).dashes = cut.dashes := by
    rw [turn, hdrawing, if_neg Bool.false_ne_true]
  refine ⟨List.cons_ne_nil _ _, fun _ => rfl, ?_, ?_, ?_, ?_⟩
  · rw [hdashes]
    exact h.long
  · intro hnil
    rw [hdashes] at hnil
    cases hdrawing.symm.trans (h.fresh hnil).1
  · rw [hdashes]
    exact h.first
  · have hcorners := h.corners
    rw [h.gap hdrawing] at hcorners
    rw [hdashes]
    exact hcorners

/-- a cut -/
theorem Cut.Keeps.turn (h : cut.Keeps start passed) (pattern : List Scalar) (p : Point) :
    (cut.turn pattern p).Keeps start passed := by
  cases hdrawing : cut.drawing with
  | true => exact h.turn_dash hdrawing pattern p
  | false => exact h.turn_gap hdrawing pattern p

/-- the end of an edge, which goes into the dash if one is being drawn -/
theorem Cut.Keeps.arrive (h : cut.Keeps start passed) (stop : Point) (remaining : Scalar) :
    Cut.Rests start (passed ++ [stop])
      { cut with remaining, current := if cut.drawing then cut.current ++ [stop] else [stop] } := by
  cases hdrawing : cut.drawing with
  | true =>
    rw [if_pos rfl]
    refine ⟨⟨by simp, nofun, h.long, ?_, h.first, ?_⟩, ?_⟩
    · intro hnil
      refine ⟨rfl, ?_⟩
      rw [List.head?_append_of_ne_nil _ h.current]
      exact (h.fresh hnil).2
    · rw [List.tail_append_of_ne_nil h.current, ← List.append_assoc]
      exact h.corners.append (List.Sublist.refl [stop])
    · rw [corners_snoc h.current, List.dropLast_concat]
      exact h.corners
  | false =>
    rw [if_neg Bool.false_ne_true]
    have hcorners := h.corners
    rw [h.gap hdrawing] at hcorners
    refine ⟨⟨by simp, fun _ => rfl, h.long, ?_, h.first, ?_⟩, ?_⟩
    · intro hnil
      cases hdrawing.symm.trans (h.fresh hnil).1
    · exact hcorners.trans (List.sublist_append_left passed [stop])
    · rw [List.dropLast_concat]
      exact hcorners

/-! ## Along the edges -/

theorem cutEdge_rests (pattern : List Scalar) (e : Edge) (count : Nat) (travelled : Float) (h : cut.Keeps start passed) :
    Gives (Cut.Rests start (passed ++ [e.stop])) (cutEdge pattern e count travelled cut) := by
  induction count generalizing travelled cut with
  | zero => exact gives_error
  | succ count ih =>
    rw [cutEdge]
    by_cases hcut : cut.remaining.lt (.real (e.length - travelled)) = true
    · rw [if_pos hcut]
      refine gives_bind fun remaining => gives_bind fun p => ?_
      exact ih _ (h.turn pattern p)
    · rw [if_neg hcut]
      refine gives_bind fun remaining => ?_
      exact gives_pure.2 (h.arrive e.stop _)

/-- the stop of an edge is its second point -/
theorem edge_stop (p q : Point) : Gives (fun e => e.stop = q) (edge p q) := by
  unfold edge
  refine gives_bind fun dx => gives_bind fun width => gives_bind fun dy => gives_bind fun height => ?_
  exact gives_pure.2 rfl

/-- what holds at the end of one edge holds at the end of the last -/
theorem cutEdges_rests (most : Nat) (pattern : List Scalar) (points : List Point) (h : cut.Rests start passed) :
    Gives (Cut.Rests start (passed ++ points.tail)) (cutEdges most pattern points cut) := by
  induction points generalizing passed cut with
  | nil =>
    rw [List.tail_nil, List.append_nil]
    exact gives_ok.2 h
  | cons p points ih =>
    cases points with
    | nil =>
      rw [List.tail_cons, List.append_nil]
      exact gives_ok.2 h
    | cons q rest =>
      rw [cutEdges]
      refine (gives_reckon (edge_stop p q)).bind fun e he => ?_
      refine (cutEdge_rests pattern e most 0.0 h.toKeeps).bind fun cut hcut => ?_
      rw [he] at hcut
      have hrest := ih hcut
      rwa [List.append_assoc] at hrest

end

/-! ## Bounds on the cuts -/

/-- an edge that is cut to its end is cut in the same way if more cuts are allowed -/
theorem cutEdge_more {pattern : List Scalar} {e : Edge} {count more : Nat} (hmore : count ≤ more) {travelled : Float}
    {cut done : Cut} (h : cutEdge pattern e count travelled cut = .ok done) :
    cutEdge pattern e more travelled cut = .ok done := by
  induction count generalizing more travelled cut with
  | zero => cases h
  | succ count ih =>
    obtain ⟨more, rfl⟩ : ∃ rest, more = rest + 1 := ⟨more - 1, by omega⟩
    rw [cutEdge] at h ⊢
    by_cases hcut : cut.remaining.lt (.real (e.length - travelled)) = true
    · rw [if_pos hcut] at h ⊢
      obtain ⟨remaining, hremaining, h⟩ := bind_eq_ok_iff.1 h
      obtain ⟨p, hp, h⟩ := bind_eq_ok_iff.1 h
      exact bind_eq_ok_iff.2 ⟨remaining, hremaining, bind_eq_ok_iff.2 ⟨p, hp, ih (by omega) h⟩⟩
    · rw [if_neg hcut] at h ⊢
      exact h

theorem cutEdges_more {pattern : List Scalar} {most more : Nat} (hmore : most ≤ more) {points : List Point}
    {cut done : Cut} (h : cutEdges most pattern points cut = .ok done) :
    cutEdges more pattern points cut = .ok done := by
  induction points generalizing cut with
  | nil => exact h
  | cons p points ih =>
    cases points with
    | nil => exact h
    | cons q rest =>
      rw [cutEdges] at h ⊢
      obtain ⟨e, he, h⟩ := bind_eq_ok_iff.1 h
      obtain ⟨next, hnext, h⟩ := bind_eq_ok_iff.1 h
      exact bind_eq_ok_iff.2 ⟨e, he, bind_eq_ok_iff.2 ⟨next, cutEdge_more hmore hnext, ih h⟩⟩

/-- dashes that are found with few cuts are found if more are allowed -/
theorem dashesWithin_more {most more : Nat} (hmore : most ≤ more) {points : List Point} {pattern : List Scalar}
    {found : List (List Point)} (h : dashesWithin most points pattern = .ok found) :
    dashesWithin more points pattern = .ok found := by
  unfold dashesWithin at h ⊢
  obtain ⟨total, htotal, h⟩ := bind_eq_ok_iff.1 h
  refine bind_eq_ok_iff.2 ⟨total, htotal, ?_⟩
  by_cases hidle : (pattern.isEmpty || total.le 0) = true
  · rw [if_pos hidle] at h ⊢
    exact h
  · rw [if_neg hidle] at h ⊢
    obtain ⟨cut, hcut, h⟩ := bind_eq_ok_iff.1 h
    exact bind_eq_ok_iff.2 ⟨cut, cutEdges_more hmore hcut, h⟩

/-! ## Dashes -/

section

variable {start : Point} {passed : List Point} {cut : Cut}

theorem Cut.Rests.two_points (h : cut.Rests start passed) : ∀ dash ∈ cut.drawn, 2 ≤ dash.length := by
  intro dash hdash
  rcases List.mem_append.1 hdash with hdone | hlast
  · exact h.long dash (List.mem_reverse.1 hdone)
  · split_ifs at hlast with hdrawn
    · rw [List.mem_singleton.1 hlast]
      simp only [Bool.and_eq_true, decide_eq_true_eq] at hdrawn
      exact hdrawn.2
    · cases hlast

theorem Cut.Rests.starts (h : cut.Rests start passed) : ∀ dash ∈ cut.drawn.head?, dash.head? = some start := by
  intro dash hdash
  cases hdashes : cut.dashes with
  | nil =>
    rw [drawn, hdashes, List.reverse_nil, List.nil_append] at hdash
    split_ifs at hdash
    · obtain rfl : cut.current = dash := Option.some.inj hdash
      exact (h.fresh hdashes).2
    · cases hdash
  | cons last others =>
    have hne : cut.dashes.reverse ≠ [] := by simp [hdashes]
    rw [drawn, List.head?_append_of_ne_nil _ hne, List.head?_reverse] at hdash
    exact h.first dash hdash

theorem Cut.Rests.corners_drawn (h : cut.Rests start passed) :
    (cut.drawn.flatMap Surface.corners).Sublist passed.dropLast := by
  rw [drawn, List.flatMap_append]
  split_ifs
  · rw [List.flatMap_singleton]
    exact h.inner
  · rw [List.flatMap_nil, List.append_nil]
    exact (List.sublist_append_left _ _).trans h.inner

end

/-- **Dashes.** However often edges may be cut: if a polyline comes apart into dashes, by a pattern whose lengths do not add
up to nought or less, then every dash has two points at least, the first one has the start of the polyline, and the points
between the ends of the dashes, one dash after another, are corners of the polyline in its order, each at most once. -/
theorem dashes_along_polyline {most : Nat} {points : List Point} {pattern : List Scalar} {total : Scalar}
    {found : List (List Point)} (htotal : pattern.foldlM Scalar.add 0 = .ok total) (hpositive : total.le 0 = false)
    (hfound : dashesWithin most points pattern = .ok found) :
    (∀ dash ∈ found, 2 ≤ dash.length) ∧ (∀ dash ∈ found.head?, dash.head? = points.head?) ∧
      (found.flatMap corners).Sublist (corners points) := by
  have hactive : ¬ (pattern.isEmpty || total.le 0) = true := by
    cases pattern with
    | nil =>
      cases htotal
      cases hpositive
    | cons length lengths => simp [hpositive]
  unfold dashesWithin at hfound
  obtain ⟨sum, hsum, hfound⟩ := bind_eq_ok_iff.1 hfound
  rw [htotal] at hsum
  cases hsum
  rw [if_neg hactive] at hfound
  obtain ⟨cut, hcut, hfound⟩ := bind_eq_ok_iff.1 hfound
  obtain rfl : cut.drawn = found := Except.ok.inj hfound
  cases points with
  | nil =>
    cases hcut
    exact ⟨nofun, nofun, List.Sublist.refl []⟩
  | cons start rest =>
    have hrests := cutEdges_rests most _ (start :: rest) (rests_start start _) cut hcut
    exact ⟨hrests.two_points, hrests.starts, hrests.corners_drawn⟩

/-- two edges with a corner between them -/
def bent : List Point := [(0, 0), (3, 0), (3, 4)]

/-- a dash goes around the corner, and another one starts behind the gap -/
theorem bent_along_polyline : ([4, 1] : List Scalar).foldlM Scalar.add 0 = .ok 5 ∧ Scalar.le 5 0 = false ∧
    ∃ found, dashes bent [4, 1] = .ok found ∧ found.map List.length = [3, 2] ∧ (∀ dash ∈ found, 2 ≤ dash.length) ∧
      (∀ dash ∈ found.head?, dash.head? = some (0, 0)) ∧ (found.flatMap corners).Sublist [(3, 0)] := by
  have hlengths : (dashes bent [4, 1]).toOption.map (·.map List.length) = some [3, 2] := by decide +kernel
  obtain ⟨found, hsome, hmap⟩ := Option.map_eq_some_iff.1 hlengths
  have hfound : dashes bent [4, 1] = .ok found := by
    cases hdashes : dashes bent [4, 1] with
    | error fault =>
      rw [hdashes] at hsome
      cases hsome
    | ok dashes =>
      rw [hdashes] at hsome
      cases hsome
      rfl
  exact ⟨rfl, rfl, found, hfound, hmap, dashes_along_polyline rfl rfl hfound⟩

end SketchPanel.Surface

/-
Zones that share points. A zone holds the whole points between its edges, edges included, so one with a negative extent
holds none. The tests for overlapping ask only whether an edge of one zone lies beyond the far edge of the other. Of zones
that hold a point this tells whether they share one; but where an extent is negative the edges can pass the test and there
is no point to share.

Results:
- `extends_iff`: a zone holds a point exactly if neither extent is negative.
- `overlaps_iff`, `overlaps_comm`: the test on edges, and its symmetry.
- `meets_iff`: two zones share a point exactly if the test says so and each holds one.
- `inArea_whole`: the zones of an area are those that pass the test with it.
- `common_points`: what both tests say about common points, for every two zones and every list of zones.
Counterexample:
- `inverted_overlaps`: a zone made by a touch test, without any point, and yet in an area and overlapping a zone.
-/
import Mathlib.Tactic
import SketchPanel.Proofs.TouchCondition

namespace SketchPanel.Zone

open SketchPanel.Number

/-! ## Points of a zone -/

/-- whether a zone holds a whole point -/
def Holds (z : Zone) (x y : Int) : Prop := z.contains (.whole x) (.whole y) = true

/-- whether neither extent of a zone is negative -/
def Extends (z : Zone) : Prop := 0 ≤ z.width ∧ 0 ≤ z.height

instance (z : Zone) : Decidable z.Extends := inferInstanceAs (Decidable (_ ∧ _))

/-- whether two zones share a whole point -/
def Meets (a b : Zone) : Prop := ∃ x y : Int, a.Holds x y ∧ b.Holds x y

/-- the closed rectangle with this corner and these extents, as a zone -/
def area (x y width height : Int) : Zone := { id := "", x, y, width, height }

theorem holds_iff {z : Zone} {x y : Int} : z.Holds x y ↔ z.x ≤ x ∧ x ≤ z.x2 ∧ z.y ≤ y ∧ y ≤ z.y2 :=
  Sketch.contains_iff z x y

theorem holds_area {x y width height px py : Int} :
    (area x y width height).Holds px py ↔ x ≤ px ∧ px ≤ x + width ∧ y ≤ py ∧ py ≤ y + height := holds_iff

/-- a zone without negative extents holds its corner, and no other zone holds any point -/
theorem extends_iff {z : Zone} : z.Extends ↔ ∃ x y : Int, z.Holds x y := by
  simp only [holds_iff, Extends, x2, y2]
  constructor
  · rintro ⟨hwidth, hheight⟩
    exact ⟨z.x, z.y, by omega⟩
  · rintro ⟨x, y, hx, hx2, hy, hy2⟩
    omega

/-! ## The tests -/

section Tests

variable {a b : Zone}

theorem overlaps_iff : a.overlaps b = true ↔ a.x ≤ b.x2 ∧ b.x ≤ a.x2 ∧ a.y ≤ b.y2 ∧ b.y ≤ a.y2 := by
  simp only [overlaps, Bool.not_eq_true', Bool.or_eq_false_iff, decide_eq_false_iff_not]
  omega

theorem overlaps_comm (a b : Zone) : a.overlaps b = b.overlaps a := by
  rw [Bool.eq_iff_iff, overlaps_iff, overlaps_iff]
  omega

/-- zones that share a point pass the test, and of zones that hold points those that pass it share one -/
theorem meets_iff : a.Meets b ↔ a.overlaps b = true ∧ a.Extends ∧ b.Extends := by
  rw [overlaps_iff]
  constructor
  · rintro ⟨x, y, ha, hb⟩
    refine ⟨?_, extends_iff.2 ⟨x, y, ha⟩, extends_iff.2 ⟨x, y, hb⟩⟩
    rw [holds_iff] at ha hb
    omega
  · rintro ⟨⟨hab, hba, hab', hba'⟩, ⟨hwa, hha⟩, hwb, hhb⟩
    -- the nearer corner edges of the two meet in a common point
    refine ⟨max a.x b.x, max a.y b.y, holds_iff.2 ?_, holds_iff.2 ?_⟩ <;> simp only [x2, y2] at * <;> omega

instance : Decidable (a.Meets b) := decidable_of_iff _ meets_iff.symm

end Tests

/-! ## Areas -/

/-- a filter whose test always answers keeps what passes, in order -/
theorem filterAuxM_ok {ε α : Type} {test : α → Except ε Bool} (passes : α → Bool) (h : ∀ a, test a = .ok (passes a))
    (list kept : List α) : list.filterAuxM test kept = .ok ((list.filter passes).reverse ++ kept) := by
  induction list generalizing kept with
  | nil => rfl
  | cons a list ih =>
    have hstep : (a :: list).filterAuxM test kept = list.filterAuxM test (cond (passes a) (a :: kept) kept) := by
      rw [List.filterAuxM, h]
      rfl
    rw [hstep, ih]
    cases ha : passes a <;> simp [ha]

/-- the zones in an area are those that pass the test with it, in the order of the list; on whole numbers nothing fails -/
theorem inArea_whole (x y width height : Int) (zones : List Zone) :
    inArea (.whole x) (.whole y) (.whole width) (.whole height) zones =
      .ok (zones.filter (·.overlaps (area x y width height))) := by
  have hadd : ∀ m n : Int, (Scalar.whole m).add (.whole n) = .ok (.whole (m + n)) := fun _ _ => rfl
  rw [inArea, List.filterM, filterAuxM_ok (·.overlaps (area x y width height))]
  · simp [bind, Except.bind, pure, Except.pure]
  · intro z
    simp only [hadd, bind, Except.bind, pure, Except.pure, Scalar.lt_whole, overlaps, area, x2, y2]
    -- once an edge lies beyond, the other edges are not looked at
    by_cases hright : x + width < z.x
    · simp [hright]
    · by_cases hleft : z.x + z.width < x
      · simp [hright, hleft]
      · simp only [hright, hleft, gt_iff_lt, decide_false, Bool.false_or]
        rfl

/-- **Common points.** Two zones share a whole point exactly if they pass the test for overlapping and neither has a
negative extent, and the test does not depend on their order. The zones found in a closed rectangle are those that pass
the test with it, in the order of the list; the ones that share a point with it are those of them without negative
extents, and none if the rectangle has a negative extent itself. -/
theorem common_points (a b : Zone) :
    (a.Meets b ↔ a.overlaps b = true ∧ a.Extends ∧ b.Extends) ∧
      a.overlaps b = b.overlaps a ∧
      ∀ (x y width height : Int) (zones : List Zone),
        let found := zones.filter (·.overlaps (area x y width height))
        (∀ px py : Int, (area x y width height).Holds px py ↔
            x ≤ px ∧ px ≤ x + width ∧ y ≤ py ∧ py ≤ y + height) ∧
          inArea (.whole x) (.whole y) (.whole width) (.whole height) zones = .ok found ∧
          zones.filter (·.Meets (area x y width height)) =
            if 0 ≤ width ∧ 0 ≤ height then found.filter (·.Extends) else [] := by
  refine ⟨meets_iff, overlaps_comm a b, fun x y width height zones =>
    ⟨fun px py => holds_area, inArea_whole x y width height zones, ?_⟩⟩
  split_ifs with harea
  · have hextends : (area x y width height).Extends := harea
    rw [List.filter_filter]
    refine List.filter_congr fun z _ => ?_
    rw [Bool.eq_iff_iff, Bool.and_eq_true, decide_eq_true_iff, decide_eq_true_iff, meets_iff]
    tauto
  · refine List.filter_eq_nil_iff.2 fun z _ hmeets => harea ?_
    exact (meets_iff.1 (of_decide_eq_true hmeets)).2.2

/-- a zone from 9 back to 5 sideways -/
def inverted : Zone := { id := "touch_0", x := 9, y := 0, width := -4, height := 9 }

/-- a zone over the corner of the panel -/
def corner : Zone := { id := "touch_1", x := 0, y := 0, width := 20, height := 20 }

/-- **A zone without points.** A touch test whose bounds are the wrong way round makes a zone that no point is in, and yet
it overlaps another and lies in an area. -/
theorem inverted_overlaps :
    Sketch.zoneOf Sketch.usual "if (x >= 9 && x <= 5 && y >= 0 && y <= 9)".toList 0 [] = .ok (some inverted) ∧
      ¬ (∃ x y : Int, inverted.Holds x y) ∧ ¬ inverted.Meets corner ∧ inverted.overlaps corner = true ∧
      inArea 0 0 20 20 [inverted, corner] = .ok [inverted, corner] := by
  refine ⟨by rfl, ?_, by decide, by decide, by rfl⟩
  rw [← extends_iff]
  decide

end SketchPanel.Zone

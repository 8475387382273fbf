/-
How far touch tests see. The place of a zone is read off the line of its test. Its action is the first assignment behind
the test or on the lines after it, as many as are looked at, and these go on behind the end of the body. So two sketches
with the same lines in a body have the same zones there, but for the actions of tests that find nothing before the body
ends.

Results:
- `actionOf_seen`: an action is the first assignment among the lines that are seen.
- `seenBefore_same`: what is seen inside a body depends on the body alone.
- `contents_sameTests`: the zones of the same lines in two sketches.
- `zones_of_same_body`: the zones of a screen in two sketches with the same body.
Witness and counterexample:
- `zones_of_pad`: an action inside the body and one behind its end.
- `zones_beyond_body`: the zone at the end of a body takes its action from behind it.
-/
import Mathlib.Tactic
import SketchPanel.Proofs.ScreenOrder

namespace SketchPanel.Sketch

open SketchPanel.Text SketchPanel.Number SketchPanel.Scene

variable {o : Options}

/-! ## Lines that are seen -/

/-- how many of so many lines after the one at an index are looked at for an action -/
def reach (o : Options) (index : Int) (remaining : Nat) : Except Fault Nat :=
  (window o index (List.replicate remaining [])).map List.length

/-- what is looked at depends on the lines only by their number -/
theorem window_eq (o : Options) (index : Int) (following : List Line) :
    window o index following = (reach o index following.length).map following.take := by
  unfold reach window
  split
  · simp [Except.map]
  · rw [List.length_replicate]
    split <;> simp [Except.map]
  · rfl

/-- the lines that a touch test on the line at an index looks at after its own, without their margins -/
def seen (o : Options) (lines : List Line) (index : Nat) : List Line :=
  ((window o index (lines.drop (index + 1))).toOption.getD []).map trim

/-- those of them that come before the line at `stop` -/
def seenBefore (o : Options) (lines : List Line) (stop index : Nat) : List Line :=
  (seen o lines index).take (stop - (index + 1))

/-- those of them from the line at `stop` on -/
def seenBeyond (o : Options) (lines : List Line) (stop index : Nat) : List Line :=
  (seen o lines index).drop (stop - (index + 1))

theorem seen_eq (o : Options) (lines : List Line) (index : Nat) :
    seen o lines index = (((lines.drop (index + 1)).take
      ((reach o index (lines.length - (index + 1))).toOption.getD 0))).map trim := by
  rw [seen, window_eq, List.length_drop]
  cases reach o index (lines.length - (index + 1)) <;> simp [Except.map, Except.toOption]

theorem seen_split (o : Options) (lines : List Line) (stop index : Nat) :
    seen o lines index = seenBefore o lines stop index ++ seenBeyond o lines stop index :=
  (List.take_append_drop _ _).symm

/-! ## Actions -/

/-- the action that the value of an assignment gives, or else the usual one -/
def chosen (value : Option Line) : String := (value.map String.ofList).getD "touch"

theorem assigned?_append (lines more : List Line) :
    assigned? (lines ++ more) = (assigned? lines).or (assigned? more) := by
  rw [assigned?, List.findSome?_append, Option.map_or]
  rfl

/-- an action is the first assignment behind the test or on the lines that are seen -/
theorem actionOf_seen {rest : Line} {lines : List Line} {index : Nat} {action : String}
    (h : actionOf o rest index (lines.drop (index + 1)) = .ok action) :
    action = chosen (assigned? (rest :: seen o lines index)) := by
  rw [← List.singleton_append, assigned?_append]
  unfold actionOf at h
  split at h
  · rename_i value hvalue
    rw [hvalue]
    exact (Except.ok.inj h).symm
  · rename_i hnone
    obtain ⟨following, hwindow, h⟩ := bind_eq_ok_iff.1 h
    rw [hnone, Option.none_or, seen, hwindow]
    exact (Except.ok.inj h).symm

/-- lines that begin alike give the same action exactly if they do so where they are alike, or what follows gives the same -/
theorem chosen_eq_iff (before beyond beyond' : List Line) :
    chosen (assigned? (before ++ beyond)) = chosen (assigned? (before ++ beyond')) ↔
      (assigned? before).isSome = true ∨ chosen (assigned? beyond) = chosen (assigned? beyond') := by
  rw [assigned?_append, assigned?_append]
  cases assigned? before <;> simp

/-! ## Two sketches with lines in common -/

/-- whether two sketches have the same lines from one index up to but not including another -/
def SameLines (lines other : List Line) (first stop : Nat) : Prop :=
  (lines.drop first).take (stop - first) = (other.drop first).take (stop - first)

instance (lines other : List Line) (first stop : Nat) : Decidable (SameLines lines other first stop) :=
  inferInstanceAs (Decidable (_ = _))

section Two

variable {lines other : List Line} {index stop : Nat}

theorem SameLines.later (h : SameLines lines other index stop) {first : Nat} (hfirst : index ≤ first) :
    SameLines lines other first stop := by
  have hdrop := congrArg (List.drop (first - index)) h
  rw [List.drop_take, List.drop_take, List.drop_drop, List.drop_drop] at hdrop
  rw [SameLines]
  convert hdrop using 2 <;> first | omega | (congr 1; omega)

/-- before the stop the two go on with the same line -/
theorem SameLines.head (h : SameLines lines other index stop) (hstop : index < stop) {line : Line}
    {following : List Line} (hdrop : lines.drop index = line :: following) :
    ∃ following', other.drop index = line :: following' := by
  rw [SameLines, hdrop, show stop - index = stop - index - 1 + 1 by omega, List.take_succ_cons] at h
  cases hother : other.drop index with
  | nil => rw [hother] at h; cases h
  | cons line' following' =>
    rw [hother, List.take_succ_cons] at h
    exact ⟨following', by rw [(List.cons.inj h).1]⟩

/-- what is seen before the stop is the same in both -/
theorem seenBefore_same (o : Options) (h : SameLines lines other (index + 1) stop)
    (hlength : lines.length = other.length) : seenBefore o lines stop index = seenBefore o other stop index := by
  have hseen : ∀ lines : List Line, seenBefore o lines stop index =
      ((((lines.drop (index + 1)).take (stop - (index + 1))).take
        ((reach o index (lines.length - (index + 1))).toOption.getD 0))).map trim := by
    intro lines
    rw [seenBefore, seen_eq, ← List.map_take, List.take_take, List.take_take, min_comm]
  rw [hseen, hseen, h, hlength]

/-! ## Zones -/

/-- whether two zones are those of the same touch test on a line from `first` up to but not including `stop`, each in one of
two sketches: the same but for their actions, and these the same exactly if one is assigned behind the test or on the lines
seen before `stop`, or else what is seen from `stop` on gives the same -/
def SameTest (o : Options) (lines other : List Line) (first stop : Nat) (z z' : Zone) : Prop :=
  ∃ index line bounds rest, first ≤ index ∧ index < stop ∧ lines[index]? = some line ∧
    touchTest? (trim line) = .ok (some (bounds, rest)) ∧ z.id = "touch_" ++ toString index ∧
    z' = { z with action := z'.action } ∧
    (z.action = z'.action ↔ (assigned? (rest :: seenBefore o lines stop index)).isSome = true ∨
      chosen (assigned? (seenBeyond o lines stop index)) = chosen (assigned? (seenBeyond o other stop index)))

theorem SameTest.widen {first first' : Nat} {z z' : Zone} (h : SameTest o lines other first stop z z')
    (hle : first' ≤ first) : SameTest o lines other first' stop z z' := by
  obtain ⟨index, line, bounds, rest, hfirst, hzone⟩ := h
  exact ⟨index, line, bounds, rest, hle.trans hfirst, hzone⟩

/-- where what is seen beyond is the same too, so are the zones -/
theorem SameTest.eq {first : Nat} {z z' : Zone} (h : SameTest o lines other first stop z z')
    (hbeyond : ∀ index < stop, seenBeyond o lines stop index = seenBeyond o other stop index) : z = z' := by
  obtain ⟨index, _, _, _, _, hstop, _, _, _, hz, haction⟩ := h
  have hsame := haction.2 (Or.inr (by rw [hbeyond index hstop]))
  rw [hz, ← hsame]

/-- the zone of a line is that of its touch test, with the action that is found -/
theorem zoneOf_inversion {line : Line} {following : List Line} {zone : Option Zone}
    (h : zoneOf o line index following = .ok zone) :
    touchTest? line = .ok none ∧ zone = none ∨
      ∃ bounds rest action, touchTest? line = .ok (some (bounds, rest)) ∧
        actionOf o rest index following = .ok action ∧ zone = some {
          id := "touch_" ++ toString index, x := bounds.x1, y := bounds.y1, width := bounds.x2 - bounds.x1
          height := bounds.y2 - bounds.y1, action } := by
  obtain ⟨found, htest, h⟩ := bind_eq_ok_iff.1 h
  cases htouch : touchTest? line with
  | error fault => rw [htouch] at htest; cases htest
  | ok test =>
    rw [htouch] at htest
    obtain rfl : test = found := Except.ok.inj htest
    cases test with
    | none => exact Or.inl ⟨rfl, (Except.ok.inj h).symm⟩
    | some test =>
      obtain ⟨action, haction, h⟩ := bind_eq_ok_iff.1 h
      exact Or.inr ⟨test.1, test.2, action, rfl, haction, (Except.ok.inj h).symm⟩

/-- the same line in two sketches is a touch test in both or in neither -/
theorem zoneTested_same (hlength : lines.length = other.length) (hsame : SameLines lines other index stop)
    (hstop : index < stop) {line : Line} {zone zone' : Option Zone} (hline : lines[index]? = some line)
    (h : zoneTested o line index (lines.drop (index + 1)) = .ok zone)
    (h' : zoneTested o line index (other.drop (index + 1)) = .ok zone') :
    List.Forall₂ (SameTest o lines other index stop) zone.toList zone'.toList := by
  unfold zoneTested at h h'
  split at h
  · rename_i hmaybe
    rw [if_pos hmaybe] at h'
    rcases zoneOf_inversion h with ⟨htest, rfl⟩ | ⟨bounds, rest, action, htest, haction, rfl⟩
    · rcases zoneOf_inversion h' with ⟨-, rfl⟩ | ⟨_, _, _, htest', -⟩
      · exact .nil
      · rw [htest] at htest'
        cases htest'
    · rcases zoneOf_inversion h' with ⟨htest', -⟩ | ⟨bounds', rest', action', htest', haction', rfl⟩
      · rw [htest] at htest'
        cases htest'
      · rw [htest] at htest'
        cases htest'
        refine .cons ⟨index, line, bounds, rest, le_rfl, hstop, hline, htest, rfl, rfl, ?_⟩ .nil
        have hbefore := seenBefore_same o (hsame.later (Nat.le_succ index)) hlength
        have hsplit := fun lines => seen_split o lines stop index
        rw [actionOf_seen haction, actionOf_seen haction', hsplit, hsplit, ← hbefore, ← List.cons_append,
          ← List.cons_append]
        exact chosen_eq_iff _ _ _
  · rename_i hmaybe
    rw [if_neg hmaybe] at h'
    cases h
    cases h'
    exact .nil

/-- the zones of the same lines in two sketches -/
theorem contents_sameTests (hlength : lines.length = other.length) {count : Nat} (hsame : SameLines lines other index stop)
    (hcount : count = stop - index) {number number' : Int} {inside inside' : List Element × List Zone}
    (h : (contents o count index (lines.drop index) number).result = .ok inside)
    (h' : (contents o count index (other.drop index) number').result = .ok inside') :
    List.Forall₂ (SameTest o lines other index stop) inside.2 inside'.2 := by
  induction count generalizing index number number' inside inside' with
  | zero =>
    cases h
    cases h'
    exact .nil
  | succ count ih =>
    have hnext : ∀ {lines following : List Line} {line : Line}, lines.drop index = line :: following →
        lines.drop (index + 1) = following := by
      intro lines following line hdrop
      rw [← List.drop_drop, hdrop]
      rfl
    cases hdrop : lines.drop index with
    | nil =>
      have hother : other.drop index = [] := by
        rw [List.drop_eq_nil_iff] at hdrop ⊢
        omega
      rw [hdrop] at h
      rw [hother] at h'
      cases h
      cases h'
      exact .nil
    | cons line following =>
      obtain ⟨following', hdrop'⟩ := hsame.head (by omega) hdrop
      have hline : lines[index]? = some line := by
        rw [← List.head?_drop, hdrop, List.head?_cons]
      rw [hdrop] at h
      rw [hdrop'] at h'
      obtain ⟨found, elements, zone, others, -, -, hzone, hothers, rfl⟩ := contents_cons h
      obtain ⟨found', elements', zone', others', -, -, hzone', hothers', rfl⟩ := contents_cons h'
      rw [← hnext hdrop] at hzone hothers
      rw [← hnext hdrop'] at hzone' hothers'
      have hrest := ih (hsame.later (Nat.le_succ index)) (by omega) hothers hothers'
      exact List.rel_append (zoneTested_same hlength hsame (by omega) hline hzone hzone')
        (hrest.imp fun z z' hz => hz.widen (Nat.le_succ index))

end Two

/-! ## Screens -/

/-- **Zones of a body.** In two sketches without errors and with the same number of lines, let a function that draws have a
body with the same place and the same lines. Then its screens have the same zones, one for one, but for actions; and the
action of a zone is the same exactly if one is assigned behind the test or on the lines seen inside the body, or else the
lines seen behind the end of the body give the same. If these are the same lines, so are the zones. -/
theorem zones_of_same_body (o : Options) (source other : String)
    (hlength : (lines source.toList).length = (lines other.toList).length)
    (hread : (extract o source).1.hasErrors = false) (hread' : (extract o other).1.hasErrors = false)
    (draws draws' : List Function) (hd : drawFunctions o (functionsOf (lines source.toList)) = .ok draws)
    (hd' : drawFunctions o (functionsOf (lines other.toList)) = .ok draws') (f f' : Function) (hf : f ∈ draws)
    (hf' : f' ∈ draws') (hname : f'.name = f.name)
    (hbody : drawnBody (lines other.toList) f' = drawnBody (lines source.toList) f)
    (hsame : SameLines (lines source.toList) (lines other.toList) (drawnBody (lines source.toList) f).first
      (drawnBody (lines source.toList) f).stop) :
    let b := drawnBody (lines source.toList) f
    ∃ screen screen', (extract o source).1.screen? f.name = some screen ∧
      (extract o other).1.screen? f.name = some screen' ∧
      List.Forall₂ (SameTest o (lines source.toList) (lines other.toList) b.first b.stop) screen.zones screen'.zones ∧
      ((∀ index < b.stop, seenBeyond o (lines source.toList) b.stop index = seenBeyond o (lines other.toList) b.stop index) →
        screen.zones = screen'.zones) := by
  intro b
  obtain ⟨screen, hs, hid, hfound⟩ := screen_of_draws hread hd hf
  obtain ⟨screen', hs', hid', hfound'⟩ := screen_of_draws hread' hd' hf'
  obtain ⟨number, inside, hinside, hscreen⟩ := screen_built hd hf hs hid
  obtain ⟨number', inside', hinside', hscreen'⟩ := screen_built hd' hf' hs' hid'
  unfold bodyContents at hinside hinside'
  rw [hbody] at hinside'
  have htests : List.Forall₂ (SameTest o (lines source.toList) (lines other.toList) b.first b.stop) screen.zones
      screen'.zones := by
    rw [hscreen, hscreen']
    exact contents_sameTests hlength hsame rfl (Traced.map_eq_ok_iff.1 hinside) (Traced.map_eq_ok_iff.1 hinside')
  refine ⟨screen, screen', hfound, hname ▸ hfound', htests, fun hbeyond => ?_⟩
  rw [← List.forall₂_eq_eq_eq]
  exact htests.imp fun z z' hz => hz.eq hbeyond

/-- a pad with two zones, the second at the end of its body, and a function that calls another -/
def padAlone : String :=
  "void drawPad() \x7b\nif (x>=1 && x<=2 && y>=3 && y<=4)\ns = A;\nif (x>=5 && x<=6 && y>=7 && y<=8)\n\x7d\n"
    ++ "void f() \x7b g(); \x7d"

/-- the same pad, and a function with an assignment -/
def padFollowed : String :=
  "void drawPad() \x7b\nif (x>=1 && x<=2 && y>=3 && y<=4)\ns = A;\nif (x>=5 && x<=6 && y>=7 && y<=8)\n\x7d\n"
    ++ "void f() \x7b s = B; \x7d"

/-- whether two sketches without errors have one function that draws, with the same closed body in both -/
structure SameBody (source other : String) (f : Function) (first stop : Nat) : Prop where
  length : (lines source.toList).length = (lines other.toList).length
  noErrors : (extract usual source).1.hasErrors = false ∧ (extract usual other).1.hasErrors = false
  draws : drawFunctions usual (functionsOf (lines source.toList)) = .ok [f] ∧
    drawFunctions usual (functionsOf (lines other.toList)) = .ok [f]
  body : drawnBody (lines source.toList) f = ⟨first, stop, true⟩ ∧ drawnBody (lines other.toList) f = ⟨first, stop, true⟩
  same : SameLines (lines source.toList) (lines other.toList) first stop

theorem pads_sameBody : SameBody padAlone padFollowed (pad 1) 1 4 := by
  -- one evaluation, since all of these read the lines of the same two sketches
  have hread : (lines padAlone.toList).length = (lines padFollowed.toList).length ∧
      ((extract usual padAlone).1.hasErrors = false ∧ (extract usual padFollowed).1.hasErrors = false) ∧
      (drawFunctions usual (functionsOf (lines padAlone.toList)) = .ok [pad 1] ∧
        drawFunctions usual (functionsOf (lines padFollowed.toList)) = .ok [pad 1]) ∧
      (drawnBody (lines padAlone.toList) (pad 1) = ⟨1, 4, true⟩ ∧
        drawnBody (lines padFollowed.toList) (pad 1) = ⟨1, 4, true⟩) ∧
      SameLines (lines padAlone.toList) (lines padFollowed.toList) 1 4 := by
    decide +kernel
  obtain ⟨hlength, hnoErrors, hdraws, hbody, hsame⟩ := hread
  exact ⟨hlength, hnoErrors, hdraws, hbody, hsame⟩

/-- the zones of the pad, but for their actions, are the same in both sketches -/
theorem zones_of_pad : SameBody padAlone padFollowed (pad 1) 1 4 ∧ ∃ screen screen',
    (extract usual padAlone).1.screen? "drawPad" = some screen ∧
      (extract usual padFollowed).1.screen? "drawPad" = some screen' ∧
      List.Forall₂ (SameTest usual (lines padAlone.toList) (lines padFollowed.toList) 1 4) screen.zones screen'.zones := by
  have h := pads_sameBody
  obtain ⟨screen, screen', hfound, hfound', htests, -⟩ := zones_of_same_body usual padAlone padFollowed h.length
    h.noErrors.1 h.noErrors.2 [pad 1] [pad 1] h.draws.1 h.draws.2 (pad 1) (pad 1) (by simp) (by simp) rfl
    (h.body.2.trans h.body.1.symm) (by rw [h.body.1]; exact h.same)
  rw [h.body.1] at htests
  exact ⟨h, screen, screen', hfound, hfound', htests⟩

/-- **Actions from behind a body.** The second zone of the pad takes its action from the function that follows, though the
body of the pad is the same; the first finds its own inside. -/
theorem zones_beyond_body : SameBody padAlone padFollowed (pad 1) 1 4 ∧ ∃ screen screen',
    (extract usual padAlone).1.screen? "drawPad" = some screen ∧
      (extract usual padFollowed).1.screen? "drawPad" = some screen' ∧ screen.zones ≠ screen'.zones ∧
      screen.zones.map Zone.action = ["A", "touch"] ∧ screen'.zones.map Zone.action = ["A", "B"] := by
  have hactions : ((extract usual padAlone).1.screen? "drawPad").map (fun s => s.zones.map Zone.action) =
        some ["A", "touch"] ∧
      ((extract usual padFollowed).1.screen? "drawPad").map (fun s => s.zones.map Zone.action) = some ["A", "B"] := by
    decide +kernel
  obtain ⟨screen, hfound, hzones⟩ := Option.map_eq_some_iff.1 hactions.1
  obtain ⟨screen', hfound', hzones'⟩ := Option.map_eq_some_iff.1 hactions.2
  refine ⟨pads_sameBody, screen, screen', hfound, hfound', fun h => ?_, hzones, hzones'⟩
  rw [h, hzones'] at hzones
  exact absurd hzones (by decide)

end SketchPanel.Sketch

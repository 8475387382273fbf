/-
Identity and order. Every drawing call takes the next number, through all the bodies in turn and whether or not anything
is drawn; so the numbers at the ends of the ids of elements go up through the whole outline, even where two bodies share
lines. Screens are named after functions, each name once, and touch zones after the lines of their tests.

Results:
- `firstOfEach_names`: the first function of each name, by their names.
- `endNumber_mark`: the number at the end of an id can be read back.
- `elementsOf_numbered`, `drawPlans_numbered`: numbers go up through the calls of a body, and through bodies in turn.
- `contents_zones`: touch zones are on ascending lines.
- `screens_in_order`: the screens, elements and zones of an outline without errors.
Witness:
- `overlapping_in_order`: two bodies that share lines, one of them with a call that draws nothing.
-/
import Mathlib.Tactic
import SketchPanel.Proofs.ElementForms

namespace SketchPanel.Sketch

open SketchPanel.Text SketchPanel.Scene

variable {o : Options}

/-! ## Names of screens -/

/-- the names of the functions that draw, as often as they come -/
def drawNames (o : Options) (functions : List Function) : List String :=
  match o.drawPrefix with
  | .str start => (functions.map Function.name).filter fun name => start.toList <+: name.toList
  | _ => []

theorem firstOfEach_names (functions : List Function) :
    (firstOfEach functions).map Function.name = (functions.map Function.name).eraseDups := by
  induction functions using List.reverseRecOn with
  | nil => rfl
  | append_singleton functions f ih =>
    rw [firstOfEach_snoc, firstOfEach_any, List.map_append, List.map_singleton, List.eraseDups_append, ← ih]
    have hmem : (functions.map Function.name).contains f.name = functions.any (·.name == f.name) := by
      rw [List.contains_eq_any_beq, List.any_map]
      simp only [Function.comp_def, Bool.beq_comm]
    rw [List.cons_removeAll, hmem]
    cases hf : functions.any (·.name == f.name) with
    | true => simp
    | false => simp [List.eraseDups_cons]

theorem draws_names {functions draws : List Function} (hd : drawFunctions o functions = .ok draws) :
    draws.map Function.name = (drawNames o functions).eraseDups := by
  unfold drawFunctions at hd
  unfold drawNames
  cases hsetting : o.drawPrefix with
  | str start =>
    simp only [hsetting, Except.ok.injEq] at hd ⊢
    rw [← hd, firstOfEach_names, List.filter_map]
    congr 2
    refine List.filter_congr fun f _ => ?_
    rw [Bool.eq_iff_iff, after?_isSome_iff, Function.comp_apply, decide_eq_true_iff]
  | _ =>
    simp only [hsetting] at hd
    cases functions with
    | nil => cases hd; rfl
    | cons f functions => cases hd

theorem drawPlans_ids {number : Int} {plans : List Plan} {found : List Screen}
    (h : drawPlans o number plans = .ok found) : found.map Screen.id = plans.map Plan.id := by
  induction plans generalizing number found with
  | nil =>
    cases h
    rfl
  | cons plan plans ih =>
    obtain ⟨elements, -, h⟩ := bind_eq_ok_iff.1 h
    obtain ⟨others, hothers, h⟩ := bind_eq_ok_iff.1 h
    cases h
    rw [List.map_cons, List.map_cons, ih hothers]
    rfl

theorem plans_ids (lines : List Line) {functions draws : List Function} (hd : drawFunctions o functions = .ok draws) :
    (plans o lines draws).map Plan.id =
      if drawNames o functions = [] then ["main"] else (drawNames o functions).eraseDups := by
  have hnames := draws_names hd
  cases hnone : drawNames o functions with
  | nil =>
    rw [hnone] at hnames
    rw [plans, if_pos (List.map_eq_nil_iff.1 hnames), if_pos rfl]
    rfl
  | cons name names =>
    rw [hnone, List.eraseDups_cons] at hnames
    have hdraws : draws ≠ [] := by
      rintro rfl
      cases hnames
    rw [plans, if_neg hdraws, if_neg (by simp), List.eraseDups_cons, ← hnames, List.map_map]
    rfl

/-! ## Numbers of elements -/

/-- the digits at the end of an id -/
def endDigits (id : String) : List Char := (id.toList.reverse.takeWhile Char.isDigit).reverse

/-- the number that they spell -/
def endNumber (id : String) : Nat := Nat.ofDigitChars 10 (endDigits id) 0

/-- a mark and a number can be told apart -/
theorem endDigits_mark {mark : String} (hm : mark ∈ marks) (n : Nat) :
    endDigits (mark ++ toString n) = Nat.toDigits 10 n := by
  have hplain : ∀ mark ∈ marks, mark.toList.reverse.takeWhile Char.isDigit = [] := by decide
  have hdigits : ∀ d ∈ (Nat.toDigits 10 n).reverse, d.isDigit = true := fun d hd =>
    Nat.isDigit_of_mem_toDigits (by decide) (by decide) (List.mem_reverse.1 hd)
  rw [endDigits, String.toList_append, Nat.toString_eq_repr, Nat.toList_repr, List.reverse_append,
    List.takeWhile_append_of_pos hdigits, hplain mark hm, List.append_nil, List.reverse_reverse]

theorem endNumber_mark {mark : String} (hm : mark ∈ marks) (n : Nat) : endNumber (mark ++ toString n) = n := by
  rw [endNumber, endDigits_mark hm, Nat.ofDigitChars_ten_toDigits]

/-- elements with marks and ascending numbers for ids, from one number up to but not including another -/
structure Numbered (low high : Nat) (elements : List Element) : Prop where
  le : low ≤ high
  ids : ∀ e ∈ elements, ∃ mark ∈ marks, e.id = mark ++ toString (endNumber e.id)
  bounds : ∀ e ∈ elements, low ≤ endNumber e.id ∧ endNumber e.id < high
  ascending : (elements.map fun e => endNumber e.id).Pairwise (· < ·)

namespace Numbered

variable {low middle high : Nat} {elements others : List Element}

theorem nil (h : low ≤ high) : Numbered low high [] := ⟨h, by simp, by simp, by simp⟩

theorem append (h : Numbered low middle elements) (hothers : Numbered middle high others) :
    Numbered low high (elements ++ others) := by
  refine ⟨h.le.trans hothers.le, ?_, ?_, ?_⟩
  · rw [List.forall_mem_append]
    exact ⟨h.ids, hothers.ids⟩
  · rw [List.forall_mem_append]
    exact ⟨fun e he => ⟨(h.bounds e he).1, (h.bounds e he).2.trans_le hothers.le⟩,
      fun e he => ⟨h.le.trans (hothers.bounds e he).1, (hothers.bounds e he).2⟩⟩
  · rw [List.map_append, List.pairwise_append]
    refine ⟨h.ascending, hothers.ascending, fun n hn m hm => ?_⟩
    obtain ⟨e, he, rfl⟩ := List.mem_map.1 hn
    obtain ⟨e', he', rfl⟩ := List.mem_map.1 hm
    exact (h.bounds e he).2.trans_le (hothers.bounds e' he').1

/-- ascending numbers are at the ends of distinct ids -/
theorem nodup (h : Numbered low high elements) : (elements.map Element.id).Nodup := by
  have hnumbers : ((elements.map Element.id).map endNumber).Nodup := by
    rw [List.map_map]
    exact h.ascending.imp fun hlt => hlt.ne
  exact hnumbers.of_map endNumber

end Numbered

theorem command_numbered {statement : Line} {n : Nat} {place : Int} {here : Option Element}
    (h : (command o statement (n : Int) place).result = .ok here) : Numbered n (n + 1) here.toList := by
  cases here with
  | none => exact .nil (Nat.le_succ n)
  | some e =>
    obtain ⟨d, -, he⟩ := command_inversion h
    have hid : e.id = d.mark ++ toString n := (element_formed he).1
    have hnumber : endNumber e.id = n := by rw [hid, endNumber_mark d.mark_mem]
    refine ⟨Nat.le_succ n, ?_, ?_, by simp⟩
    · simpa [hnumber] using ⟨d.mark, d.mark_mem, hid⟩
    · simp [hnumber]

/-- numbers go up through the calls of a body, by one for each -/
theorem elementsOf_numbered {n : Nat} {place : Int} {statements : List Line} {elements : List Element}
    (h : (elementsOf o place (n : Int) statements).result = .ok elements) :
    Numbered n (n + statements.length) elements := by
  induction statements generalizing n elements with
  | nil =>
    cases h
    exact .nil le_rfl
  | cons statement rest ih =>
    obtain ⟨here, hhere, h⟩ := Traced.bind_eq_ok_iff.1 h
    obtain ⟨others, hothers, h⟩ := Traced.bind_eq_ok_iff.1 h
    cases h
    have hrest := ih (n := n + 1) hothers
    rw [List.length_cons, show n + (rest.length + 1) = n + 1 + rest.length by omega]
    exact (command_numbered hhere).append hrest

/-- and they go on from one body to the next -/
theorem drawPlans_numbered {n : Nat} {plans : List Plan} {found : List Screen}
    (h : drawPlans o (n : Int) plans = .ok found) : ∃ high, Numbered n high (found.flatMap Screen.elements) := by
  induction plans generalizing n found with
  | nil =>
    cases h
    exact ⟨n, .nil le_rfl⟩
  | cons plan plans ih =>
    obtain ⟨elements, helements, h⟩ := bind_eq_ok_iff.1 h
    obtain ⟨others, hothers, h⟩ := bind_eq_ok_iff.1 h
    cases h
    obtain ⟨high, hrest⟩ := ih (n := n + plan.calls.length) (by exact_mod_cast hothers)
    exact ⟨high, (elementsOf_numbered helements).append hrest⟩

/-! ## Places of zones -/

/-- whether a zone is that of the touch test on the line at an index, and named for it -/
def ZoneOn (o : Options) (lines : List Line) (index : Nat) (zone : Zone) : Prop :=
  zoneAt o lines index = .ok (some zone) ∧ zone.id = "touch_" ++ toString index

theorem zoneOf_id {line : Line} {index : Nat} {following : List Line} {zone : Zone}
    (h : zoneOf o line index following = .ok (some zone)) : zone.id = "touch_" ++ toString index := by
  obtain ⟨found, -, h⟩ := bind_eq_ok_iff.1 h
  cases found with
  | none => cases h
  | some found =>
    obtain ⟨action, -, h⟩ := bind_eq_ok_iff.1 h
    cases h
    rfl

theorem zoneAt_eq {lines following : List Line} {index : Nat} {line : Line} (h : lines.drop index = line :: following) :
    zoneAt o lines index = zoneOf o (trim line) index following := by
  have hindex : ¬ (index : Int) < 0 := by omega
  simp only [zoneAt, around?, if_neg hindex, Int.toNat_natCast, h]

theorem contents_zones {lines : List Line} {count index : Nat} {number : Int} {inside : List Element × List Zone}
    (h : (contents o count index (lines.drop index) number).result = .ok inside) :
    ∃ places : List Nat, places.Pairwise (· < ·) ∧ (∀ place ∈ places, index ≤ place) ∧
      List.Forall₂ (ZoneOn o lines) places inside.2 := by
  induction count generalizing index number inside with
  | zero =>
    cases h
    exact ⟨[], by simp, by simp, .nil⟩
  | succ count ih =>
    cases hdrop : lines.drop index with
    | nil =>
      rw [hdrop] at h
      cases h
      exact ⟨[], by simp, by simp, .nil⟩
    | cons line following =>
      have hfollowing : lines.drop (index + 1) = following := by
        rw [← List.drop_drop, hdrop]
        rfl
      rw [hdrop] at h
      obtain ⟨found, elements, zone, others, -, -, hzone, hothers, rfl⟩ := contents_cons h
      rw [← hfollowing] at hothers
      obtain ⟨places, hascending, hbeyond, hzones⟩ := ih hothers
      cases zone with
      | none => exact ⟨places, hascending, fun place hplace => (Nat.le_succ index).trans (hbeyond place hplace), hzones⟩
      | some z =>
        have hhere := zoneOf_of_tested hzone
        refine ⟨index :: places, List.pairwise_cons.2 ⟨hbeyond, hascending⟩, ?_, .cons ⟨?_, zoneOf_id hhere⟩ hzones⟩
        · rw [List.forall_mem_cons]
          exact ⟨le_rfl, fun place hplace => (Nat.le_succ index).trans (hbeyond place hplace)⟩
        · rw [zoneAt_eq hdrop, hhere]

/-! ## Outlines without errors -/

theorem extract_functions (o : Options) (source : String) :
    (extract o source).1.functions = functionsOf (lines source.toList) := by
  simp only [extract]
  cases (screens o (lines source.toList) (functionsOf (lines source.toList))).result with
  | error fault => rfl
  | ok found =>
    cases geometryOf o (lines source.toList) with
    | error fault => rfl
    | ok geometry => rfl

/-- with distinct ids, each screen is found by its own -/
theorem find?_of_nodup {found : List Screen} (h : (found.map Screen.id).Nodup) {screen : Screen}
    (hs : screen ∈ found) : found.find? (·.id == screen.id) = some screen := by
  cases hfind : found.find? (·.id == screen.id) with
  | none => exact absurd (List.find?_eq_none.1 hfind screen hs) (by simp)
  | some other =>
    have hid : other.id = screen.id := by simpa using List.find?_some hfind
    rw [List.inj_on_of_nodup_map h (List.mem_of_find?_eq_some hfind) hs hid]

/-- an outline without errors has a screen for each function that draws, or else one of all lines -/
theorem outline_ids {source : String} {draws : List Function} (h : (extract o source).1.hasErrors = false)
    (hd : drawFunctions o (functionsOf (lines source.toList)) = .ok draws) :
    (extract o source).1.screens.map Screen.id = screenIds draws := by
  obtain ⟨draws', hdraws, hbuilt⟩ := read_of_no_errors h
  obtain rfl : draws' = draws := Except.ok.inj (hdraws.symm.trans hd)
  have hids := drawPlans_ids (screens_of_plans hdraws hbuilt)
  rw [List.map_map] at hids
  rw [show Screen.id = Screen.id ∘ untouched from rfl, hids, plans, screenIds]
  split_ifs
  · rfl
  · rw [List.map_map]
    rfl

/-- and these have distinct ids -/
theorem outline_distinct {source : String} (h : (extract o source).1.hasErrors = false) :
    ((extract o source).1.screens.map Screen.id).Nodup := by
  obtain ⟨draws, hdraws, -⟩ := read_of_no_errors h
  rw [outline_ids h hdraws, screenIds]
  split_ifs
  · exact List.nodup_singleton _
  · exact drawFunctions_nodup hdraws

/-- the screen of a function that draws is found by the name of the function -/
theorem screen_of_draws {source : String} {draws : List Function} (h : (extract o source).1.hasErrors = false)
    (hd : drawFunctions o (functionsOf (lines source.toList)) = .ok draws) {f : Function} (hf : f ∈ draws) :
    ∃ screen ∈ (extract o source).1.screens, screen.id = f.name ∧ (extract o source).1.screen? f.name = some screen := by
  have hmem : f.name ∈ (extract o source).1.screens.map Screen.id := by
    rw [outline_ids h hd, screenIds, if_neg (List.ne_nil_of_mem hf)]
    exact List.mem_map_of_mem hf
  obtain ⟨screen, hs, hid⟩ := List.mem_map.1 hmem
  exact ⟨screen, hs, hid, hid ▸ find?_of_nodup (outline_distinct h) hs⟩

/-- whether an outline has everything in order: a screen for each name of a function that draws, in the order in which the
names first come, or else one screen; each found by its id; elements with numbers that go up through all the screens; and
zones on lines that go up through each screen -/
structure InOrder (o : Options) (lines : List Line) (outline : Outline) : Prop where
  ids : outline.screens.map Screen.id =
    if drawNames o outline.functions = [] then ["main"] else (drawNames o outline.functions).eraseDups
  distinct : (outline.screens.map Screen.id).Nodup
  found : ∀ screen ∈ outline.screens, outline.screen? screen.id = some screen
  numbered : ∀ e ∈ outline.screens.flatMap Screen.elements, ∃ mark ∈ marks, e.id = mark ++ toString (endNumber e.id)
  ascending : ((outline.screens.flatMap Screen.elements).map fun e => endNumber e.id).Pairwise (· < ·)
  apart : ((outline.screens.flatMap Screen.elements).map Element.id).Nodup
  zones : ∀ screen ∈ outline.screens, ∃ places : List Nat, places.Pairwise (· < ·) ∧
    List.Forall₂ (ZoneOn o lines) places screen.zones

/-- **Identity and order.** An outline without errors has everything in order. -/
theorem screens_in_order (o : Options) (source : String) (h : (extract o source).1.hasErrors = false) :
    InOrder o (lines source.toList) (extract o source).1 := by
  obtain ⟨draws, hdraws, hbuilt⟩ := read_of_no_errors h
  have hdrawn := screens_of_plans hdraws hbuilt
  have huntouched : ∀ {α : Type} (field : Screen → α), (∀ s, field (untouched s) = field s) →
      ((extract o source).1.screens.map untouched).map field = (extract o source).1.screens.map field := by
    intro α field hfield
    rw [List.map_map]
    exact List.map_congr_left fun s _ => hfield s
  have hids : (extract o source).1.screens.map Screen.id = (plans o (lines source.toList) draws).map Plan.id := by
    rw [← huntouched Screen.id fun _ => rfl, drawPlans_ids hdrawn]
  have hdistinct : ((extract o source).1.screens.map Screen.id).Nodup := by
    rw [hids, plans]
    split_ifs
    · exact List.nodup_singleton _
    · rw [List.map_map]
      exact drawFunctions_nodup hdraws
  obtain ⟨high, hnumbered⟩ : ∃ high, Numbered 0 high ((extract o source).1.screens.flatMap Screen.elements) := by
    have := drawPlans_numbered (n := 0) hdrawn
    rwa [List.flatMap_def, huntouched Screen.elements fun _ => rfl, ← List.flatMap_def] at this
  refine ⟨?_, hdistinct, fun screen hs => find?_of_nodup hdistinct hs, hnumbered.ids, hnumbered.ascending,
    hnumbered.nodup, fun screen hs => ?_⟩
  · rw [hids, plans_ids _ hdraws, extract_functions]
  · obtain ⟨id, name, count, first, number, inside, hinside, rfl⟩ := extract_readOff hs
    obtain ⟨places, hascending, -, hzones⟩ := contents_zones hinside
    exact ⟨places, hascending, hzones⟩

/-- a body that nothing closes, with another function in it that was declared first -/
def overlapping : String :=
  "void drawHome();\nvoid drawPad() \x7b\n tft.f(); tft.fillScreen(1);\nvoid drawHome() \x7b\n"
    ++ " tft.fillScreen(2);\n if (x>=1 && x<=2 && y>=3 && y<=4) s=A;"

/-- the second fill is on both screens, under two ids, and the call that draws nothing has a number too -/
theorem overlapping_in_order :
    (extract usual overlapping).1.hasErrors = false ∧
      (extract usual overlapping).1.screens.map (fun s => (s.id, s.elements.map Element.id, s.zones.map Zone.id)) =
        [("drawHome", ["bg_0"], ["touch_5"]), ("drawPad", ["bg_2", "bg_3"], ["touch_5"])] ∧
      InOrder usual (lines overlapping.toList) (extract usual overlapping).1 := by
  have hread : (extract usual overlapping).1.hasErrors = false ∧
      (extract usual overlapping).1.screens.map (fun s => (s.id, s.elements.map Element.id, s.zones.map Zone.id)) =
        [("drawHome", ["bg_0"], ["touch_5"]), ("drawPad", ["bg_2", "bg_3"], ["touch_5"])] := by
    decide +kernel
  exact ⟨hread.1, hread.2, screens_in_order usual overlapping hread.1⟩

end SketchPanel.Sketch

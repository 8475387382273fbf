/-
Screens that a target names. A target is looked for as it stands, but for case, among ids and names; if no screen answers,
its words between underscores are capitalised and put behind the mark of drawing functions, and that name is looked for,
again but for case. Over the plain letters the second name is, in lower case, the mark and then the target without its
underscores: capitals come and go, and empty words leave nothing.

Results:
- `lower_plain`: lower case of a plain text, letter by letter.
- `lower_drawFunctionName`: the name of a drawing function in lower case.
- `drawnBy_same`: targets that differ in case and underscores have the same drawing function.
- `execute_named`: the screen that a zone's action leads to, or the name alone.
Witness:
- `pads_by_either_name`: a screen named as it stands comes before an earlier one drawn by the function.
-/
import Mathlib.Tactic
import SketchPanel.Panel.Resolver
import SketchPanel.Proofs.PanelRun
import SketchPanel.Proofs.Scanning

namespace SketchPanel.Text

open Case

/-! ## Case of plain letters -/

/-- whether all characters of a text are plain ones -/
def Plain (text : List Char) : Prop := ∀ c ∈ text, c.toNat < 128

instance (text : List Char) : Decidable (Plain text) :=
  decidable_of_iff (text.all (·.toNat < 128) = true) (by simp [Plain])

/-- what holds of all plain characters by their codes holds of each -/
theorem forall_plain {P : Char → Prop} (h : ∀ code < 128, P (Char.ofNat code)) {c : Char} (hc : c.toNat < 128) : P c := by
  have hcode := h c.toNat hc
  rwa [Char.ofNat_toNat] at hcode

theorem lowerChar_plain {c : Char} (hc : c.toNat < 128) : lowerChar c = [c.toLower] :=
  forall_plain (P := fun c => lowerChar c = [c.toLower]) (by decide +kernel) hc

theorem upperChar_plain {c : Char} (hc : c.toNat < 128) : upperChar c = [c.toUpper] :=
  forall_plain (P := fun c => upperChar c = [c.toUpper]) (by decide +kernel) hc

theorem toLower_toUpper {c : Char} (hc : c.toNat < 128) : c.toUpper.toLower = c.toLower :=
  forall_plain (P := fun c => c.toUpper.toLower = c.toLower) (by decide +kernel) hc

theorem toLower_toLower {c : Char} (hc : c.toNat < 128) : c.toLower.toLower = c.toLower :=
  forall_plain (P := fun c => c.toLower.toLower = c.toLower) (by decide +kernel) hc

theorem toUpper_lt {c : Char} (hc : c.toNat < 128) : c.toUpper.toNat < 128 :=
  forall_plain (P := fun c => c.toUpper.toNat < 128) (by decide +kernel) hc

theorem toLower_lt {c : Char} (hc : c.toNat < 128) : c.toLower.toNat < 128 :=
  forall_plain (P := fun c => c.toLower.toNat < 128) (by decide +kernel) hc

theorem plain_cons {c : Char} {rest : List Char} : Plain (c :: rest) ↔ c.toNat < 128 ∧ Plain rest := List.forall_mem_cons

theorem plain_append {front back : List Char} : Plain (front ++ back) ↔ Plain front ∧ Plain back := List.forall_mem_append

theorem Plain.map_toLower {text : List Char} (h : Plain text) : Plain (text.map Char.toLower) := by
  intro c hc
  obtain ⟨d, hd, rfl⟩ := List.mem_map.1 hc
  exact toLower_lt (h d hd)

/-- no plain letter has a second small form, so what stands around it does not count -/
theorem lowerAfter_plain {text : List Char} (h : Plain text) (before : List Char) :
    lowerAfter before text = text.map Char.toLower := by
  induction text generalizing before with
  | nil => rfl
  | cons c rest ih =>
    obtain ⟨hc, hrest⟩ := plain_cons.1 h
    have hsigma : c ≠ 'Σ' := by
      rintro rfl
      exact absurd hc (by decide)
    rw [lowerAfter, if_neg hsigma, lowerChar_plain hc, ih hrest, List.map_cons, List.singleton_append]

/-- lower case of a plain text, letter by letter -/
theorem lower_plain {text : String} (h : Plain text.toList) : lower text = .ofList (text.toList.map Char.toLower) := by
  rw [lower, lowerAfter_plain h]

theorem upperFirst_plain {word : List Char} (h : Plain word) :
    Plain (upperFirst word) ∧ (upperFirst word).map Char.toLower = word.map Char.toLower := by
  cases word with
  | nil => exact ⟨h, rfl⟩
  | cons c rest =>
    obtain ⟨hc, hrest⟩ := plain_cons.1 h
    have hfirst : upperFirst (c :: rest) = c.toUpper :: rest.map Char.toLower := by
      rw [upperFirst, upperChar_plain hc, lowerAfter_plain hrest, List.singleton_append]
    rw [hfirst]
    refine ⟨plain_cons.2 ⟨toUpper_lt hc, hrest.map_toLower⟩, ?_⟩
    rw [List.map_cons, toLower_toUpper hc, List.map_map, List.map_cons]
    congr 1
    exact List.map_congr_left fun d hd => toLower_toLower (hrest d hd)

/-! ## Words between separators -/

theorem flatten_pieces (separator : Char) (text : List Char) :
    (pieces separator text).flatten = text.filter (· ≠ separator) := by
  induction text with
  | nil => rfl
  | cons c rest ih =>
    rw [pieces]
    split_ifs with hc
    · rw [List.flatten_cons, List.nil_append, ih, List.filter_cons_of_neg (by simpa using hc)]
    · rw [List.filter_cons_of_pos (by simpa using hc), ← ih]
      cases hpieces : pieces separator rest with
      | nil => exact absurd hpieces (pieces_ne_nil separator rest)
      | cons first more => rfl

theorem flatten_filter_ne_nil (words : List (List Char)) : (words.filter (· ≠ [])).flatten = words.flatten := by
  induction words with
  | nil => rfl
  | cons word words ih =>
    cases word with
    | nil => simpa using ih
    | cons c cs => simpa using ih

end SketchPanel.Text

namespace SketchPanel

open Text

/-! ## Names of drawing functions -/

/-- the letters of a target, without case and underscores -/
def targetLetters (target : String) : List Char := (target.toList.filter (· ≠ '_')).map Char.toLower

/-- the capitals of words come and go, and words without letters leave nothing -/
theorem runTogether_plain {target : String} (h : Plain target.toList) :
    Plain (runTogether target).toList ∧ (runTogether target).toList.map Char.toLower = targetLetters target := by
  have hwords : ∀ word ∈ (pieces '_' target.toList).filter (· ≠ []), Plain word := by
    intro word hword c hc
    have hin := (pieces_stretches '_' target.toList).all word (List.mem_filter.1 hword).1
    exact h c (hin.subset hc)
  have hletters : ∀ words : List (List Char), (∀ word ∈ words, Plain word) →
      Plain (words.flatMap upperFirst) ∧ (words.flatMap upperFirst).map Char.toLower = words.flatten.map Char.toLower := by
    intro words hplain
    induction words with
    | nil => exact ⟨nofun, rfl⟩
    | cons word words ih =>
      rw [List.forall_mem_cons] at hplain
      obtain ⟨hfirst, hsame⟩ := upperFirst_plain hplain.1
      obtain ⟨hrest, hsames⟩ := ih hplain.2
      rw [List.flatMap_cons, List.flatten_cons, List.map_append, List.map_append, hsame, hsames]
      exact ⟨plain_append.2 ⟨hfirst, hrest⟩, rfl⟩
  obtain ⟨hplain, hsame⟩ := hletters _ hwords
  rw [runTogether, String.toList_ofList, hsame, flatten_filter_ne_nil, flatten_pieces]
  exact ⟨hplain, rfl⟩

/-- the name of a drawing function in lower case: the mark, and the target without its underscores -/
theorem lower_drawFunctionName {start target : String} (hstart : Plain start.toList) (htarget : Plain target.toList) :
    (drawFunctionName target (.str start)).map lower =
      .ok (lower start ++ lower (.ofList (target.toList.filter (· ≠ '_')))) := by
  obtain ⟨hplain, hsame⟩ := runTogether_plain htarget
  have hletters : Plain (String.ofList (target.toList.filter (· ≠ '_'))).toList := by
    rw [String.toList_ofList]
    exact fun c hc => htarget c (List.mem_filter.1 hc).1
  have hname : Plain (start ++ runTogether target).toList := by
    rw [String.toList_append]
    exact plain_append.2 ⟨hstart, hplain⟩
  show Except.ok (lower (start ++ runTogether target)) = _
  rw [lower_plain hname, lower_plain hstart, lower_plain hletters, String.toList_append, List.map_append, hsame,
    String.toList_ofList, String.ofList_append]
  rfl

/-! ## The first screen of a name -/

/-- whether id or name of a screen is a text, but for case -/
def Screen.IsCalled (wanted : String) (s : Screen) : Prop := lower s.id = wanted ∨ lower s.name = wanted

/-- whether a screen is the first of its list that is called so -/
def FirstCalled (screens : List Screen) (wanted : String) (screen : Screen) : Prop :=
  screen.IsCalled wanted ∧ ∃ before after, screens = before ++ screen :: after ∧ ∀ s ∈ before, ¬ s.IsCalled wanted

theorem Screen.answersTo_iff {wanted : String} {s : Screen} : s.answersTo wanted = true ↔ s.IsCalled wanted := by
  rw [Screen.answersTo, Bool.or_eq_true, beq_iff_eq, beq_iff_eq, Screen.IsCalled]

theorem find?_answersTo_iff {screens : List Screen} {wanted : String} {screen : Screen} :
    screens.find? (Screen.answersTo wanted) = some screen ↔ FirstCalled screens wanted screen := by
  rw [List.find?_eq_some_iff_append, FirstCalled, Screen.answersTo_iff]
  simp only [Bool.not_eq_true', ← Bool.not_eq_true, Screen.answersTo_iff]

theorem find?_answersTo_none {screens : List Screen} {wanted : String} (h : ∀ s ∈ screens, ¬ s.IsCalled wanted) :
    screens.find? (Screen.answersTo wanted) = none :=
  List.find?_eq_none.2 fun s hs hanswers => h s hs (Screen.answersTo_iff.1 hanswers)

/-! ## Where an action leads -/

/-- a panel switched to a screen: its elements and zones under its id, and behind them the colour of its first full-screen
fill, or the colour that was there; nothing else changes -/
def Panel.switched (p : Panel) (screen : Screen) : Panel :=
  { p with slice := { p.slice with
      elements := screen.elements, zones := screen.zones, current := screen.id
      background := (Element.firstFill? screen.elements).getD p.slice.background } }

namespace Resolver

section Lookup

variable {r : Resolver} {z : Zone} {start : String}

/-- what a zone's action leads to: a screen of its very target, or else one drawn by the function of that name -/
theorem destination_eq (hmark : r.drawPrefix = .str start) (hstart : Plain start.toList) (hz : Plain z.wanted.toList) :
    r.destination? z = .ok ((r.screens.find? (Screen.answersTo (lower z.wanted))).or
      (r.screens.find? (Screen.answersTo (lower start ++ lower (.ofList (z.wanted.toList.filter (· ≠ '_'))))))) := by
  have hname := lower_drawFunctionName hstart hz
  rw [destination?, Screen.find?, Screen.named?, hmark]
  cases r.screens.find? (Screen.answersTo (lower z.wanted)) with
  | some screen => rfl
  | none =>
    cases hfunction : drawFunctionName z.wanted (.str start) with
    | error fault => rw [hfunction] at hname; cases hname
    | ok function =>
      rw [hfunction] at hname
      rw [Screen.drawnBy?, hfunction, ← Except.ok.inj hname]
      rfl

end Lookup

/-- targets that differ in case and underscores have the same drawing function -/
theorem drawnBy_same {target other start : String} (hstart : Plain start.toList) (htarget : Plain target.toList)
    (hother : Plain other.toList) (hsame : targetLetters other = targetLetters target) (screens : List Screen) :
    Screen.drawnBy? other screens (.str start) = Screen.drawnBy? target screens (.str start) := by
  have hletters : ∀ text : String, Plain text.toList →
      lower (start ++ runTogether text) = .ofList (start.toList.map Char.toLower ++ targetLetters text) := by
    intro text htext
    obtain ⟨hplain, hrun⟩ := runTogether_plain htext
    have hname : Plain (start ++ runTogether text).toList := by
      rw [String.toList_append]
      exact plain_append.2 ⟨hstart, hplain⟩
    rw [lower_plain hname, String.toList_append, List.map_append, hrun]
  show Except.ok (screens.find? (Screen.answersTo (lower (start ++ runTogether other)))) =
    .ok (screens.find? (Screen.answersTo (lower (start ++ runTogether target))))
  rw [hletters other hother, hletters target htarget, hsame]

/-- **The screen of an action.** A zone with a plain target leads to the first screen whose id or name is the target, but
for case; without one, to the first whose id or name is the mark of drawing functions and the target without its
underscores, but for case; and without either, only the name on the panel changes. Targets that differ in case and in
where underscores stand lead to the same screen by their drawing functions. -/
theorem execute_named (r : Resolver) (start : String) (hmark : r.drawPrefix = .str start) (hstart : Plain start.toList)
    (p : Panel) (z : Zone) (hz : Plain z.wanted.toList) :
    let named := lower z.wanted
    let drawn := lower start ++ lower (.ofList (z.wanted.toList.filter (· ≠ '_')))
    (∀ screen, FirstCalled r.screens named screen → r.execute p z = .ok (p.switched screen)) ∧
    ((∀ s ∈ r.screens, ¬ s.IsCalled named) →
      (∀ screen, FirstCalled r.screens drawn screen → r.execute p z = .ok (p.switched screen)) ∧
      ((∀ s ∈ r.screens, ¬ s.IsCalled drawn) →
        r.execute p z = .ok { p with slice := { p.slice with current := z.wanted } })) ∧
    ∀ other : String, Plain other.toList → targetLetters other = targetLetters z.wanted →
      Screen.drawnBy? other r.screens r.drawPrefix = Screen.drawnBy? z.wanted r.screens r.drawPrefix := by
  intro named drawn
  have hwhere := destination_eq hmark hstart hz
  refine ⟨fun screen hfirst => ?_, fun hnone => ⟨fun screen hfirst => ?_, fun hneither => ?_⟩, fun other hother hsame => ?_⟩
  · rw [find?_answersTo_iff.2 hfirst, Option.some_or] at hwhere
    exact PanelRun.execute_ok p hwhere
  · rw [find?_answersTo_none hnone, find?_answersTo_iff.2 hfirst, Option.none_or] at hwhere
    exact PanelRun.execute_ok p hwhere
  · rw [find?_answersTo_none hnone, find?_answersTo_none hneither, Option.none_or] at hwhere
    exact PanelRun.execute_ok p hwhere
  · rw [hmark]
    exact drawnBy_same hstart hz hother hsame r.screens

/-- a screen drawn by the function of a pad, in front of one that is named like it -/
def pads : Resolver := ⟨[{ id := "drawPadA", name := "drawPadA" }, { id := "Pad_A", name := "Pad_A" }], .str "draw"⟩

/-- a zone over the corner of a panel -/
def cornerZone (action : String) : Zone := { id := "touch_0", x := 0, y := 0, width := 9, height := 9, action }

/-- the name as it stands comes first, though its screen comes last -/
theorem pads_by_either_name :
    let p := Panel.new .null .null .null .null
    pads.drawPrefix = .str "draw" ∧ Plain "draw".toList ∧ Plain (cornerZone "PAD_a").wanted.toList ∧
      pads.execute p (cornerZone "PAD_a") = .ok (p.switched { id := "Pad_A", name := "Pad_A" }) ∧
      pads.execute p (cornerZone "__pAd__A_") = .ok (p.switched { id := "drawPadA", name := "drawPadA" }) ∧
      pads.execute p (cornerZone "AWAY") = .ok { p with slice := { p.slice with current := "AWAY" } } := by
  intro p
  have hdraw : Plain "draw".toList := by decide
  have hzone : Plain (cornerZone "PAD_a").wanted.toList := by decide +kernel
  have hnone : ∀ wanted ∈ ["__pad__a_", "away", "drawaway"], ∀ s ∈ pads.screens, ¬ s.IsCalled wanted := by
    unfold Screen.IsCalled
    decide +kernel
  refine ⟨rfl, hdraw, hzone, ?_, ?_, ?_⟩
  · refine (execute_named pads "draw" rfl hdraw p (cornerZone "PAD_a") hzone).1 _ ⟨?_, [_], [], rfl, ?_⟩
    · unfold Screen.IsCalled
      decide +kernel
    · unfold Screen.IsCalled
      decide +kernel
  · have hother := (execute_named pads "draw" rfl hdraw p (cornerZone "__pAd__A_") (by decide +kernel)).2.1
    refine (hother (hnone _ (by decide +kernel))).1 _ ⟨?_, [], [_], rfl, nofun⟩
    unfold Screen.IsCalled
    decide +kernel
  · have hother := (execute_named pads "draw" rfl hdraw p (cornerZone "AWAY") (by decide +kernel)).2.1
    exact (hother (hnone _ (by decide +kernel))).2 (hnone _ (by decide +kernel))

end Resolver

end SketchPanel

/-
What can stop the reading of a line. Every reader below is shown to answer, unless a run of digits of its text is longer
than can be read; the failure then tells the length of that run. The facts compose: what a reader captures is a stretch
of its text, so a failure in what was captured is a failure in the text.

Results:
- `Reads.bind`, `Reads.within`: readings one after another, and readings of a part.
- `resolution_reads`, `touchTest?_reads`, `rotation?_reads`: colours, touch tests and rotations.
- `arguments?_within`, `statements_within`: arguments and statements are stretches of their line.
- `drawing?_reads`: every form of drawing call, with its colours still stretches of the line.
-/
import Mathlib.Tactic
import SketchPanel.Colour.Expression
import SketchPanel.Proofs.Scanning
import SketchPanel.Sketch.Declaration
import SketchPanel.Sketch.Drawing
import SketchPanel.Sketch.TouchTest

namespace SketchPanel.Sketch

open SketchPanel.Text SketchPanel.Number

/-! ## Readings -/

/-- a run of digits in one piece of a text -/
structure DigitRun (text run : Line) : Prop where
  within : run <:+: text
  digits : ∀ c ∈ run, isDigit c = true

theorem DigitRun.widen {part text run : Line} (h : DigitRun part run) (hp : part <:+: text) : DigitRun text run :=
  ⟨h.within.trans hp, h.digits⟩

/-- a reading of a text ends as it should, or a run of digits that is too long stops it, and it tells how long -/
def Reads {ε α : Type} (wrap : TooLong → ε) (text : Line) (Q : α → Prop) : Except ε α → Prop
  | .ok a => Q a
  | .error fault => ∃ run, DigitRun text run ∧ digitLimit < run.length ∧ fault = wrap ⟨run.length⟩

section Composition

variable {ε α β : Type} {wrap : TooLong → ε} {text part : Line} {P : α → Prop} {x : Except ε α}

theorem Reads.within (h : Reads wrap part P x) (hp : part <:+: text) : Reads wrap text P x := by
  cases x with
  | ok a => exact h
  | error fault =>
    obtain ⟨run, hrun, hlong, e⟩ := h
    exact ⟨run, hrun.widen hp, hlong, e⟩

/-- without such a run a reading answers -/
theorem Reads.answers (h : Reads wrap text P x) (hshort : ∀ run, DigitRun text run → run.length ≤ digitLimit) :
    ∃ a, x = .ok a ∧ P a := by
  cases x with
  | ok a => exact ⟨a, rfl, h⟩
  | error fault =>
    obtain ⟨run, hrun, hlong, -⟩ := h
    exact absurd (hshort run hrun) (not_le.2 hlong)

theorem Reads.bind {Q : β → Prop} {f : α → Except ε β} (h : Reads wrap text P x)
    (hf : ∀ a, P a → Reads wrap text Q (f a)) : Reads wrap text Q (x >>= f) := by
  cases x with
  | ok a => exact hf a h
  | error fault => exact h

theorem Reads.map {Q : β → Prop} {f : α → β} (h : Reads wrap text P x) (hf : ∀ a, P a → Q (f a)) :
    Reads wrap text Q (x.map f) := by
  cases x with
  | ok a => exact hf a h
  | error fault => exact h

theorem Reads.wrapped {y : Except TooLong α} (h : Reads id text P y) : Reads wrap text P (y.mapError wrap) := by
  cases y with
  | ok a => exact h
  | error fault =>
    obtain ⟨run, hrun, hlong, rfl⟩ := h
    exact ⟨run, hrun, hlong, rfl⟩

end Composition

/-! ## Numbers -/

theorem readDigits_reads {text run : Line} (h : DigitRun text run) : Reads id text (fun _ => True) (readDigits run) := by
  unfold readDigits
  split
  · rename_i hlong
    exact ⟨run, h, hlong, rfl⟩
  · trivial

theorem sign_suffix (text : Line) : (sign text).2 <:+ text := by
  unfold sign
  split
  · exact List.suffix_cons _ _
  · exact List.suffix_cons _ _
  · exact List.suffix_rfl

theorem wholeLiteral_reads (text : Line) : Reads id text (fun _ => True) (wholeLiteral text) := by
  have hsuf : (sign (trim text)).2 <:+: text := (sign_suffix _).isInfix.trans (trim_within text)
  simp only [wholeLiteral, signedDigits]
  split
  · rename_i h
    have hread := readDigits_reads ⟨hsuf, List.all_eq_true.1 h.2⟩
    exact Reads.map (P := fun _ => True) (hread.bind fun _ _ => trivial) fun _ _ => trivial
  · trivial

/-- digits after blanks, as scanners capture them -/
theorem captured {text run rest : Line} (h : run? isDigit (trimStart text) = some (run, rest)) :
    DigitRun text run ∧ rest <:+ text := by
  obtain ⟨-, -, hdigits, -⟩ := run?_eq_some_iff.1 h
  have htrim := trimStart_suffix text
  exact ⟨⟨(run?_within h).trans htrim.isInfix, hdigits⟩, (run?_suffix h).trans htrim⟩

/-! ## Colours -/

theorem channelCall_captures {before : Option Char} {text r g b rest : Line}
    (h : Colour.channelCall before text = some ((r, g, b), rest)) :
    DigitRun text r ∧ DigitRun text g ∧ DigitRun text b := by
  simp only [Colour.channelCall, Option.bind_eq_bind, Option.bind_eq_some_iff, Prod.exists, Option.pure_def,
    Option.some.injEq, Prod.mk.injEq] at h
  obtain ⟨t1, h1, t2, h2, r', t3, h3, t4, h4, g', t5, h5, t6, h6, b', t7, h7, -, -, ⟨rfl, rfl, rfl⟩, -⟩ := h
  have ht2 : t2 <:+ text := (token?_suffix h2).trans (after?_suffix h1)
  obtain ⟨hr, ht3⟩ := captured h3
  have ht4 : t4 <:+ text := ((token?_suffix h4).trans ht3).trans ht2
  obtain ⟨hg, ht5⟩ := captured h5
  have ht6 : t6 <:+ text := ((token?_suffix h6).trans ht5).trans ht4
  obtain ⟨hb, -⟩ := captured h7
  exact ⟨hr.widen ht2.isInfix, hg.widen ht4.isInfix, hb.widen ht6.isInfix⟩

theorem resolution_reads (expression : Line) : Reads id expression (fun _ => True) (Colour.resolution expression) := by
  suffices h : Reads id (trim expression) (fun _ => True) (Colour.resolution expression) from
    h.within (trim_within expression)
  unfold Colour.resolution
  dsimp only
  split
  · split <;> trivial
  · split
    · rename_i hfound
      obtain ⟨previous, here, hsuf, hscan⟩ := search_eq_some hfound
      obtain ⟨hr, hg, hb⟩ := channelCall_captures hscan
      refine (readDigits_reads (hr.widen hsuf.isInfix)).bind fun _ _ => ?_
      refine (readDigits_reads (hg.widen hsuf.isInfix)).bind fun _ _ => ?_
      exact (readDigits_reads (hb.widen hsuf.isInfix)).bind fun _ _ => trivial
    · split
      · trivial
      · split
        · rename_i h
          exact (readDigits_reads ⟨List.infix_rfl, List.all_eq_true.1 h.2⟩).bind fun _ _ => trivial
        · trivial

/-! ## Touch tests and rotations -/

theorem comparison_captures {name : Char} {operator text run rest : Line}
    (h : comparison name operator text = some (run, rest)) : DigitRun text run ∧ rest <:+ text := by
  simp only [comparison, Option.bind_eq_bind, Option.bind_eq_some_iff] at h
  obtain ⟨t1, h1, t2, h2, h3⟩ := h
  have ht2 : t2 <:+ text := (token?_suffix h2).trans (after?_suffix h1)
  obtain ⟨hrun, hrest⟩ := captured h3
  exact ⟨hrun.widen ht2.isInfix, hrest.trans ht2⟩

theorem conjoined?_suffix {text rest : Line} (h : conjoined? text = some rest) : rest <:+ text := by
  have htrim := trimStart_suffix text
  unfold conjoined? at h
  split at h
  · rename_i more e
    cases h
    exact ((trimStart_suffix more).trans (e ▸ List.suffix_append ['&', '&'] more)).trans htrim
  · simp only [Option.bind_eq_bind, Option.bind_eq_some_iff] at h
    obtain ⟨more, hand, h⟩ := h
    split at h
    · cases h
      exact ((trimStart_suffix more).trans (after?_suffix hand)).trans htrim
    · cases h

theorem touchTestAt_captures {before : Option Char} {text rest : Line} {b : Bounds Line}
    (h : touchTestAt before text = some (b, rest)) :
    DigitRun text b.x1 ∧ DigitRun text b.x2 ∧ DigitRun text b.y1 ∧ DigitRun text b.y2 := by
  simp only [touchTestAt, Option.bind_eq_bind, Option.bind_eq_some_iff, Prod.exists, Option.pure_def,
    Option.some.injEq, Prod.mk.injEq] at h
  obtain ⟨x1, t1, h1, t2, h2, x2, t3, h3, t4, h4, y1, t5, h5, t6, h6, y2, t7, h7, rfl, -⟩ := h
  obtain ⟨hx1, ht1⟩ := comparison_captures h1
  have ht2 : t2 <:+ text := (conjoined?_suffix h2).trans ht1
  obtain ⟨hx2, ht3⟩ := comparison_captures h3
  have ht4 : t4 <:+ text := ((conjoined?_suffix h4).trans ht3).trans ht2
  obtain ⟨hy1, ht5⟩ := comparison_captures h5
  have ht6 : t6 <:+ text := ((conjoined?_suffix h6).trans ht5).trans ht4
  obtain ⟨hy2, -⟩ := comparison_captures h7
  exact ⟨hx1, hx2.widen ht2.isInfix, hy1.widen ht4.isInfix, hy2.widen ht6.isInfix⟩

theorem touchTest?_reads (line : Line) : Reads id line (fun _ => True) (touchTest? line) := by
  unfold touchTest?
  split
  · trivial
  · rename_i hfound
    obtain ⟨previous, here, hsuf, hscan⟩ := search_eq_some hfound
    obtain ⟨hx1, hx2, hy1, hy2⟩ := touchTestAt_captures hscan
    refine (readDigits_reads (hx1.widen hsuf.isInfix)).bind fun _ _ => ?_
    refine (readDigits_reads (hx2.widen hsuf.isInfix)).bind fun _ _ => ?_
    refine (readDigits_reads (hy1.widen hsuf.isInfix)).bind fun _ _ => ?_
    exact (readDigits_reads (hy2.widen hsuf.isInfix)).bind fun _ _ => trivial

theorem rotation?_reads (line : Line) : Reads id line (fun _ => True) (rotation? line) := by
  unfold rotation?
  split
  · rename_i digits rest hfound
    obtain ⟨previous, here, hsuf, hscan⟩ := search_eq_some hfound
    unfold rotationAt at hscan
    split at hscan
    · cases hscan
    · simp only [Option.bind_eq_bind, Option.bind_eq_some_iff, Prod.exists, Option.pure_def, Option.some.injEq,
        Prod.mk.injEq] at hscan
      obtain ⟨t1, h1, t2, h2, digits', t3, h3, -, -, rfl, -⟩ := hscan
      have ht2 : t2 <:+ line := ((token?_suffix h2).trans (after?_suffix h1)).trans hsuf
      have hread := readDigits_reads ((captured h3).1.widen ht2.isInfix)
      exact Reads.map (P := fun _ => True) (hread.bind fun _ _ => trivial) fun _ _ => trivial
  · trivial

/-! ## Statements and arguments -/

theorem onFirst_stretches {c : Char} {rest : Line} {parts : List Line} (h : Stretches rest parts) :
    Stretches (c :: rest) (onFirst c parts) := by
  cases parts with
  | nil => exact Stretches.single
  | cons first more => exact h.grow

theorem segments_stretches (q : Quoting) (text : Line) : Stretches text (segments q text) := by
  induction text generalizing q with
  | nil => exact Stretches.empty
  | cons c rest ih =>
    unfold segments
    split
    · exact (ih _).cut
    · exact onFirst_stretches (ih _)

theorem statements_within {line statement : Line} (h : statement ∈ statements line) : statement <:+: line := by
  obtain ⟨part, hpart, rfl⟩ := List.mem_map.1 (List.mem_filter.1 h).1
  exact (trim_within part).trans ((segments_stretches .outside line).all part hpart)

theorem rawArguments_stretches {q : Quoting} {depth : Nat} {text : Line} {arguments : List Line}
    (h : rawArguments q depth text = some arguments) : Stretches text arguments := by
  induction text generalizing q depth arguments with
  | nil => cases h
  | cons c rest ih =>
    have hgrow : ∀ q depth, (rawArguments q depth rest).map (onFirst c) = some arguments →
        Stretches (c :: rest) arguments := by
      intro q depth h
      obtain ⟨parts, hparts, rfl⟩ := Option.map_eq_some_iff.1 h
      exact onFirst_stretches (ih hparts)
    unfold rawArguments at h
    split_ifs at h
    · exact hgrow _ _ h
    · exact hgrow _ _ h
    · split at h
      · cases h; exact Stretches.empty
      · exact hgrow _ _ h
    · obtain ⟨parts, hparts, rfl⟩ := Option.map_eq_some_iff.1 h
      exact (ih hparts).cut
    · exact hgrow _ _ h

theorem callOpening_suffix {name text rest : Line} {before : Option Char} {u : Unit}
    (h : callOpening name before text = some (u, rest)) : rest <:+ text := by
  unfold callOpening at h
  split at h
  · cases h
  · simp only [Option.bind_eq_bind, Option.bind_eq_some_iff, Option.pure_def, Option.some.injEq, Prod.mk.injEq] at h
    obtain ⟨t1, h1, t2, h2, -, rfl⟩ := h
    exact (token?_suffix h2).trans (after?_suffix h1)

theorem arguments?_within {line name : Line} {arguments : List Line} (h : arguments? line name = some arguments) :
    ∀ a ∈ arguments, a <:+: line := by
  simp only [arguments?, Option.bind_eq_bind, Option.bind_eq_some_iff, Prod.exists, Option.pure_def,
    Option.some.injEq] at h
  obtain ⟨u, rest, hfound, raw, hraw, rfl⟩ := h
  obtain ⟨previous, here, hsuf, hscan⟩ := search_eq_some hfound
  have hrest : rest <:+: line := ((callOpening_suffix hscan).trans hsuf).isInfix
  split_ifs
  · simp
  · intro a ha
    obtain ⟨part, hpart, rfl⟩ := List.mem_map.1 ha
    exact ((trim_within part).trans ((rawArguments_stretches hraw).all part hpart)).trans hrest

/-! ## Drawing calls -/

/-- the colour arguments of a drawing call -/
def Drawing.colours : Drawing → List Line
  | .fillScreen colour | .fillRect _ colour | .drawRect _ colour | .circle _ _ _ colour _ | .drawLine _ _ _ _ colour =>
    [colour]
  | .fillRoundRect _ _ colour stroke | .drawRoundRect _ _ colour stroke => colour :: stroke.toList
  | .drawString .. => []
  | .bitmap _ colour => colour.toList

/-- whether the colours of a drawing, if there is one, are stretches of a line -/
def ColoursWithin (line : Line) (found : Option Drawing) : Prop :=
  ∀ drawing ∈ found, ∀ colour ∈ drawing.colours, colour <:+: line

/-- a form answers every line, or is stopped by a run of digits that is too long -/
def Form.Sound (form : Form) : Prop := ∀ line, Reads id line (ColoursWithin line) (form line)

theorem coloursWithin_none (line : Line) : ColoursWithin line none := by
  rintro drawing ⟨⟩

theorem coloursWithin_some {line : Line} {drawing : Drawing} (h : ∀ colour ∈ drawing.colours, colour <:+: line) :
    ColoursWithin line (some drawing) := by
  rintro _ ⟨⟩
  exact h

theorem wholes_reads {line : Line} {texts : List Line} (h : ∀ text ∈ texts, text <:+: line) :
    Reads id line (fun _ => True) (wholes texts) := by
  induction texts with
  | nil => trivial
  | cons text texts ih =>
    rw [List.forall_mem_cons] at h
    refine ((wholeLiteral_reads text).within h.1).bind fun value _ => ?_
    cases value with
    | none => trivial
    | some n => exact (ih h.2).bind fun _ _ => trivial

theorem drawn_reads {line : Line} {texts : List Line} {make : List Int → Option Drawing}
    (h : ∀ text ∈ texts, text <:+: line) (hmake : ∀ values, ColoursWithin line (make values)) :
    Reads id line (ColoursWithin line) (drawn texts make) := by
  refine (wholes_reads h).bind fun values _ => ?_
  cases values with
  | none => exact coloursWithin_none line
  | some values => exact hmake values

theorem boxed_reads {line : Line} {texts : List Line} {make : Box → Drawing} (h : ∀ text ∈ texts, text <:+: line)
    (hmake : ∀ box, ∀ colour ∈ (make box).colours, colour <:+: line) :
    Reads id line (ColoursWithin line) (boxed texts make) := by
  refine drawn_reads h fun values => ?_
  split
  · exact coloursWithin_some (hmake _)
  · exact coloursWithin_none line

theorem fillScreen?_sound : Form.Sound fillScreen? := by
  intro line
  unfold fillScreen?
  split
  · rename_i colour hargs
    exact coloursWithin_some (arguments?_within hargs)
  · exact coloursWithin_none line

theorem rectangle?_sound {name : String} {make : Box → Line → Drawing}
    (hmake : ∀ box colour, (make box colour).colours = [colour]) : Form.Sound (rectangle? name make) := by
  intro line
  unfold rectangle?
  split
  · rename_i x y width height colour hargs
    have hin := arguments?_within hargs
    simp only [List.forall_mem_cons] at hin
    exact boxed_reads (by simp [hin]) (by simp [hmake, hin])
  · exact coloursWithin_none line

theorem roundRectangle?_sound {make : Box → Int → Line → Option Line → Drawing}
    (hmake : ∀ box radius colour stroke, (make box radius colour stroke).colours = colour :: stroke.toList)
    (names : List String) : Form.Sound (roundRectangle? make names) := by
  intro line
  induction names with
  | nil => exact coloursWithin_none line
  | cons name names ih =>
    unfold roundRectangle?
    dsimp only
    split
    · exact ih
    · rename_i hargs
      have hin := arguments?_within hargs
      simp only [List.forall_mem_cons] at hin
      refine drawn_reads (by simp [hin]) fun values => ?_
      split
      · exact coloursWithin_some (by simp [hmake, hin])
      · exact coloursWithin_none line
    · rename_i hargs
      have hin := arguments?_within hargs
      simp only [List.forall_mem_cons] at hin
      refine drawn_reads (by simp [hin]) fun values => ?_
      split
      · exact coloursWithin_some (by simp [hmake, hin])
      · exact coloursWithin_none line
    · exact coloursWithin_none line

theorem drawString?_sound : Form.Sound drawString? := by
  intro line
  unfold drawString?
  dsimp only
  split
  · rename_i hargs
    have hin := arguments?_within hargs
    simp only [List.forall_mem_cons] at hin
    split
    · refine drawn_reads (by simp [hin]) fun values => ?_
      split
      · exact coloursWithin_some (by simp [Drawing.colours])
      · exact coloursWithin_none line
    · exact coloursWithin_none line
  · rename_i hargs
    have hin := arguments?_within hargs
    simp only [List.forall_mem_cons] at hin
    split
    · refine drawn_reads (by simp [hin]) fun values => ?_
      split
      · exact coloursWithin_some (by simp [Drawing.colours])
      · exact coloursWithin_none line
    · exact coloursWithin_none line
  · exact coloursWithin_none line

theorem circleNamed?_sound (names : List (String × Bool)) : Form.Sound (circleNamed? names) := by
  intro line
  induction names with
  | nil => exact coloursWithin_none line
  | cons name names ih =>
    unfold circleNamed?
    dsimp only
    split
    · exact ih
    · rename_i hargs
      have hin := arguments?_within hargs
      simp only [List.forall_mem_cons] at hin
      refine drawn_reads (by simp [hin]) fun values => ?_
      split
      · exact coloursWithin_some (by simp [Drawing.colours, hin])
      · exact coloursWithin_none line
    · rename_i hargs
      have hin := arguments?_within hargs
      simp only [List.forall_mem_cons] at hin
      refine drawn_reads (by simp [hin]) fun values => ?_
      split
      · exact coloursWithin_some (by simp [Drawing.colours, hin])
      · exact coloursWithin_none line
    · exact coloursWithin_none line

theorem drawLine?_sound : Form.Sound drawLine? := by
  intro line
  unfold drawLine?
  split
  · rename_i x1 y1 x2 y2 colour hargs
    have hin := arguments?_within hargs
    simp only [List.forall_mem_cons] at hin
    refine drawn_reads (by simp [hin]) fun values => ?_
    split
    · exact coloursWithin_some (by simp [Drawing.colours, hin])
    · exact coloursWithin_none line
  · exact coloursWithin_none line

theorem bitmap?_sound : Form.Sound bitmap? := by
  intro line
  unfold bitmap?
  split
  · rename_i x y data width height more hargs
    have hin := arguments?_within hargs
    simp only [List.forall_mem_cons] at hin
    refine boxed_reads (by simp [hin]) fun box colour hc => ?_
    exact hin.2.2.2.2.2 colour (List.mem_of_head? (Option.mem_toList.1 hc))
  · exact coloursWithin_none line
  · split
    · rename_i hargs
      have hin := arguments?_within hargs
      simp only [List.forall_mem_cons] at hin
      exact boxed_reads (by simp [hin]) (by simp [Drawing.colours])
    · exact coloursWithin_none line

theorem firstOf_sound {forms : List Form} (h : ∀ form ∈ forms, Form.Sound form) : Form.Sound (firstOf forms) := by
  intro line
  induction forms with
  | nil => exact coloursWithin_none line
  | cons form forms ih =>
    rw [List.forall_mem_cons] at h
    refine (h.1 line).bind fun found hfound => ?_
    cases found with
    | none => exact ih h.2
    | some drawing => exact hfound

/-- the drawing on a line is found, or not there, unless too long a run of digits stops the reading -/
theorem drawing?_reads (line : Line) : Reads id line (ColoursWithin line) (drawing? line) := by
  refine firstOf_sound (fun form hform => ?_) line
  simp only [forms, List.mem_cons, List.not_mem_nil, or_false] at hform
  rcases hform with rfl | rfl | rfl | rfl | rfl | rfl | rfl | rfl | rfl
  · exact fillScreen?_sound
  · exact rectangle?_sound fun _ _ => rfl
  · exact roundRectangle?_sound (fun _ _ _ _ => rfl) _
  · exact drawString?_sound
  · exact rectangle?_sound fun _ _ => rfl
  · exact roundRectangle?_sound (fun _ _ _ _ => rfl) _
  · exact circleNamed?_sound _
  · exact drawLine?_sound
  · exact bitmap?_sound

end SketchPanel.Sketch

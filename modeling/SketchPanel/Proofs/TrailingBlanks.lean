/-
Blanks at the ends of a text. Two texts that differ in the blanks at their ends are the same up to the last character
that is no blank, and a scanner that asks for no blank last reads the same from both and leaves texts that differ in
that way again. So such texts can be followed side by side through any number of scanners. A scanner that also starts
with no blank, and takes a blank before it for the start of the line, finds the same in a line as in the trimmed line.

Results:
- `trim_margins`, `trim_trim`: blanks around a text are trimmed off, once and for all.
- `Alike.split`: up to a character that is no blank, texts that are alike are the same.
- `Alike.after?`, `Alike.token?`, `Alike.run?`, `Alike.blanks?`, `Alike.dropWhile`: one scanner at a time.
- `Tight.search_trim`: a search finds the same in a line and in the trimmed line.
-/
import Mathlib.Tactic
import SketchPanel.Proofs.Scanning

namespace SketchPanel.Text

/-! ## Trimming -/

section Trimming

variable {text left right front back blanks : List Char} {c : Char}

theorem trimEnd_blanks (hb : ∀ c ∈ blanks, isBlank c = true) : trimEnd (text ++ blanks) = trimEnd text := by
  rw [trimEnd, trimEnd, List.reverse_append, List.dropWhile_append_of_pos fun c hc => hb c (List.mem_reverse.1 hc)]

theorem trimEnd_solid (hc : isBlank c = false) : trimEnd (front ++ c :: back) = front ++ c :: trimEnd back := by
  induction back using List.reverseRecOn with
  | nil => simp [trimEnd, hc]
  | append_singleton back d ih =>
    cases hd : isBlank d with
    | true =>
      have hblank : ∀ e ∈ [d], isBlank e = true := by simpa using hd
      rw [trimEnd_blanks hblank, ← ih, ← List.cons_append, ← List.append_assoc, trimEnd_blanks hblank]
    | false => simp [trimEnd, hd]

theorem exists_trimEnd (text : List Char) :
    ∃ blanks, (∀ c ∈ blanks, isBlank c = true) ∧ text = trimEnd text ++ blanks := by
  refine ⟨(text.reverse.takeWhile isBlank).reverse, fun c hc => List.mem_takeWhile_imp (List.mem_reverse.1 hc), ?_⟩
  rw [trimEnd, ← List.reverse_append, List.takeWhile_append_dropWhile, List.reverse_reverse]

theorem trimEnd_eq_nil_iff : trimEnd text = [] ↔ ∀ c ∈ text, isBlank c = true := by
  rw [trimEnd, List.reverse_eq_nil_iff, List.dropWhile_eq_nil_iff]
  simp

/-- a text is blank, or blanks stand before its first character that is none -/
theorem blank_or_solid (text : List Char) : (∀ c ∈ text, isBlank c = true) ∨
    ∃ blanks c rest, (∀ b ∈ blanks, isBlank b = true) ∧ isBlank c = false ∧ text = blanks ++ c :: rest := by
  have hsplit := (List.takeWhile_append_dropWhile (p := isBlank) (l := text)).symm
  cases hrest : text.dropWhile isBlank with
  | nil => exact Or.inl (List.dropWhile_eq_nil_iff.1 hrest)
  | cons c rest =>
    refine Or.inr ⟨text.takeWhile isBlank, c, rest, fun b hb => List.mem_takeWhile_imp hb, ?_, by rwa [hrest] at hsplit⟩
    exact not_head_dropWhile isBlank text c (by rw [hrest]; rfl)

theorem trimStart_solid (hb : ∀ b ∈ blanks, isBlank b = true) (hc : isBlank c = false) :
    trimStart (blanks ++ c :: back) = c :: back :=
  trimStart_blanks hb (by simpa using hc)

/-- blanks around a text are trimmed off it -/
theorem trim_margins (hl : ∀ c ∈ left, isBlank c = true) (hr : ∀ c ∈ right, isBlank c = true) :
    trim (left ++ text ++ right) = trim text := by
  rcases blank_or_solid text with htext | ⟨blanks, c, rest, hblanks, hc, rfl⟩
  · have hblank : ∀ c ∈ left ++ text ++ right, isBlank c = true := by
      simp only [List.mem_append]
      rintro c ((hmem | hmem) | hmem)
      · exact hl c hmem
      · exact htext c hmem
      · exact hr c hmem
    rw [trim, trim, trimStart, trimStart, List.dropWhile_eq_nil_iff.2 hblank, List.dropWhile_eq_nil_iff.2 htext]
  · have hleft : ∀ b ∈ left ++ blanks, isBlank b = true := by
      simp only [List.mem_append]
      rintro b (hmem | hmem)
      · exact hl b hmem
      · exact hblanks b hmem
    have hassoc : left ++ (blanks ++ c :: rest) ++ right = (left ++ blanks) ++ c :: (rest ++ right) := by simp
    rw [trim, trim, hassoc, trimStart_solid hleft hc, trimStart_solid hblanks hc, ← List.cons_append, trimEnd_blanks hr]

@[simp] theorem trim_trim (text : List Char) : trim (trim text) = trim text := by
  obtain ⟨left, right, hl, hr, h⟩ := exists_trim text
  have hmargins : trim (left ++ trim text ++ right) = trim (trim text) := trim_margins hl hr
  rw [← h] at hmargins
  exact hmargins.symm

end Trimming

/-! ## Texts that differ in the blanks at their ends -/

/-- whether a text ends with no blank -/
def endsSolid (text : List Char) : Bool := text.getLast?.all fun c => !isBlank c

theorem endsSolid_iff {text : List Char} : endsSolid text = true ↔ ∀ c ∈ text.getLast?, isBlank c = false := by
  rw [endsSolid]
  cases text.getLast? <;> simp

/-- the same text but for the blanks at its end -/
def Alike (text other : List Char) : Prop := trimEnd text = trimEnd other

namespace Alike

variable {text other front back rest run literal : List Char} {c : Char} {such : Char → Bool}

theorem symm (h : Alike text other) : Alike other text := Eq.symm h

theorem of_blanks {blanks : List Char} (hb : ∀ c ∈ blanks, isBlank c = true) : Alike (text ++ blanks) text :=
  trimEnd_blanks hb

/-- **Alike up to the last solid character.** Up to a character that is no blank, texts that are alike are the same. -/
theorem split (h : Alike (front ++ c :: back) other) (hc : isBlank c = false) :
    ∃ back', other = front ++ c :: back' ∧ Alike back back' := by
  obtain ⟨blanks, hblanks, hother⟩ := exists_trimEnd other
  have hfront : other = front ++ c :: (trimEnd back ++ blanks) := by
    rw [hother, ← show trimEnd (front ++ c :: back) = trimEnd other from h, trimEnd_solid hc]
    simp
  refine ⟨trimEnd back ++ blanks, hfront, ?_⟩
  have hboth : front ++ c :: trimEnd back = front ++ c :: trimEnd (trimEnd back ++ blanks) := by
    rw [← trimEnd_solid hc, ← trimEnd_solid hc, ← hfront]
    exact h
  exact List.cons_injective (List.append_cancel_left hboth)

theorem split_head (h : Alike (c :: back) other) (hc : isBlank c = false) :
    ∃ back', other = c :: back' ∧ Alike back back' := by
  rw [← List.nil_append (c :: back)] at h
  exact h.split hc

/-- after a part that ends with no blank, texts that are alike are alike -/
theorem split_part (h : Alike (front ++ back) other) (hf : ∀ c ∈ front.getLast?, isBlank c = false) :
    ∃ back', other = front ++ back' ∧ Alike back back' := by
  rcases List.eq_nil_or_concat' front with rfl | ⟨init, c, rfl⟩
  · exact ⟨other, rfl, h⟩
  · rw [List.append_assoc, List.singleton_append] at h
    obtain ⟨back', hother, hback⟩ := h.split (hf c (by simp))
    exact ⟨back', by simpa using hother, hback⟩

theorem blank (h : Alike text other) (hb : ∀ c ∈ text, isBlank c = true) : ∀ c ∈ other, isBlank c = true :=
  trimEnd_eq_nil_iff.1 (h.symm.trans (trimEnd_eq_nil_iff.2 hb))

theorem cons (h : Alike text other) (c : Char) : Alike (c :: text) (c :: other) := by
  rcases blank_or_solid text with htext | ⟨blanks, d, rest, -, hd, rfl⟩
  · -- nothing solid follows, so the blanks behind the character count for nothing
    rw [Alike, ← List.singleton_append, ← List.singleton_append (l := other), trimEnd_blanks htext,
      trimEnd_blanks (h.blank htext)]
  · obtain ⟨rest', rfl, hrest⟩ := h.split hd
    rw [Alike, ← List.cons_append, ← List.cons_append, trimEnd_solid hd, trimEnd_solid hd,
      show trimEnd rest = trimEnd rest' from hrest]

theorem append_left (h : Alike text other) (front : List Char) : Alike (front ++ text) (front ++ other) := by
  induction front with
  | nil => exact h
  | cons c front ih => exact ih.cons c

theorem trimStart (h : Alike text other) : Alike (trimStart text) (trimStart other) := by
  rcases blank_or_solid text with htext | ⟨blanks, c, rest, hblanks, hc, rfl⟩
  · rw [Text.trimStart, Text.trimStart, List.dropWhile_eq_nil_iff.2 htext, List.dropWhile_eq_nil_iff.2 (h.blank htext)]
    rfl
  · obtain ⟨rest', rfl, hrest⟩ := h.split hc
    rw [trimStart_solid hblanks hc, trimStart_solid hblanks hc]
    exact hrest.cons c

theorem trim (h : Alike text other) : trim text = trim other := h.trimStart

theorem after? (h : Alike text other) (hl : endsSolid literal = true)
    (hr : Text.after? literal text = some rest) : ∃ rest', Text.after? literal other = some rest' ∧ Alike rest rest' := by
  rw [after?_eq_some_iff] at hr
  subst hr
  obtain ⟨rest', rfl, hrest⟩ := h.split_part (endsSolid_iff.1 hl)
  exact ⟨rest', after?_append literal rest', hrest⟩

theorem token? (h : Alike text other) (hl : endsSolid literal = true)
    (hr : Text.token? literal text = some rest) : ∃ rest', Text.token? literal other = some rest' ∧ Alike rest rest' :=
  h.trimStart.after? hl hr

/-- a run without blanks is followed by no more of its kind in the other text either -/
theorem run? (h : Alike text other) (hsuch : ∀ c, isBlank c = true → such c = false)
    (hr : Text.run? such text = some (run, rest)) :
    ∃ rest', Text.run? such other = some (run, rest') ∧ Alike rest rest' := by
  obtain ⟨rfl, hne, hrun, hstop⟩ := run?_eq_some_iff.1 hr
  have hsolid : ∀ c, such c = true → isBlank c = false := by
    intro c hc
    by_contra hblank
    rw [hsuch c (by simpa using hblank)] at hc
    cases hc
  obtain ⟨rest', rfl, hrest⟩ := h.split_part fun c hc => hsolid c (hrun c (List.mem_of_mem_getLast? hc))
  refine ⟨rest', run?_eq_some_iff.2 ⟨rfl, hne, hrun, fun d hd => ?_⟩, hrest⟩
  by_contra hmore
  rw [Bool.not_eq_false] at hmore
  obtain ⟨tail, rfl⟩ := List.head?_eq_some_iff.1 hd
  obtain ⟨tail', rfl, -⟩ := hrest.symm.split_head (hsolid d hmore)
  rw [hstop d rfl] at hmore
  cases hmore

/-- blanks are read in both texts, unless nothing follows them -/
theorem blanks? (h : Alike text other) (hr : Text.blanks? text = some rest) (hrest : rest ≠ []) :
    ∃ rest', Text.blanks? other = some rest' ∧ Alike rest rest' := by
  obtain ⟨⟨run, rest⟩, hrun, rfl⟩ := Option.map_eq_some_iff.1 hr
  obtain ⟨rfl, hne, hblanks, hstop⟩ := run?_eq_some_iff.1 hrun
  obtain ⟨d, tail, rfl⟩ := List.exists_cons_of_ne_nil hrest
  obtain ⟨tail', rfl, htail⟩ := h.split (hstop d rfl)
  refine ⟨d :: tail', ?_, htail.cons d⟩
  rw [Text.blanks?, run?_eq_some_iff.2 ⟨rfl, hne, hblanks, by simpa using hstop d rfl⟩]
  rfl

/-- what stands before the first character of a kind is the same, if the kind has no blanks -/
theorem dropWhile {stop : Char} (h : Alike text other) (hs : isBlank stop = false)
    (hstop : such stop = false) (hr : text.dropWhile such = stop :: rest) :
    ∃ rest', other.dropWhile such = stop :: rest' ∧ other.takeWhile such = text.takeWhile such ∧ Alike rest rest' := by
  have htext := (List.takeWhile_append_dropWhile (p := such) (l := text)).symm
  rw [hr] at htext
  rw [htext] at h
  obtain ⟨rest', hother, hrest⟩ := h.split hs
  have hbefore : ∀ c ∈ text.takeWhile such, such c = true := fun c hc => List.mem_takeWhile_imp hc
  refine ⟨rest', ?_, ?_, hrest⟩
  · rw [hother, dropWhile_run hbefore (by simpa using hstop)]
  · rw [hother, takeWhile_run hbefore (by simpa using hstop)]

end Alike

/-- texts that are alike one by one are the same once they are trimmed -/
theorem map_trim_alike {pieces others : List (List Char)} (h : List.Forall₂ Alike pieces others) :
    pieces.map trim = others.map trim := by
  induction h with
  | nil => rfl
  | cons hfirst _ ih => rw [List.map_cons, List.map_cons, hfirst.trim, ih]

/-! ## Scanners -/

section Scanners

variable {α : Type}

/-- a scanner that reads the same from texts that are alike, and leaves texts that are alike -/
def Steady (scan : List Char → Option (α × List Char)) : Prop :=
  ∀ ⦃text other⦄, Alike text other → ∀ ⦃a rest⦄, scan text = some (a, rest) →
    ∃ rest', scan other = some (a, rest') ∧ Alike rest rest'

theorem Steady.eq_none {scan : List Char → Option (α × List Char)} (hs : Steady scan) {text other : List Char}
    (h : Alike text other) (hnone : scan text = none) : scan other = none := by
  by_contra hsome
  obtain ⟨⟨a, rest⟩, hscan⟩ := Option.ne_none_iff_exists'.1 hsome
  obtain ⟨rest', hscan', -⟩ := hs h.symm hscan
  rw [hnone] at hscan'
  cases hscan'

theorem Steady.map_fst {scan : List Char → Option (α × List Char)} (hs : Steady scan) {text other : List Char}
    (h : Alike text other) : (scan text).map Prod.fst = (scan other).map Prod.fst := by
  cases hscan : scan text with
  | none => rw [hs.eq_none h hscan]
  | some found =>
    obtain ⟨rest', hscan', -⟩ := hs h hscan
    rw [hscan']
    rfl

/-- what is found first among several readings is found in readings that follow them -/
theorem findSome?_follows {ι β : Type} {related : β → β → Prop} {x y : ι → Option β} {choices : List ι}
    (hsome : ∀ i ∈ choices, ∀ b, x i = some b → ∃ b', y i = some b' ∧ related b b')
    (hnone : ∀ i ∈ choices, x i = none → y i = none) {b : β} (hfound : choices.findSome? x = some b) :
    ∃ b', choices.findSome? y = some b' ∧ related b b' := by
  induction choices with
  | nil => cases hfound
  | cons i choices ih =>
    rw [List.forall_mem_cons] at hsome hnone
    rw [List.findSome?_cons] at hfound ⊢
    cases hx : x i with
    | none =>
      rw [hx] at hfound
      rw [hnone.1 hx]
      exact ih hsome.2 hnone.2 hfound
    | some found =>
      rw [hx] at hfound
      obtain rfl : found = b := Option.some.inj hfound
      obtain ⟨b', hy, hb⟩ := hsome.1 found hx
      exact ⟨b', by rw [hy], hb⟩

/-- a scanner for the middle of a line: it starts with no blank, takes a blank before it for the start of the line, and is
steady -/
structure Tight (scan : Option Char → List Char → Option (α × List Char)) : Prop where
  solid : ∀ {before text found}, scan before text = some found → ∃ c rest, text = c :: rest ∧ isBlank c = false
  edge : ∀ {c}, isBlank c = true → scan (some c) = scan none
  steady : ∀ before, Steady (scan before)

namespace Tight

variable {scan : Option Char → List Char → Option (α × List Char)}

theorem search_steady (hs : Tight scan) (before : Option Char) : Steady (search scan before) := by
  intro text other h a rest hfound
  induction text generalizing before other with
  | nil =>
    obtain ⟨c, rest, e, -⟩ := hs.solid (show scan before [] = some (a, rest) from hfound)
    cases e
  | cons c text ih =>
    unfold search at hfound
    cases hscan : scan before (c :: text) with
    | some found =>
      rw [hscan] at hfound
      obtain rfl : found = (a, rest) := Option.some.inj hfound
      obtain ⟨rest', hscan', hrest⟩ := hs.steady before h hscan
      exact ⟨rest', search_of_scan hscan', hrest⟩
    | none =>
      rw [hscan] at hfound
      -- something solid stands where the scanner succeeds, and the texts are the same up to there
      obtain ⟨previous, here, ⟨front, rfl⟩, hhere⟩ := search_eq_some hfound
      obtain ⟨d, tail, rfl, hd⟩ := hs.solid hhere
      rw [← List.cons_append] at h
      obtain ⟨tail', rfl, htail⟩ := h.split hd
      have hrest : Alike (front ++ d :: tail) (front ++ d :: tail') := (htail.cons d).append_left front
      obtain ⟨rest', hsearch, hrest'⟩ := ih (some c) hrest hfound
      refine ⟨rest', ?_, hrest'⟩
      rw [List.cons_append, search, ← List.cons_append, hs.steady before |>.eq_none h hscan]
      exact hsearch

/-- a search passes over blanks -/
theorem search_blanks (hs : Tight scan) {blanks : List Char} (hb : ∀ c ∈ blanks, isBlank c = true) (text : List Char) :
    search scan none (blanks ++ text) = search scan none text := by
  rw [search_append blanks none]
  · cases hlast : blanks.getLast? with
    | none => rfl
    | some c =>
      have hedge : scan (some c) = scan none := hs.edge (hb c (List.mem_of_mem_getLast? hlast))
      cases text <;> simp only [Option.or, search, hedge]
  · intro c here hsuffix previous
    by_contra hsome
    obtain ⟨found, hscan⟩ := Option.ne_none_iff_exists'.1 hsome
    obtain ⟨d, rest, e, hd⟩ := hs.solid hscan
    obtain ⟨rfl, -⟩ := List.cons.inj e
    rw [hb c (hsuffix.subset List.mem_cons_self)] at hd
    cases hd

/-- a search finds the same in a line and in the trimmed line -/
theorem search_trim (hs : Tight scan) (line : List Char) :
    (search scan none (trim line)).map Prod.fst = (search scan none line).map Prod.fst := by
  obtain ⟨left, right, hleft, hright, h⟩ := exists_trim line
  conv_rhs => rw [h, List.append_assoc, hs.search_blanks hleft]
  exact (hs.search_steady none).map_fst (Alike.of_blanks hright).symm

end Tight

end Scanners

end SketchPanel.Text

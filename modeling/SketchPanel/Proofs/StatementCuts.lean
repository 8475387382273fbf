/-
Statements cut out of a line. A scan follows a line and knows whether it stands in a literal; a semicolon cuts where the
scan stands outside. Behind a cut the scan stands outside again, as at the start of a line, so every segment is scanned
as if it were a line of its own. That is why a statement is its own only statement, and why statements put on a line
again, with semicolons between them, are cut out of it again.

Results:
- `unmarked_cons`: where no mark counts, character by character.
- `segments_eq_iff`: the segments of a line are the only way to cut it.
- `statements_uncut`, `statements_join`: what is cut out of one segment, and out of segments put on a line.
- `statements_recut`: the statements of a line are those of its segments that are not blank; each is its own only
  statement, and put on a line they are found again.
Witness:
- `recut_unended`: a semicolon in a literal, an empty segment, and a literal without an end behind an escaped quote.
-/
import Mathlib.Tactic
import SketchPanel.Proofs.StatementLayout

namespace SketchPanel.Sketch

open SketchPanel.Text

/-! ## Marks -/

section Marks

variable {σ : Type} {step : σ → Char → σ} {top state : σ} {marks : List Char} {c : Char} {rest : Line}

/-- whether no mark of a text counts: followed from a state on, the scan stands elsewhere than at the top at each of them -/
def Unmarked (step : σ → Char → σ) (top : σ) (marks : List Char) (state : σ) (text : Line) : Prop :=
  ∀ front c back, text = front ++ c :: back → front.foldl step state = top → c ∉ marks

theorem unmarked_nil : Unmarked step top marks state [] := by
  intro front c back h
  simp at h

theorem unmarked_cons : Unmarked step top marks state (c :: rest) ↔
    (state = top → c ∉ marks) ∧ Unmarked step top marks (step state c) rest := by
  constructor
  · intro h
    exact ⟨fun htop => h [] c rest rfl htop, fun front d back e => h (c :: front) d back (by rw [e]; rfl)⟩
  · rintro ⟨hfirst, hrest⟩ front d back h
    cases front with
    | nil =>
      obtain ⟨rfl, rfl⟩ := List.cons.inj h
      exact hfirst
    | cons e front =>
      obtain ⟨rfl, rfl⟩ := List.cons.inj h
      exact hrest front d back rfl

theorem unmarked_append {front back : Line} : Unmarked step top marks state (front ++ back) ↔
    Unmarked step top marks state front ∧ Unmarked step top marks (front.foldl step state) back := by
  induction front generalizing state with
  | nil => simp [unmarked_nil]
  | cons c front ih => rw [List.cons_append, unmarked_cons, unmarked_cons, ih, and_assoc, List.foldl_cons]

end Marks

/-! ## Segments -/

/-- whether the scan stands outside literals at the end of a text -/
def EndsOutside (text : Line) : Prop := text.foldl Quoting.step .outside = .outside

/-- whether all semicolons of a text stand in literals -/
def Uncut (text : Line) : Prop := Unmarked Quoting.step .outside [';'] .outside text

/-- whether parts are the segments of a line: with semicolons between them they are the line, none of these semicolons
stands in a literal, and all others do -/
structure Segmented (line : Line) (parts : List Line) : Prop where
  nonempty : parts ≠ []
  joined : join [';'] parts = line
  ends : ∀ part ∈ parts.dropLast, EndsOutside part
  uncut : ∀ part ∈ parts, Uncut part

section Segments

variable {q : Quoting} {c : Char} {line part rest first : Line} {parts more : List Line}

theorem join_cons (separator : Line) (h : more ≠ []) :
    join separator (first :: more) = first ++ separator ++ join separator more := by
  obtain ⟨next, others, rfl⟩ := List.exists_cons_of_ne_nil h
  rfl

theorem segments_of_unmarked (h : Unmarked Quoting.step .outside [';'] q part) : segments q part = [part] := by
  induction part generalizing q with
  | nil => rfl
  | cons c rest ih =>
    obtain ⟨hfirst, hrest⟩ := unmarked_cons.1 h
    have hplain : ¬ (q = .outside ∧ c = ';') := fun hcut => hfirst hcut.1 (by simp [hcut.2])
    rw [segments, if_neg hplain, ih hrest]
    rfl

/-- a line that is cut in some way has these parts as its segments -/
theorem Segmented.segments_eq (h : Segmented line parts) : segments .outside line = parts := by
  obtain ⟨hne, rfl, hends, huncut⟩ := h
  induction parts with
  | nil => exact absurd rfl hne
  | cons first more ih =>
    rw [List.forall_mem_cons] at huncut
    cases more with
    | nil => exact segments_of_unmarked huncut.1
    | cons next others =>
      rw [List.dropLast_cons_of_ne_nil (List.cons_ne_nil _ _), List.forall_mem_cons] at hends
      have hrest := ih (List.cons_ne_nil _ _) hends.2 huncut.2
      rw [join_cons _ (List.cons_ne_nil _ _), List.append_assoc, List.singleton_append, segments_split hends.1, hrest,
        segments_of_unmarked huncut.1, List.singleton_append]

theorem Segmented.single (h : Uncut part) : Segmented part [part] :=
  ⟨List.cons_ne_nil _ _, rfl, by simp, by simpa using h⟩

theorem Segmented.cons (hends : EndsOutside first) (huncut : Uncut first) (h : Segmented rest more) :
    Segmented (first ++ ';' :: rest) (first :: more) where
  nonempty := List.cons_ne_nil _ _
  joined := by rw [join_cons _ h.nonempty, h.joined, List.append_assoc, List.singleton_append]
  ends := by
    rw [List.dropLast_cons_of_ne_nil h.nonempty]
    exact List.forall_mem_cons.2 ⟨hends, h.ends⟩
  uncut := List.forall_mem_cons.2 ⟨huncut, h.uncut⟩

/-- a text whose scan begins in some state: its first segment, and the segments of the line behind it, if there is one -/
structure CutAfter (q : Quoting) (text first : Line) (more : List Line) : Prop where
  uncut : Unmarked Quoting.step .outside [';'] q first
  rest : more = [] ∧ text = first ∨
    first.foldl Quoting.step q = .outside ∧ ∃ rest, Segmented rest more ∧ text = first ++ ';' :: rest

theorem CutAfter.segmented (h : CutAfter .outside line first more) : Segmented line (first :: more) := by
  rcases h.rest with ⟨rfl, rfl⟩ | ⟨hends, rest, hrest, rfl⟩
  · exact .single h.uncut
  · exact .cons hends h.uncut hrest

theorem CutAfter.grow (hplain : ¬ (q = .outside ∧ c = ';')) (h : CutAfter (q.step c) rest first more) :
    CutAfter q (c :: rest) (c :: first) more where
  uncut := unmarked_cons.2 ⟨fun hq hc => hplain ⟨hq, List.mem_singleton.1 hc⟩, h.uncut⟩
  rest := by
    rcases h.rest with ⟨rfl, rfl⟩ | ⟨hends, others, hothers, rfl⟩
    · exact Or.inl ⟨rfl, rfl⟩
    · exact Or.inr ⟨hends, others, hothers, rfl⟩

/-- the state in which the scan begins counts for the first segment alone -/
theorem segments_cut (q : Quoting) (text : Line) :
    ∃ first more, segments q text = first :: more ∧ CutAfter q text first more := by
  induction text generalizing q with
  | nil => exact ⟨[], [], rfl, unmarked_nil, Or.inl ⟨rfl, rfl⟩⟩
  | cons c rest ih =>
    rw [segments]
    split_ifs with hcut
    · -- the segment ends here, and the rest is a line of its own
      obtain ⟨rfl, rfl⟩ := hcut
      obtain ⟨first, more, hsegments, hrest⟩ := ih .outside
      exact ⟨[], first :: more, by rw [hsegments], unmarked_nil, Or.inr ⟨rfl, rest, hrest.segmented, rfl⟩⟩
    · obtain ⟨first, more, hsegments, hrest⟩ := ih (q.step c)
      exact ⟨c :: first, more, by rw [hsegments]; rfl, hrest.grow hcut⟩

/-- **Segments.** They are the only way to cut a line at semicolons outside literals. -/
theorem segments_eq_iff : segments .outside line = parts ↔ Segmented line parts := by
  refine ⟨?_, Segmented.segments_eq⟩
  rintro rfl
  obtain ⟨first, more, hsegments, hcut⟩ := segments_cut .outside line
  rw [hsegments]
  exact hcut.segmented

end Segments

/-! ## Statements -/

section Statements

variable {part first rest gap : Line} {parts : List Line}

/-- parts without blanks at their ends, blank ones left out -/
def unblank (parts : List Line) : List Line := (parts.map trim).filter (· ≠ [])

theorem unblank_cons (first : Line) (more : List Line) :
    unblank (first :: more) = unblank [first] ++ unblank more := by
  rw [unblank, unblank, unblank, List.map_cons, List.map_singleton, ← List.filter_append]
  rfl

theorem unblank_blank (h : trim part = []) : unblank [part] = [] := by simp [unblank, h]

theorem unblank_solid (h : trim part ≠ []) : unblank [part] = [trim part] := by simp [unblank, h]

/-- a segment has one statement, or none if it is blank -/
theorem statements_uncut (h : Uncut part) : statements part = unblank [part] := by
  rw [statements, segments_of_unmarked h]
  rfl

/-- a blank keeps the scan where it is, if that is outside afterwards -/
theorem outside_of_blank {q : Quoting} {c : Char} (hc : isBlank c = true) (h : q.step c = .outside) : q = .outside := by
  cases q with
  | outside => rfl
  | inside =>
    have hquote : c ≠ '"' := by
      rintro rfl
      exact absurd hc (by decide)
    simp only [Quoting.step, if_neg hquote] at h
    split_ifs at h
  | escaped => cases h

theorem outside_of_blanks {q : Quoting} {blanks : Line} (hb : ∀ c ∈ blanks, isBlank c = true)
    (h : blanks.foldl Quoting.step q = .outside) : q = .outside := by
  induction blanks generalizing q with
  | nil => exact h
  | cons c blanks ih =>
    rw [List.forall_mem_cons] at hb
    exact outside_of_blank hb.1 (ih hb.2 h)

/-- blanks at its ends do not change where the scan of a text ends -/
theorem EndsOutside.trim (h : EndsOutside part) : EndsOutside (trim part) := by
  obtain ⟨left, right, hl, hr, hpart⟩ := exists_trim part
  have hscan : right.foldl Quoting.step ((Text.trim part).foldl Quoting.step .outside) = .outside := by
    rwa [EndsOutside, hpart, List.foldl_append, List.foldl_append, foldl_step_blanks hl] at h
  exact outside_of_blanks hr hscan

/-- **Put on a line again.** Segments that are not blank, with a semicolon and blanks between them, are cut again. -/
theorem statements_join (hgap : ∀ c ∈ gap, isBlank c = true) (hends : ∀ part ∈ parts.dropLast, EndsOutside part)
    (huncut : ∀ part ∈ parts, Uncut part) :
    statements (join (';' :: gap) (unblank parts)) = unblank parts := by
  induction parts with
  | nil => rfl
  | cons first more ih =>
    rw [List.forall_mem_cons] at huncut
    have hfirst : statements (Text.trim first) = unblank [first] := by
      rw [statements_trim, statements_uncut huncut.1]
    have hrest := ih (fun part hpart => hends part ?_) huncut.2
    · rw [unblank_cons]
      by_cases hblank : Text.trim first = []
      · rwa [unblank_blank hblank, List.nil_append]
      rw [unblank_solid hblank] at hfirst ⊢
      by_cases hnone : unblank more = []
      · rw [hnone, List.append_nil, join, hfirst]
      · -- something follows, so the segment is not the last one and ends outside
        have hmore : more ≠ [] := by
          rintro rfl
          exact hnone rfl
        rw [List.dropLast_cons_of_ne_nil hmore, List.forall_mem_cons] at hends
        have hbehind : statements (gap ++ join (';' :: gap) (unblank more) ++ []) = unblank more := by
          rw [statements_margins hgap (by simp), hrest]
        rw [List.append_nil] at hbehind
        rw [List.singleton_append, join_cons _ hnone, List.append_assoc, List.cons_append,
          statements_split hends.1.trim, hfirst, hbehind]
        rfl
    · cases more with
      | nil => cases hpart
      | cons next others => exact List.mem_cons_of_mem _ hpart

/-- **Statements of a line.** There is one way to cut a line at the semicolons outside literals, and its statements are the
parts without the blanks at their ends, blank ones left out. Every statement is its own only statement, and the statements
put on a line again, with a semicolon and any blanks between them, are the statements of that line. -/
theorem statements_recut (line : Line) :
    (∃ parts, (∀ other, Segmented line other ↔ other = parts) ∧ statements line = (parts.map trim).filter (· ≠ [])) ∧
      (∀ s ∈ statements line, statements s = [s]) ∧
      ∀ gap, (∀ c ∈ gap, isBlank c = true) → statements (join (';' :: gap) (statements line)) = statements line := by
  have hcut : Segmented line (segments .outside line) := segments_eq_iff.1 rfl
  refine ⟨⟨segments .outside line, fun other => ?_, rfl⟩, fun s hs => ?_, fun gap hgap => ?_⟩
  · rw [← segments_eq_iff, eq_comm]
  · obtain ⟨hs, hsolid⟩ := List.mem_filter.1 hs
    obtain ⟨part, hpart, rfl⟩ := List.mem_map.1 hs
    rw [statements_trim, statements_uncut (hcut.uncut part hpart), unblank_solid (by simpa using hsolid)]
  · exact statements_join hgap hcut.ends hcut.uncut

end Statements

/-- a semicolon in a literal, an empty segment, and a literal that goes on behind an escaped quote and does not end -/
def unended : Line := " f(\"a;b\") ;; g(\"c\\\";d ".toList

theorem recut_unended :
    statements unended = ["f(\"a;b\")".toList, "g(\"c\\\";d".toList] ∧
      (∀ s ∈ statements unended, statements s = [s]) ∧
      statements (join [';', ' '] (statements unended)) = statements unended := by
  obtain ⟨-, halone, hagain⟩ := statements_recut unended
  exact ⟨by decide +kernel, halone, hagain [' '] (by simp [isBlank_space])⟩

end SketchPanel.Sketch

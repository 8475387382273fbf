/-
Places where functions are called. What opens a call is a word, blanks and a bracket; so it does not reach across any other
character, and what is called in a text with such a character in it is called on one side of the character. On the right
side a call opens as it would at the start of a text.

Results:
- `Opens.stays`: what opens in front of such a character opens without what follows.
- `calledIn_beside`: what is called in a text, on either side of such a character.
- `calledIn_single`: a text with one bracket calls the function whose name stands before it, and no other.
- `FirstCall.behind`: the first call behind such a character, if the function is not called before.
-/
import Mathlib.Tactic
import SketchPanel.Proofs.CallArguments

namespace SketchPanel.Sketch

open SketchPanel.Text

/-- whether a function is called somewhere in a text -/
def CalledIn (name text : Line) : Prop :=
  ∃ front here rest, text = front ++ here ∧ Opens name front.getLast? here rest

/-- a search that finds nothing finds nothing at any place -/
theorem scan_of_search_none {α : Type} {scan : Option Char → List Char → Option (α × List Char)} {before : Option Char}
    {front here : List Char} (h : search scan before (front ++ here) = none) :
    scan (front.getLast?.or before) here = none := by
  induction front generalizing before with
  | nil =>
    rw [Option.eq_none_iff_forall_ne_some]
    intro found hscan
    have hfound := search_of_scan hscan
    rw [List.getLast?_nil, Option.none_or] at hfound
    rw [List.nil_append, hfound] at h
    cases h
  | cons c front ih =>
    rw [List.cons_append, search] at h
    split at h
    · cases h
    · rw [getLast?_cons_or]
      exact ih h

theorem calledIn_iff {name text : Line} : CalledIn name text ↔ search (callOpening name) none text ≠ none := by
  constructor
  · rintro ⟨front, here, rest, rfl, hopens⟩ hnone
    have hscan := scan_of_search_none hnone
    rw [Option.or_none, callOpening_eq_none_iff] at hscan
    exact hscan rest hopens
  · intro h
    obtain ⟨⟨⟨⟩, rest⟩, hfound⟩ := Option.ne_none_iff_exists'.1 h
    obtain ⟨front, here, rfl, hopens, -⟩ := search_callOpening_iff.1 hfound
    exact ⟨front, here, rest, rfl, hopens⟩

instance (name text : Line) : Decidable (CalledIn name text) := decidable_of_iff _ calledIn_iff.symm

/-- whether nothing that opens a call reaches across a character -/
structure Severs (c : Char) : Prop where
  word : isWord c = false
  blank : isBlank c = false
  bracket : c ≠ '('

section Places

variable {name text rest front back blanks word : Line} {before : Option Char} {c : Char}

/-- a text with a character in it, cut somewhere: before the character or behind it -/
theorem cut_beside {first second : Line} (h : first ++ c :: second = front ++ back) :
    (∃ part, first = front ++ part ∧ back = part ++ c :: second) ∨
      ∃ part, front = first ++ c :: part ∧ second = part ++ back := by
  rcases List.append_eq_append_iff.1 h with ⟨part, rfl, hsecond⟩ | ⟨part, rfl, hback⟩
  · cases part with
    | nil => exact Or.inl ⟨[], by simp, hsecond.symm⟩
    | cons d part =>
      obtain ⟨rfl, hrest⟩ := List.cons.inj hsecond
      exact Or.inr ⟨part, rfl, hrest⟩
  · exact Or.inl ⟨part, rfl, hback⟩

/-- what opens in front of a character that nothing reaches across opens without what follows it -/
theorem Opens.stays (hname : ∀ d ∈ name, isWord d = true) (hc : Severs c) (h : Opens name before (front ++ c :: back) rest) :
    ∃ others, Opens name before front others := by
  obtain ⟨hedge, blanks, hblanks, htext⟩ := h
  rcases cut_beside htext with ⟨part, hfront, hpart⟩ | ⟨part, hpart, -⟩
  · cases part with
    | nil => exact absurd (List.cons.inj hpart).1.symm hc.bracket
    | cons d part =>
      obtain ⟨rfl, -⟩ := List.cons.inj hpart
      refine ⟨part, ?_, blanks, hblanks, hfront⟩
      obtain ⟨e, more, he⟩ := List.exists_cons_of_ne_nil (show front ≠ [] by rw [hfront]; simp)
      rw [he] at hedge ⊢
      exact hedge
  · -- the character would be one of the name, or one of the blanks
    have hmem : c ∈ name ++ blanks := by rw [hpart]; simp
    rcases List.mem_append.1 hmem with hmem | hmem
    · exact absurd (hname c hmem) (by simp [hc.word])
    · exact absurd (hblanks c hmem) (by simp [hc.blank])

/-- behind a character that is no word character, a word starts as at the start of a text -/
theorem opens_behind_iff (hc : isWord c = false) :
    Opens name (front.getLast?.or (some c)) text rest ↔ Opens name front.getLast? text rest := by
  cases front.getLast? with
  | some d => rfl
  | none => simp [Opens, wordEdge, hc]

theorem not_opens_of_no_bracket (h : '(' ∉ text) : ¬ Opens name before text rest := by
  rintro ⟨-, blanks, -, rfl⟩
  exact h (by simp)

theorem not_calledIn_of_no_bracket (h : '(' ∉ text) : ¬ CalledIn name text := by
  rintro ⟨front, here, rest, rfl, hopens⟩
  exact not_opens_of_no_bracket (fun hmem => h (List.mem_append_right front hmem)) hopens

theorem getLast?_behind (front part : Line) : (front ++ c :: part).getLast? = part.getLast?.or (some c) := by
  rw [List.getLast?_append, ← getLast?_cons_or, Option.or_none, List.getLast?_cons]
  rfl

/-- **Calls beside a character.** What is called in a text with a character in it that nothing reaches across is called
before the character or behind it. -/
theorem calledIn_beside (hname : ∀ d ∈ name, isWord d = true) (hc : Severs c) (h : CalledIn name (front ++ c :: back)) :
    CalledIn name front ∨ CalledIn name back := by
  obtain ⟨lead, here, rest, htext, hopens⟩ := h
  rcases cut_beside htext with ⟨part, rfl, rfl⟩ | ⟨part, rfl, rfl⟩
  · obtain ⟨others, hothers⟩ := hopens.stays hname hc
    exact Or.inl ⟨lead, part, others, rfl, hothers⟩
  · rw [getLast?_behind, opens_behind_iff hc.word] at hopens
    exact Or.inr ⟨part, here, rest, rfl, hopens⟩

/-- the first call behind such a character, if the function is not called before it -/
theorem FirstCall.behind (hname : ∀ d ∈ name, isWord d = true) (hc : Severs c) (hfront : ¬ CalledIn name front)
    (h : FirstCall back name rest) : FirstCall (front ++ c :: back) name rest := by
  obtain ⟨lead, text, rfl, hopens, hleft⟩ := h
  refine ⟨front ++ c :: lead, text, by simp, ?_, fun lead' text' htext hshort rest' hopens' => ?_⟩
  · rwa [getLast?_behind, opens_behind_iff hc.word]
  · rcases cut_beside htext with ⟨part, rfl, rfl⟩ | ⟨part, rfl, hpart⟩
    · obtain ⟨others, hothers⟩ := hopens'.stays hname hc
      exact hfront ⟨lead', part, others, rfl, hothers⟩
    · rw [getLast?_behind, opens_behind_iff hc.word] at hopens'
      refine hleft part text' hpart ?_ rest' hopens'
      simp only [List.length_append, List.length_cons] at hshort
      omega

/-- **One bracket.** With one bracket in a text and a word right before it, no other function than that of the word is
called. -/
theorem calledIn_single (hword : ∀ d ∈ word, isWord d = true) (hrest : '(' ∉ rest) (hname : ∀ d ∈ name, isWord d = true)
    (hne : name ≠ []) (h : CalledIn name (word ++ '(' :: rest)) : name = word := by
  obtain ⟨lead, here, others, htext, hedge, blanks, hblanks, rfl⟩ := h
  have hbracket : '(' ∉ word := fun hmem => absurd (hword _ hmem) (by decide)
  have hcut : word ++ '(' :: rest = (lead ++ (name ++ blanks)) ++ '(' :: others := by simpa using htext
  -- the bracket of the call is the only one there is
  obtain ⟨hlead, -⟩ : word = lead ++ (name ++ blanks) ∧ rest = others := by
    rcases cut_beside hcut with ⟨part, rfl, hpart⟩ | ⟨part, -, rfl⟩
    · cases part with
      | nil => exact ⟨by simp, (List.cons.inj hpart).2.symm⟩
      | cons d part =>
        obtain ⟨rfl, -⟩ := List.cons.inj hpart
        exact absurd (by simp) hbracket
    · exact absurd (by simp) hrest
  have hnoblanks : blanks = [] := by
    refine List.eq_nil_iff_forall_not_mem.2 fun d hd => ?_
    have hw := hword d (by rw [hlead]; simp [hd])
    rw [isWord_of_isBlank (hblanks d hd)] at hw
    cases hw
  subst hnoblanks
  obtain ⟨e, more, rfl⟩ := List.exists_cons_of_ne_nil hne
  cases hlast : lead.getLast? with
  | none =>
    rw [List.getLast?_eq_none_iff.1 hlast] at hlead
    simpa using hlead.symm
  | some d =>
    -- a word character stands before the name, so no word starts there
    have hd := hword d (by rw [hlead]; exact List.mem_append_left _ (List.mem_of_getLast? hlast))
    have he := hname e List.mem_cons_self
    rw [hlast] at hedge
    simp [wordEdge, hd, he] at hedge

end Places

/-! ## Calls of the panel library -/

/-- what stands before the functions of the panel library -/
def library : Line := "tft.".toList

section Library

variable {name line rest : Line}

theorem severs_point : Severs '.' := ⟨by decide, by decide, by decide⟩

theorem firstCall_start (hword : ∀ d ∈ name, isWord d = true) (hne : name ≠ []) :
    FirstCall (name ++ '(' :: rest) name rest := by
  obtain ⟨e, more, rfl⟩ := List.exists_cons_of_ne_nil hne
  refine ⟨[], _, rfl, ⟨?_, [], by simp, by simp⟩, fun front' text' _ hshort => absurd hshort (Nat.not_lt_zero _)⟩
  simp [wordEdge, hword e List.mem_cons_self]

/-- a call of the library is the first of its function, whatever its arguments hold -/
theorem firstCall_library (hword : ∀ d ∈ name, isWord d = true) (hne : name ≠ []) :
    FirstCall (library ++ name ++ '(' :: rest) name rest := by
  have hbefore : ¬ CalledIn name "tft".toList := not_calledIn_of_no_bracket (by decide)
  have hstart : FirstCall (name ++ '(' :: rest) name rest := firstCall_start hword hne
  simpa [library] using hstart.behind hword severs_point hbefore

/-- a function that is not called has no arguments -/
theorem arguments?_of_not_called (h : ¬ CalledIn name line) : arguments? line name = none := by
  rw [Option.eq_none_iff_forall_ne_some]
  intro arguments hsome
  obtain ⟨rest, parts, ⟨front, text, rfl, hopens, -⟩, -⟩ := arguments?_eq_some_iff.1 hsome
  exact h ⟨front, text, rest, rfl, hopens⟩

end Library

end SketchPanel.Sketch

/-
Arguments that are tokens. A token is a whole-number literal or a word, so it holds no blank and none of the characters
that mean something to the scan of a call. Tokens with commas between them and any blanks around them are therefore the
arguments in front of a closing bracket; blanks alone are no argument.

Results:
- `IsToken.solid`, `IsToken.unscanned`: what a token does not hold.
- `argument_of_unscanned`: a text without quotes, brackets and commas is an argument.
- `Written.arguments`: written tokens are arguments.
-/
import Mathlib.Tactic
import SketchPanel.Proofs.CallForms

namespace SketchPanel.Sketch

open SketchPanel.Text SketchPanel.Number

/-! ## Tokens -/

/-- whether a text is a whole-number literal or a word -/
def IsToken (text : Line) : Prop := (∃ n, Spells text n) ∨ (text ≠ [] ∧ ∀ c ∈ text, isWord c = true)

/-- whether a text is a token with any blanks around it -/
def Padded (token text : Line) : Prop :=
  IsToken token ∧ ∃ left right : Line, (∀ c ∈ left, isBlank c = true) ∧ (∀ c ∈ right, isBlank c = true) ∧
    text = left ++ token ++ right

/-- whether a text writes tokens, with commas between them and any blanks around them -/
inductive Written : List Line → Line → Prop where
  | none {blanks : Line} (hblanks : ∀ c ∈ blanks, isBlank c = true) : Written [] blanks
  | last {token text : Line} (htoken : Padded token text) : Written [token] text
  | cons {token text rest : Line} {tokens : List Line} (htoken : Padded token text) (hmore : tokens ≠ [])
      (hrest : Written tokens rest) : Written (token :: tokens) (text ++ ',' :: rest)

/-- the characters that mean something to the scan of a call -/
def scanned : List Char := ['"', '(', ')', ',']

theorem forall_scanned {such : Char → Prop} :
    (∀ c ∈ scanned, such c) ↔ such '"' ∧ such '(' ∧ such ')' ∧ such ',' := by
  simp [scanned]

section Tokens

variable {token text rest : Line} {tokens : List Line} {n : Int}

theorem Spells.characters (h : Spells text n) : ∀ c ∈ text, isDigit c = true ∨ c = '+' ∨ c = '-' := by
  cases h with
  | unsigned d => exact fun c hc => Or.inl (d.isDigit c hc)
  | plus d =>
    intro c hc
    rcases List.mem_cons.1 hc with rfl | hc
    · exact Or.inr (Or.inl rfl)
    · exact Or.inl (d.isDigit c hc)
  | minus d =>
    intro c hc
    rcases List.mem_cons.1 hc with rfl | hc
    · exact Or.inr (Or.inr rfl)
    · exact Or.inl (d.isDigit c hc)

theorem Spells.ne_nil (h : Spells text n) : text ≠ [] := by
  cases h with
  | unsigned d => exact d.ne_nil
  | plus d => exact List.cons_ne_nil _ _
  | minus d => exact List.cons_ne_nil _ _

theorem IsToken.ne_nil (h : IsToken text) : text ≠ [] := by
  rcases h with ⟨n, hn⟩ | ⟨hne, -⟩
  · exact hn.ne_nil
  · exact hne

theorem IsToken.solid (h : IsToken text) : ∀ c ∈ text, isBlank c = false := by
  intro c hc
  rcases h with ⟨n, hn⟩ | ⟨-, hword⟩
  · rcases hn.characters c hc with hdigit | rfl | rfl
    · exact isBlank_of_isDigit hdigit
    · decide
    · decide
  · by_contra hblank
    have hc := hword c hc
    rw [isWord_of_isBlank (by simpa using hblank)] at hc
    cases hc

theorem IsToken.unscanned (h : IsToken text) : ∀ c ∈ text, c ∉ scanned := by
  intro c hc hmark
  rcases h with ⟨n, hn⟩ | ⟨-, hword⟩
  · have hplain : ∀ mark ∈ scanned, isDigit mark = false ∧ mark ≠ '+' ∧ mark ≠ '-' := forall_scanned.2 (by decide)
    obtain ⟨hdigit, hplus, hminus⟩ := hplain c hmark
    rcases hn.characters c hc with h | h | h
    · rw [hdigit] at h
      cases h
    · exact hplus h
    · exact hminus h
  · have hplain : ∀ mark ∈ scanned, isWord mark = false := forall_scanned.2 (by decide)
    have hc := hword c hc
    rw [hplain c hmark] at hc
    cases hc

theorem unscanned_of_isBlank {c : Char} (h : isBlank c = true) : c ∉ scanned := by
  intro hmark
  have hplain : ∀ mark ∈ scanned, isBlank mark = false := forall_scanned.2 (by decide)
  rw [hplain c hmark] at h
  cases h

theorem Padded.unscanned (h : Padded token text) : ∀ c ∈ text, c ∉ scanned := by
  obtain ⟨htoken, left, right, hleft, hright, rfl⟩ := h
  intro c hc
  rcases List.mem_append.1 hc with hc | hc
  · rcases List.mem_append.1 hc with hc | hc
    · exact unscanned_of_isBlank (hleft c hc)
    · exact htoken.unscanned c hc
  · exact unscanned_of_isBlank (hright c hc)

theorem Padded.trim_eq (h : Padded token text) : trim text = token := by
  obtain ⟨htoken, left, right, hleft, hright, rfl⟩ := h
  rw [trim_margins hleft hright, trim_of_no_blanks htoken.solid]

/-- a text without quotes, brackets and commas is an argument -/
theorem argument_of_unscanned (h : ∀ c ∈ text, c ∉ scanned) : Argument text := by
  have hstep : ∀ c ∉ scanned, Nesting.top.step c = .top := by
    intro c hc
    simp only [scanned, List.mem_cons, List.not_mem_nil, or_false, not_or] at hc
    simp [Nesting.step, Nesting.top, Quoting.step, hc.1, hc.2.1, hc.2.2.1]
  induction text with
  | nil => exact ⟨unmarked_nil, rfl⟩
  | cons c text ih =>
    rw [List.forall_mem_cons] at h
    obtain ⟨hwithin, hends⟩ := ih h.2
    have hmarks : [',', ')'] ⊆ scanned := by simp [scanned]
    refine ⟨unmarked_cons.2 ⟨fun _ hc => h.1 (hmarks hc), ?_⟩, ?_⟩
    · rwa [hstep c h.1]
    · rwa [List.foldl_cons, hstep c h.1]

theorem Written.isToken (h : Written tokens text) : ∀ token ∈ tokens, IsToken token := by
  induction h with
  | none => exact nofun
  | last htoken => exact List.forall_mem_singleton.2 htoken.1
  | cons htoken _ _ ih => exact List.forall_mem_cons.2 ⟨htoken.1, ih⟩

theorem Written.no_bracket (h : Written tokens text) : '(' ∉ text := by
  have hopen : '(' ∈ scanned := by decide
  induction h with
  | none hblanks => exact fun hmem => unscanned_of_isBlank (hblanks _ hmem) hopen
  | last htoken => exact fun hmem => htoken.unscanned _ hmem hopen
  | cons htoken _ _ ih =>
    intro hmem
    rcases List.mem_append.1 hmem with hmem | hmem
    · exact htoken.unscanned _ hmem hopen
    · rcases List.mem_cons.1 hmem with hcomma | hmem
      · exact absurd hcomma (by decide)
      · exact ih hmem

/-- written tokens are the arguments in front of a closing bracket -/
theorem Written.cut (h : Written tokens text) (hne : tokens ≠ []) :
    ∃ parts, CallArguments (text ++ ')' :: rest) parts ∧ parts.map trim = tokens := by
  induction h with
  | none => exact absurd rfl hne
  | last htoken =>
    exact ⟨[_], .single (argument_of_unscanned htoken.unscanned), by rw [List.map_singleton, htoken.trim_eq]⟩
  | cons htoken hmore _ ih =>
    obtain ⟨parts, hparts, rfl⟩ := ih hmore
    refine ⟨_ :: parts, ?_, by rw [List.map_cons, htoken.trim_eq]⟩
    simpa using CallArguments.cons (argument_of_unscanned htoken.unscanned) hparts

theorem Written.arguments (h : Written tokens text) : ∃ parts, CallArguments (text ++ ')' :: rest) parts ∧
    tokens = if parts.map trim = [[]] then [] else parts.map trim := by
  by_cases hne : tokens = []
  · subst hne
    cases h with
    | none hblanks =>
      have hplain : ∀ c ∈ text, c ∉ scanned := fun c hc => unscanned_of_isBlank (hblanks c hc)
      refine ⟨[text], .single (argument_of_unscanned hplain), ?_⟩
      have hempty : trim text = [] := by simp [trim, trimStart, trimEnd, List.dropWhile_eq_nil_iff.2 hblanks]
      rw [List.map_singleton, hempty, if_pos rfl]
  · obtain ⟨parts, hparts, rfl⟩ : ∃ parts, CallArguments (text ++ ')' :: rest) parts ∧ parts.map trim = tokens :=
      h.cut hne
    refine ⟨parts, hparts, (if_neg fun hempty => ?_).symm⟩
    exact (h.isToken [] (by rw [hempty]; exact List.mem_singleton_self _)).ne_nil rfl

end Tokens

end SketchPanel.Sketch

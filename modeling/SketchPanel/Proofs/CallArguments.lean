/-
Arguments cut out of a call. A scan follows the text behind the opening bracket of a call and knows whether it stands in
a literal and how many inner brackets are open. At the top, outside literals and inner brackets, a comma ends an argument
and a closing bracket ends the call. Each argument is therefore scanned from the top to the top, and meets neither of the
two there; texts of that kind, with commas between them and a closing bracket behind, are the arguments of a call.

Results:
- `search_eq_some_iff`: a search finds the leftmost place where its scanner succeeds, and no other.
- `callOpening_eq_some_iff`: what opens a call, read off the text.
- `rawArguments_cons`: the scan of a call, character by character.
- `rawArguments_eq_some_iff`: the arguments behind an opening bracket, both ways.
- `arguments_of_first_call`: the arguments of the first call on a line, and when there are none to be had.
Witness:
- `nested_arguments`: a comma and a bracket in a literal behind an escaped quote, and a call in an argument.
-/
import Mathlib.Tactic
import SketchPanel.Proofs.StatementCuts

namespace SketchPanel.Text

/-! ## The leftmost place -/

section Searching

variable {α : Type} {scan : Option Char → List Char → Option (α × List Char)} {before : Option Char}
  {text : List Char} {found : α × List Char}

theorem getLast?_cons_or (c : Char) (front : List Char) (before : Option Char) :
    (c :: front).getLast?.or before = front.getLast?.or (some c) := by
  rw [List.getLast?_cons]
  cases front.getLast? <;> rfl

/-- a search finds the leftmost place where its scanner succeeds, and no other -/
theorem search_eq_some_iff : search scan before text = some found ↔
    ∃ front here, text = front ++ here ∧ scan (front.getLast?.or before) here = some found ∧
      ∀ front' here', text = front' ++ here' → front'.length < front.length →
        scan (front'.getLast?.or before) here' = none := by
  induction text generalizing before with
  | nil =>
    constructor
    · intro h
      exact ⟨[], [], rfl, h, fun front' _ _ hshort => absurd hshort (Nat.not_lt_zero _)⟩
    · rintro ⟨front, here, htext, hscan, -⟩
      obtain ⟨rfl, rfl⟩ := List.append_eq_nil_iff.1 htext.symm
      exact hscan
  | cons c rest ih =>
    cases hhere : scan before (c :: rest) with
    | some first =>
      rw [search_of_scan hhere]
      constructor
      · intro h
        exact ⟨[], c :: rest, rfl, hhere.trans h, fun front' _ _ hshort => absurd hshort (Nat.not_lt_zero _)⟩
      · rintro ⟨front, here, htext, hscan, hleft⟩
        cases front with
        | nil =>
          obtain rfl : c :: rest = here := htext
          exact hhere.symm.trans hscan
        | cons d front =>
          -- the scanner succeeds further left
          have hnone := hleft [] (c :: rest) rfl (Nat.succ_pos _)
          rw [List.getLast?_nil, Option.none_or, hhere] at hnone
          cases hnone
    | none =>
      have hstep : search scan before (c :: rest) = search scan (some c) rest := by
        rw [search, hhere]
      rw [hstep, ih]
      constructor
      · rintro ⟨front, here, rfl, hscan, hleft⟩
        refine ⟨c :: front, here, rfl, by rwa [getLast?_cons_or], fun front' here' htext hshort => ?_⟩
        cases front' with
        | nil =>
          obtain rfl : c :: (front ++ here) = here' := htext
          exact hhere
        | cons d front' =>
          obtain ⟨rfl, hrest⟩ := List.cons.inj htext
          rw [getLast?_cons_or]
          exact hleft front' here' hrest (Nat.lt_of_succ_lt_succ hshort)
      · rintro ⟨front, here, htext, hscan, hleft⟩
        cases front with
        | nil =>
          obtain rfl : c :: rest = here := htext
          rw [List.getLast?_nil, Option.none_or, hhere] at hscan
          cases hscan
        | cons d front =>
          obtain ⟨rfl, rfl⟩ := List.cons.inj htext
          refine ⟨front, here, rfl, by rwa [getLast?_cons_or] at hscan, fun front' here' hrest hshort => ?_⟩
          rw [← getLast?_cons_or]
          exact hleft (c :: front') here' (congrArg (c :: ·) hrest) (Nat.succ_lt_succ hshort)

end Searching

end SketchPanel.Text

namespace SketchPanel.Sketch

open SketchPanel.Text

/-! ## The first call -/

section Opening

variable {name line text rest : Line} {before : Option Char}

/-- whether a text starts with the opening of a call: the name, where a word starts or ends, any blanks and a bracket -/
def Opens (name : Line) (before : Option Char) (text rest : Line) : Prop :=
  wordEdge before text.head? = true ∧
    ∃ blanks, (∀ c ∈ blanks, isBlank c = true) ∧ text = name ++ blanks ++ '(' :: rest

/-- whether the first call of a function on a line opens in front of this rest -/
def FirstCall (line name rest : Line) : Prop :=
  ∃ front text, line = front ++ text ∧ Opens name front.getLast? text rest ∧
    ∀ front' text', line = front' ++ text' → front'.length < front.length →
      ∀ rest', ¬ Opens name front'.getLast? text' rest'

theorem token?_bracket_iff : token? ['('] text = some rest ↔
    ∃ blanks, (∀ c ∈ blanks, isBlank c = true) ∧ text = blanks ++ '(' :: rest := token?_mark_iff (by decide)

theorem callOpening_eq_some_iff : callOpening name before text = some ((), rest) ↔ Opens name before text rest := by
  unfold callOpening Opens
  cases hedge : wordEdge before text.head? with
  | false => simp
  | true =>
    simp only [Bool.not_true, Bool.false_eq_true, if_false, Option.bind_eq_bind, Option.bind_eq_some_iff, Option.pure_def,
      Option.some.injEq, Prod.mk.injEq, true_and, exists_eq_right, after?_eq_some_iff, token?_bracket_iff]
    constructor
    · rintro ⟨tail, rfl, blanks, hblanks, rfl⟩
      exact ⟨blanks, hblanks, (List.append_assoc _ _ _).symm⟩
    · rintro ⟨blanks, hblanks, rfl⟩
      exact ⟨blanks ++ '(' :: rest, List.append_assoc _ _ _, blanks, hblanks, rfl⟩

theorem callOpening_eq_none_iff : callOpening name before text = none ↔ ∀ rest, ¬ Opens name before text rest := by
  rw [Option.eq_none_iff_forall_ne_some]
  constructor
  · intro h rest hopens
    exact h ((), rest) (callOpening_eq_some_iff.2 hopens)
  · rintro h ⟨⟨⟩, rest⟩ hsome
    exact h rest (callOpening_eq_some_iff.1 hsome)

theorem search_callOpening_iff : search (callOpening name) none line = some ((), rest) ↔ FirstCall line name rest := by
  simp only [search_eq_some_iff, Option.or_none, callOpening_eq_some_iff, callOpening_eq_none_iff, FirstCall]

end Opening

/-! ## Arguments -/

/-- where the scan of a call stands: in a literal or not, and how many inner brackets are open -/
structure Nesting where
  quoting : Quoting
  depth : Nat
  deriving DecidableEq, Repr

/-- outside literals and inner brackets -/
def Nesting.top : Nesting := ⟨.outside, 0⟩

/-- where a character leaves the scan; brackets count outside literals -/
def Nesting.step (n : Nesting) (c : Char) : Nesting :=
  if n.quoting = .outside ∧ c = '(' then { n with depth := n.depth + 1 }
  else if n.quoting = .outside ∧ c = ')' then { n with depth := n.depth - 1 }
  else { n with quoting := n.quoting.step c }

/-- whether no comma and no closing bracket of a text, followed from this place on, stands at the top -/
abbrev Within (n : Nesting) (text : Line) : Prop := Unmarked Nesting.step .top [',', ')'] n text

/-- whether a text is an argument: no comma and no closing bracket stands at the top, and its end does -/
structure Argument (text : Line) : Prop where
  within : Within .top text
  ends : text.foldl Nesting.step .top = .top

/-- whether a text begins with arguments and the bracket that closes their call -/
structure CallArguments (text : Line) (parts : List Line) : Prop where
  nonempty : parts ≠ []
  each : ∀ part ∈ parts, Argument part
  closed : ∃ rest, text = join [','] parts ++ ')' :: rest

/-- a text put in front of the first piece -/
def onFront (front : Line) (pieces : List Line) : List Line := front.foldr onFirst pieces

section Scan

variable {n : Nesting} {c : Char} {front text rest first : Line} {parts more : List Line}

/-- the scan of a call, one character at a time -/
theorem rawArguments_cons : rawArguments n.quoting n.depth (c :: rest) =
    if n = .top ∧ c = ')' then some [[]]
    else if n = .top ∧ c = ',' then (rawArguments .outside 0 rest).map ([] :: ·)
    else (rawArguments (n.step c).quoting (n.step c).depth rest).map (onFirst c) := by
  obtain ⟨q, depth⟩ := n
  simp only [rawArguments]
  by_cases hq : q = .outside
  · subst hq
    by_cases hopen : c = '('
    · subst hopen
      simp [Nesting.step]
    by_cases hclose : c = ')'
    · subst hclose
      cases depth <;> simp [Nesting.step, Nesting.top]
    by_cases hcomma : c = ',' ∧ depth = 0
    · obtain ⟨rfl, rfl⟩ := hcomma
      simp [Nesting.top]
    · have hplain : ¬ ((⟨.outside, depth⟩ : Nesting) = .top ∧ c = ',') := by
        rintro ⟨htop, hc⟩
        exact hcomma ⟨hc, congrArg Nesting.depth htop⟩
      simp [Nesting.step, hopen, hclose, hcomma, hplain]
  · have htop : (⟨q, depth⟩ : Nesting) ≠ .top := fun h => hq (congrArg Nesting.quoting h)
    simp [Nesting.step, hq, htop]

theorem onFront_cons (front first : Line) (more : List Line) :
    onFront front (first :: more) = (front ++ first) :: more := by
  induction front with
  | nil => rfl
  | cons c front ih =>
    have hrest : (front.foldr onFirst (first :: more)) = (front ++ first) :: more := ih
    rw [onFront, List.foldr_cons, hrest]
    rfl

/-- what meets no mark at the top goes to the first argument -/
theorem rawArguments_within (h : Within n front) : rawArguments n.quoting n.depth (front ++ rest) =
    (rawArguments (front.foldl Nesting.step n).quoting (front.foldl Nesting.step n).depth rest).map (onFront front) := by
  induction front generalizing n with
  | nil => exact (congrFun Option.map_id _).symm
  | cons c front ih =>
    obtain ⟨hfirst, hrest⟩ := unmarked_cons.1 h
    have hclose : ¬ (n = .top ∧ c = ')') := fun hc => hfirst hc.1 (by simp [hc.2])
    have hcomma : ¬ (n = .top ∧ c = ',') := fun hc => hfirst hc.1 (by simp [hc.2])
    rw [List.cons_append, rawArguments_cons, if_neg hclose, if_neg hcomma, ih hrest, Option.map_map]
    rfl

/-- behind an argument the scan stands at the top again -/
theorem Argument.rawArguments_append (h : Argument first) :
    rawArguments .outside 0 (first ++ rest) = (rawArguments .outside 0 rest).map (onFront first) := by
  have hscan := @rawArguments_within .top first rest h.within
  rwa [h.ends] at hscan

/-- a text that begins with arguments and a closing bracket has these arguments -/
theorem CallArguments.rawArguments_eq (h : CallArguments text parts) : rawArguments .outside 0 text = some parts := by
  obtain ⟨hne, heach, tail, rfl⟩ := h
  induction parts with
  | nil => exact absurd rfl hne
  | cons first more ih =>
    rw [List.forall_mem_cons] at heach
    cases more with
    | nil =>
      have hclose : rawArguments .outside 0 (')' :: tail) = some [[]] := rawArguments_cons (n := .top)
      rw [join, heach.1.rawArguments_append, hclose, Option.map_some, onFront_cons, List.append_nil]
    | cons next others =>
      have hcomma : rawArguments .outside 0 (',' :: (join [','] (next :: others) ++ ')' :: tail)) =
          (rawArguments .outside 0 (join [','] (next :: others) ++ ')' :: tail)).map ([] :: ·) :=
        rawArguments_cons (n := .top)
      rw [join_cons _ (List.cons_ne_nil _ _), List.append_assoc, List.append_assoc, List.singleton_append,
        heach.1.rawArguments_append, hcomma, ih (List.cons_ne_nil _ _) heach.2, Option.map_some, Option.map_some,
        onFront_cons, List.append_nil]

theorem CallArguments.single (h : Argument first) : CallArguments (first ++ ')' :: rest) [first] :=
  ⟨List.cons_ne_nil _ _, by simpa using h, rest, rfl⟩

theorem CallArguments.cons (hfirst : Argument first) (h : CallArguments rest more) :
    CallArguments (first ++ ',' :: rest) (first :: more) where
  nonempty := List.cons_ne_nil _ _
  each := List.forall_mem_cons.2 ⟨hfirst, h.each⟩
  closed := by
    obtain ⟨tail, rfl⟩ := h.closed
    exact ⟨tail, by rw [join_cons _ h.nonempty]; simp⟩

/-- a text whose scan begins at some place: its first argument, and those behind it, if there are more -/
structure ArgumentsFrom (n : Nesting) (text first : Line) (more : List Line) : Prop where
  within : Within n first
  ends : first.foldl Nesting.step n = .top
  rest : more = [] ∧ (∃ rest, text = first ++ ')' :: rest) ∨ ∃ rest, CallArguments rest more ∧ text = first ++ ',' :: rest

theorem ArgumentsFrom.arguments (h : ArgumentsFrom .top text first more) : CallArguments text (first :: more) := by
  rcases h.rest with ⟨rfl, rest, rfl⟩ | ⟨rest, hrest, rfl⟩
  · exact .single ⟨h.within, h.ends⟩
  · exact .cons ⟨h.within, h.ends⟩ hrest

theorem ArgumentsFrom.grow (hclose : ¬ (n = .top ∧ c = ')')) (hcomma : ¬ (n = .top ∧ c = ','))
    (h : ArgumentsFrom (n.step c) rest first more) : ArgumentsFrom n (c :: rest) (c :: first) more where
  within := by
    refine unmarked_cons.2 ⟨fun htop hc => ?_, h.within⟩
    rcases List.mem_cons.1 hc with rfl | hc
    · exact hcomma ⟨htop, rfl⟩
    · exact hclose ⟨htop, List.mem_singleton.1 hc⟩
  ends := h.ends
  rest := by
    rcases h.rest with ⟨hmore, others, rfl⟩ | ⟨others, hothers, rfl⟩
    · exact Or.inl ⟨hmore, others, rfl⟩
    · exact Or.inr ⟨others, hothers, rfl⟩

/-- what the scan finds, it finds in the text: the place at which it begins counts for the first argument alone -/
theorem rawArguments_cut (h : rawArguments n.quoting n.depth text = some parts) :
    ∃ first more, parts = first :: more ∧ ArgumentsFrom n text first more := by
  induction text generalizing n parts with
  | nil => cases h
  | cons c rest ih =>
    rw [rawArguments_cons] at h
    split_ifs at h with hclose hcomma
    · obtain ⟨rfl, rfl⟩ := hclose
      obtain rfl := Option.some.inj h
      exact ⟨[], [], rfl, unmarked_nil, rfl, Or.inl ⟨rfl, rest, rfl⟩⟩
    · -- the argument ends here, and the rest is scanned from the top
      obtain ⟨rfl, rfl⟩ := hcomma
      obtain ⟨others, hothers, rfl⟩ := Option.map_eq_some_iff.1 h
      obtain ⟨first, more, rfl, hrest⟩ := ih (n := .top) hothers
      exact ⟨[], first :: more, rfl, unmarked_nil, rfl, Or.inr ⟨rest, hrest.arguments, rfl⟩⟩
    · obtain ⟨others, hothers, rfl⟩ := Option.map_eq_some_iff.1 h
      obtain ⟨first, more, rfl, hrest⟩ := ih hothers
      exact ⟨c :: first, more, rfl, hrest.grow hclose hcomma⟩

/-- **Arguments.** They are the only way to cut the text behind an opening bracket at commas at the top, up to the first
closing bracket there. -/
theorem rawArguments_eq_some_iff : rawArguments .outside 0 text = some parts ↔ CallArguments text parts := by
  constructor
  · intro h
    obtain ⟨first, more, rfl, hcut⟩ := rawArguments_cut (n := .top) h
    exact hcut.arguments
  · exact CallArguments.rawArguments_eq

end Scan

/-! ## The arguments of the first call -/

section Calls

variable {line name : Line} {arguments : List Line}

theorem arguments?_eq_some_iff : arguments? line name = some arguments ↔
    ∃ rest parts, FirstCall line name rest ∧ CallArguments rest parts ∧
      arguments = if parts.map trim = [[]] then [] else parts.map trim := by
  simp only [arguments?, Option.bind_eq_bind, Option.bind_eq_some_iff, Option.pure_def, Option.some.injEq, Prod.exists,
    rawArguments_eq_some_iff]
  constructor
  · rintro ⟨⟨⟩, rest, hcall, parts, hparts, rfl⟩
    exact ⟨rest, parts, search_callOpening_iff.1 hcall, hparts, rfl⟩
  · rintro ⟨rest, parts, hcall, hparts, rfl⟩
    exact ⟨(), rest, search_callOpening_iff.2 hcall, parts, hparts, rfl⟩

/-- **Arguments of a call.** There is a list of arguments exactly if the function is called on the line and behind the
opening bracket of its first call stand arguments, with commas between them, and a closing bracket. The list is then of
these arguments, without the blanks at their ends; a single one that is blank is left out. -/
theorem arguments_of_first_call (line name : Line) :
    ((arguments? line name).isSome = true ↔ ∃ rest parts, FirstCall line name rest ∧ CallArguments rest parts) ∧
      ∀ rest parts, FirstCall line name rest → CallArguments rest parts →
        arguments? line name = some (if parts.map trim = [[]] then [] else parts.map trim) := by
  have hlist : ∀ rest parts, FirstCall line name rest → CallArguments rest parts →
      arguments? line name = some (if parts.map trim = [[]] then [] else parts.map trim) :=
    fun rest parts hcall hparts => arguments?_eq_some_iff.2 ⟨rest, parts, hcall, hparts, rfl⟩
  refine ⟨⟨fun h => ?_, ?_⟩, hlist⟩
  · obtain ⟨arguments, hsome⟩ := Option.isSome_iff_exists.1 h
    obtain ⟨rest, parts, hcall, hparts, -⟩ := arguments?_eq_some_iff.1 hsome
    exact ⟨rest, parts, hcall, hparts⟩
  · rintro ⟨rest, parts, hcall, hparts⟩
    rw [hlist rest parts hcall hparts]
    rfl

end Calls

/-- a call behind a longer name, with a comma and a bracket in a literal that goes on behind an escaped quote, and with a
call in an argument -/
def nestedCall : Line := "xdraw(0); tft.draw (\"a\\\",)\", f(1, 2) ,, z) + draw(3)".toList

/-- the arguments as they stand -/
def nestedParts : List Line := ["\"a\\\",)\"".toList, " f(1, 2) ".toList, [], " z".toList]

theorem nested_arguments :
    FirstCall nestedCall "draw".toList (join [','] nestedParts ++ ") + draw(3)".toList) ∧
      arguments? nestedCall "draw".toList = some ["\"a\\\",)\"".toList, "f(1, 2)".toList, [], "z".toList] := by
  have hcall : FirstCall nestedCall "draw".toList (join [','] nestedParts ++ ") + draw(3)".toList) :=
    search_callOpening_iff.1 (by decide +kernel)
  have hparts : CallArguments (join [','] nestedParts ++ ") + draw(3)".toList) nestedParts :=
    rawArguments_eq_some_iff.1 (by decide +kernel)
  refine ⟨hcall, ?_⟩
  rw [(arguments_of_first_call nestedCall "draw".toList).2 _ _ hcall hparts]
  decide +kernel

end SketchPanel.Sketch

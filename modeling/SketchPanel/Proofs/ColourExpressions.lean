/-
Colour arguments that stop their reading. A name of the library, a literal of base sixteen and a text of no known form all
give a colour, however long they are. Numerals of base ten do not: the three channels of a call, and an argument that is
one numeral and nothing else, are read as numbers, and a number has a longest run of digits. The first run beyond it stops
the reading and tells how long it is. Every other argument gives a colour, a hash and six digits of base sixteen.

Results:
- `numeral_then_iff`: a numeral between blanks and the mark behind it.
- `search_channelCall_iff`: the first call of `rgbToHex` with three numerals, read off the text.
- `resolution_eq_error_iff`: what stops a reading, and what the failure tells.
- `resolved_unless_long`: which arguments give a colour, and how the others fail.
Counterexample:
- `long_number_stops`: a numeral one digit too long gives no colour at all.
-/
import Mathlib.Tactic
import SketchPanel.Proofs.CallArguments
import SketchPanel.Proofs.ElementForms

namespace SketchPanel.Colour

open SketchPanel.Text SketchPanel.Number

/-! ## Calls of three channels -/

/-- whether a text is a numeral: decimal digits of any script, at least one -/
def IsNumeral (text : List Char) : Prop := text ≠ [] ∧ ∀ c ∈ text, isDigit c = true

/-- whether the second text is the first with blanks around it, possibly none -/
def Spaced (text spaced : List Char) : Prop :=
  ∃ left right, (∀ c ∈ left, isBlank c = true) ∧ (∀ c ∈ right, isBlank c = true) ∧ spaced = left ++ (text ++ right)

/-- whether a text starts with a call of `rgbToHex` with these three numerals -/
structure ChannelCall (text r g b : List Char) : Prop where
  red : IsNumeral r
  green : IsNumeral g
  blue : IsNumeral b
  written : ∃ gap first second third rest, (∀ c ∈ gap, isBlank c = true) ∧ Spaced r first ∧ Spaced g second ∧
    Spaced b third ∧
    text = "rgbToHex".toList ++ (gap ++ '(' :: (first ++ ',' :: (second ++ ',' :: (third ++ ')' :: rest))))

/-- whether the first such call on a text has these three numerals -/
def FirstChannels (text r g b : List Char) : Prop :=
  ∃ front here, text = front ++ here ∧ ChannelCall here r g b ∧
    ∀ front' here', text = front' ++ here' → front'.length < front.length → ∀ r' g' b', ¬ ChannelCall here' r' g' b'

section Reading

variable {text digits rest r g b : List Char} {before : Option Char}

/-- a numeral between blanks and the mark behind it -/
theorem numeral_then_iff {mark : Char} (hblank : isBlank mark = false) (hdigit : isDigit mark = false) :
    (∃ behind, run? isDigit (trimStart text) = some (digits, behind) ∧ token? [mark] behind = some rest) ↔
      IsNumeral digits ∧ ∃ spaced, Spaced digits spaced ∧ text = spaced ++ mark :: rest := by
  constructor
  · rintro ⟨behind, hrun, htoken⟩
    obtain ⟨htrim, hne, hdigits, -⟩ := run?_eq_some_iff.1 hrun
    obtain ⟨right, hright, rfl⟩ := (token?_mark_iff hblank).1 htoken
    refine ⟨⟨hne, hdigits⟩, text.takeWhile isBlank ++ (digits ++ right),
      ⟨_, right, fun c hc => List.mem_takeWhile_imp hc, hright, rfl⟩, ?_⟩
    calc text = text.takeWhile isBlank ++ trimStart text := List.takeWhile_append_dropWhile.symm
      _ = _ := by rw [htrim]; simp
  · rintro ⟨⟨hne, hdigits⟩, _, ⟨left, right, hleft, hright, rfl⟩, rfl⟩
    have hstop : ∀ c ∈ (right ++ mark :: rest).head?, isDigit c = false := by
      cases right with
      | nil => rintro c ⟨⟩; exact hdigit
      | cons d right => rintro c ⟨⟩; exact isDigit_of_isBlank (hright d List.mem_cons_self)
    refine ⟨right ++ mark :: rest, ?_, (token?_mark_iff hblank).2 ⟨right, hright, rfl⟩⟩
    rw [List.append_assoc, List.append_assoc]
    exact run?_digits_blanks hleft hne hdigits hstop

theorem channelCall_iff : (∃ rest, channelCall before text = some ((r, g, b), rest)) ↔ ChannelCall text r g b := by
  have hcomma {digits text rest : List Char} := @numeral_then_iff text digits rest ',' (by decide) (by decide)
  have hclose {digits text rest : List Char} := @numeral_then_iff text digits rest ')' (by decide) (by decide)
  simp only [channelCall, Option.bind_eq_bind, Option.bind_eq_some_iff, Prod.exists, Option.pure_def, Option.some.injEq,
    Prod.mk.injEq, after?_eq_some_iff, Sketch.token?_bracket_iff]
  constructor
  · rintro ⟨-, t1, rfl, t2, ⟨gap, hgap, rfl⟩, r, t3, hr, t4, hr', g, t5, hg, t6, hg', b, t7, hb, rest, hb',
      ⟨rfl, rfl, rfl⟩, -⟩
    obtain ⟨hred, first, hfirst, rfl⟩ := hcomma.1 ⟨t3, hr, hr'⟩
    obtain ⟨hgreen, second, hsecond, rfl⟩ := hcomma.1 ⟨t5, hg, hg'⟩
    obtain ⟨hblue, third, hthird, rfl⟩ := hclose.1 ⟨t7, hb, hb'⟩
    exact ⟨hred, hgreen, hblue, gap, first, second, third, rest, hgap, hfirst, hsecond, hthird, rfl⟩
  · rintro ⟨hred, hgreen, hblue, gap, first, second, third, rest, hgap, hfirst, hsecond, hthird, rfl⟩
    obtain ⟨t3, hr, hr'⟩ := hcomma.2 ⟨hred, first, hfirst, rfl⟩
    obtain ⟨t5, hg, hg'⟩ := hcomma.2 ⟨hgreen, second, hsecond, rfl⟩
    obtain ⟨t7, hb, hb'⟩ := hclose.2 ⟨hblue, third, hthird, rfl⟩
    exact ⟨rest, _, rfl, _, ⟨gap, hgap, rfl⟩, r, t3, hr, _, hr', g, t5, hg, _, hg', b, t7, hb, rest, hb',
      ⟨rfl, rfl, rfl⟩, rfl⟩

theorem search_channelCall_iff :
    (∃ rest, search channelCall none text = some ((r, g, b), rest)) ↔ FirstChannels text r g b := by
  have hnone : ∀ before here, channelCall before here = none ↔ ∀ r g b, ¬ ChannelCall here r g b := by
    intro before here
    simp only [Option.eq_none_iff_forall_ne_some, ← @channelCall_iff _ _ _ _ before, Prod.forall, not_exists]
  simp only [search_eq_some_iff, hnone, Option.or_none, FirstChannels]
  constructor
  · rintro ⟨rest, front, here, htext, hcall, hleft⟩
    exact ⟨front, here, htext, channelCall_iff.1 ⟨rest, hcall⟩, hleft⟩
  · rintro ⟨front, here, htext, hcall, hleft⟩
    obtain ⟨rest, hcall⟩ := (@channelCall_iff here r g b front.getLast?).2 hcall
    exact ⟨rest, front, here, htext, hcall, hleft⟩

theorem search_channelCall_none_iff :
    search channelCall none text = none ↔ ∀ r g b, ¬ FirstChannels text r g b := by
  simp only [Option.eq_none_iff_forall_ne_some, ← search_channelCall_iff, Prod.forall, not_exists]

theorem FirstChannels.bracket_mem (h : FirstChannels text r g b) : '(' ∈ text := by
  obtain ⟨front, _, rfl, ⟨-, -, -, _, _, _, _, _, -, -, -, -, rfl⟩, -⟩ := h
  simp

end Reading

/-! ## What stops a reading -/

/-- whether this run of digits of a text is the first that is read as a number and is too long for one -/
inductive StoppedBy (text : List Char) : List Char → Prop where
  | channel {r g b run : List Char} (hname : ¬ "TFT_".toList <+: text) (hcall : FirstChannels text r g b)
      (hlong : [r, g, b].find? (digitLimit < ·.length) = some run) : StoppedBy text run
  | number (hdigits : ∀ c ∈ text, isDigit c = true) (hlong : digitLimit < text.length) : StoppedBy text text

section Stopped

variable {text run r g b r' g' b' : List Char} {fault : TooLong}

theorem FirstChannels.unique (h : FirstChannels text r g b) (h' : FirstChannels text r' g' b') :
    (r, g, b) = (r', g', b') := by
  obtain ⟨rest, hfound⟩ := search_channelCall_iff.2 h
  obtain ⟨rest', hfound'⟩ := search_channelCall_iff.2 h'
  exact congrArg Prod.fst (Option.some.inj (hfound.symm.trans hfound'))

theorem FirstChannels.not_digits (h : FirstChannels text r g b) : ¬ ∀ c ∈ text, isDigit c = true :=
  fun hdigits => absurd (hdigits '(' h.bracket_mem) (by decide)

theorem not_stoppedBy_of_name (hname : "TFT_".toList <+: text) : ¬ StoppedBy text run := by
  rintro (⟨hother, -, -⟩ | ⟨hdigits, -⟩)
  · exact hother hname
  · exact absurd (hdigits 'T' (hname.subset (by decide))) (by decide)

/-- behind a call only its channels count -/
theorem stoppedBy_call_iff (hname : ¬ "TFT_".toList <+: text) (hcall : FirstChannels text r g b) :
    StoppedBy text run ↔ [r, g, b].find? (digitLimit < ·.length) = some run := by
  constructor
  · rintro (⟨-, hother, hlong⟩ | ⟨hdigits, -⟩)
    · cases hcall.unique hother
      exact hlong
    · exact absurd hdigits hcall.not_digits
  · exact .channel hname hcall

/-- without a call only a text of digits counts -/
theorem stoppedBy_other_iff (hcall : ∀ r g b, ¬ FirstChannels text r g b) :
    StoppedBy text run ↔ (∀ c ∈ text, isDigit c = true) ∧ digitLimit < text.length ∧ run = text := by
  constructor
  · rintro (⟨-, hother, -⟩ | ⟨hdigits, hlong⟩)
    · exact absurd hother (hcall _ _ _)
    · exact ⟨hdigits, hlong, rfl⟩
  · rintro ⟨hdigits, hlong, rfl⟩
    exact .number hdigits hlong

theorem not_digits_of_hexLiteral? {digits : List Char} (h : hexLiteral? text = some digits) :
    ¬ ∀ c ∈ text, isDigit c = true := by
  unfold hexLiteral? at h
  split at h
  · rename_i x d digits
    split_ifs at h with hx
    intro hdigits
    have hmark : isDigit x = true := hdigits x (by simp)
    rcases hx.1 with rfl | rfl <;> exact absurd hmark (by decide)
  · cases h

/-- a number that is too long stops the reading -/
theorem number_eq_error_iff {α : Type} {f : Nat → α} :
    (do return f (← readDigits text)) = Except.error fault ↔ digitLimit < text.length ∧ fault = ⟨text.length⟩ := by
  unfold readDigits
  by_cases hlong : digitLimit < text.length
  · simp [hlong, bind, Except.bind, eq_comm]
  · simp [hlong, bind, Except.bind, pure, Except.pure]

/-- of three numbers the first that is too long stops the reading -/
theorem channels_eq_error_iff {α : Type} {f : Nat → Nat → Nat → α} :
    (do return f (← readDigits r) (← readDigits g) (← readDigits b)) = Except.error fault ↔
      ∃ run, [r, g, b].find? (digitLimit < ·.length) = some run ∧ fault = ⟨run.length⟩ := by
  unfold readDigits
  by_cases hr : digitLimit < r.length
  · simp [hr, bind, Except.bind, eq_comm]
  by_cases hg : digitLimit < g.length
  · simp [hr, hg, bind, Except.bind, eq_comm]
  by_cases hb : digitLimit < b.length
  · simp [hr, hg, hb, bind, Except.bind, eq_comm]
  · simp [hr, hg, hb, bind, Except.bind, pure, Except.pure]

/-- **What stops a reading.** It is one run of digits that is too long, and the failure tells its length. -/
theorem resolution_eq_error_iff {expression : List Char} : resolution expression = .error fault ↔
    ∃ run, StoppedBy (trim expression) run ∧ fault = ⟨run.length⟩ := by
  unfold resolution
  generalize trim expression = text
  dsimp only
  split
  · rename_i hname
    have hnot run := @not_stoppedBy_of_name text run (after?_isSome_iff.1 hname)
    split <;> simp [hnot]
  · rename_i hname
    rw [after?_isSome_iff] at hname
    split
    · rename_i r g b rest hfound
      have hcall := search_channelCall_iff.1 ⟨rest, hfound⟩
      simp only [stoppedBy_call_iff hname hcall]
      exact channels_eq_error_iff (f := fun r g b => Resolution.colour (toHex ⟨r, g, b⟩))
    · rename_i hnone
      simp only [stoppedBy_other_iff (search_channelCall_none_iff.1 hnone)]
      split
      · rename_i hliteral
        simp [not_digits_of_hexLiteral? hliteral]
      · split_ifs with hnumber
        · have hdigits := List.all_eq_true.1 hnumber.2
          rw [number_eq_error_iff (f := fun code => Resolution.colour (packedToHex code))]
          constructor
          · rintro ⟨hlong, rfl⟩
            exact ⟨text, ⟨hdigits, hlong, rfl⟩, rfl⟩
          · rintro ⟨_, ⟨-, hlong, rfl⟩, rfl⟩
            exact ⟨hlong, rfl⟩
        · -- an empty run is short, so a text that is no numeral stops nothing
          refine iff_of_false nofun ?_
          rintro ⟨_, ⟨hdigits, hlong, rfl⟩, -⟩
          refine hnumber ⟨?_, List.all_eq_true.2 hdigits⟩
          rintro rfl
          exact Nat.not_lt_zero _ hlong

end Stopped

/-! ## Which arguments give a colour -/

/-- **Which arguments give a colour.** All do, a hash and six digits of base sixteen in lower case, but for those with a
run of digits that is to be read as a number and is too long for one; these fail with the length of the first such run. -/
theorem resolved_unless_long (expression : List Char) :
    ((∃ found, resolution expression = .ok found ∧ Sketch.IsHexColour found.hex) ↔
      ∀ run, ¬ StoppedBy (trim expression) run) ∧
    ∀ fault, resolution expression = .error fault ↔
      ∃ run, StoppedBy (trim expression) run ∧ fault = ⟨run.length⟩ := by
  refine ⟨⟨?_, fun hnone => ?_⟩, fun fault => resolution_eq_error_iff⟩
  · rintro ⟨found, hfound, -⟩ run hrun
    have herror := resolution_eq_error_iff.2 ⟨run, hrun, rfl⟩
    rw [hfound] at herror
    cases herror
  · cases hresult : resolution expression with
    | ok found => exact ⟨found, rfl, Sketch.resolution_hex hresult⟩
    | error fault =>
      obtain ⟨run, hrun, -⟩ := resolution_eq_error_iff.1 hresult
      exact absurd hrun (hnone run)

/-- a numeral one digit too long -/
def longNumber : List Char := List.replicate (digitLimit + 1) '1'

/-- it has no colour, though an argument of no known form would be black -/
theorem long_number_stops : resolution longNumber = .error ⟨4301⟩ ∧
    ¬ ∃ found, resolution longNumber = .ok found ∧ Sketch.IsHexColour found.hex := by
  have hdigits : ∀ c ∈ longNumber, isDigit c = true := fun c hc => by
    rw [List.eq_of_mem_replicate hc]
    decide
  have htrim : trim longNumber = longNumber :=
    trim_of_no_blanks fun c hc => isBlank_of_isDigit (hdigits c hc)
  have hlength : longNumber.length = 4301 := List.length_replicate
  have hstops : StoppedBy (trim longNumber) longNumber := by
    rw [htrim]
    exact .number hdigits (by rw [hlength]; decide)
  have herror : resolution longNumber = .error ⟨4301⟩ :=
    resolution_eq_error_iff.2 ⟨longNumber, hstops, by rw [hlength]⟩
  refine ⟨herror, ?_⟩
  rintro ⟨found, hfound, -⟩
  cases herror.symm.trans hfound

end SketchPanel.Colour

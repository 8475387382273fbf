/-
Colours in hex and the four readers of them. All ask for one spelling: six digits of either case, two more or none, a hash
or none in front, and blanks around it. They take different ways from there: the number that the digits spell is cut into
bytes, the digits are kept and put in lower case, or the specifiers of style sheets read them in pairs. The digits of the
number are the digits in lower case, so the ways end at one colour.

Results:
- `hexText?_eq_some_iff`: the spelling of a colour in hex.
- `hexNumber_hexPadded`, `hexPadded_hexNumber`: a number from its digits, and the digits from their number.
- `hexText?_toHex`: the hex form of a colour is read back.
- `opaqueText_eq`: the digits kept in lower case are the hex form of the channels.
- `Respelt.reading`: blanks around a text, the case of its letters and the hash in front do not count.
- `specifier_toHex`: as a specifier, the hex form of a colour is that colour.
- `toRgba_eq`: the ink of a style in hex is its channels and its byte of opacity.
- `hex_readers_agree`: what the four readers make of a text, however it is spelt.
-/
import Mathlib.Tactic
import SketchPanel.Colour.Styled
import SketchPanel.Proofs.ScreenLookup
import SketchPanel.Proofs.TrailingBlanks

namespace SketchPanel.Text

/-! ## Digits of base sixteen -/

section Digits

variable {c : Char} {digits : List Char}

theorem plain_of_isHexDigit (h : isHexDigit c = true) : c.toNat < 128 := by
  unfold isHexDigit hexValue at h
  split_ifs at h with hdigit hlower hupper
  · exact Nat.lt_of_le_of_lt hdigit.2 (by decide)
  · exact Nat.lt_of_le_of_lt hlower.2 (by decide)
  · exact Nat.lt_of_le_of_lt hupper.2 (by decide)
  · cases h

/-- what a digit counts, and nought for any other character -/
def digitCount (c : Char) : Nat := (hexValue c).getD 0

theorem digitCount_lt (c : Char) : digitCount c < 16 := by
  cases hhex : isHexDigit c with
  | true => exact forall_plain (P := fun c => digitCount c < 16) (by decide +kernel) (plain_of_isHexDigit hhex)
  | false =>
    rw [isHexDigit, Option.isSome_eq_false_iff, Option.isNone_iff_eq_none] at hhex
    rw [digitCount, hhex]
    decide

theorem digitCount_hexDigit (n : Nat) : digitCount (hexDigit n) = n % 16 := by
  have h : ∀ m < 16, digitCount (Nat.digitChar m) = m := by decide
  exact h _ (Nat.mod_lt n (by decide))

theorem hexNumber_snoc (digits : List Char) (d : Char) :
    hexNumber (digits ++ [d]) = hexNumber digits * 16 + digitCount d := by
  simp only [hexNumber, List.foldl_append, List.foldl_cons, List.foldl_nil, digitCount]

/-- digits spell a number that has no more digits than they are -/
theorem hexNumber_lt (digits : List Char) : hexNumber digits < 16 ^ digits.length := by
  induction digits using List.reverseRecOn with
  | nil => decide
  | append_singleton digits d ih =>
    have hd := digitCount_lt d
    rw [hexNumber_snoc, List.length_append, List.length_singleton, pow_succ]
    omega

/-- what holds of the sixteen digits holds of all digits that are written -/
theorem forall_hexPadded {P : Char → Prop} (h : ∀ n < 16, P (Nat.digitChar n)) {width n : Nat} :
    ∀ d ∈ hexPadded width n, P d := by
  induction width generalizing n with
  | zero => simp [hexPadded]
  | succ width ih =>
    exact List.forall_mem_append.2 ⟨ih, List.forall_mem_singleton.2 (h _ (Nat.mod_lt n (by decide)))⟩

theorem isHexDigit_hexPadded {width n : Nat} : ∀ d ∈ hexPadded width n, isHexDigit d = true :=
  forall_hexPadded (by decide)

theorem toLower_hexPadded {width n : Nat} : ∀ d ∈ hexPadded width n, d.toLower = d := forall_hexPadded (by decide)

/-- the last digits of a number spell what is left of it modulo a power of sixteen -/
theorem hexNumber_hexPadded (width n : Nat) : hexNumber (hexPadded width n) = n % 16 ^ width := by
  induction width generalizing n with
  | zero => simp [hexPadded, hexNumber, Nat.mod_one]
  | succ width ih =>
    rw [hexPadded, hexNumber_snoc, ih, digitCount_hexDigit, pow_succ', Nat.mod_mul, Nat.mul_comm, Nat.add_comm]

/-- the digits of the number that digits spell are those digits, in lower case -/
theorem hexPadded_hexNumber (digits : List Char) :
    hexPadded digits.length (hexNumber digits) = digits.map fun d => hexDigit (digitCount d) := by
  induction digits using List.reverseRecOn with
  | nil => rfl
  | append_singleton digits d ih =>
    have hd := digitCount_lt d
    have hfront : (hexNumber digits * 16 + digitCount d) / 16 = hexNumber digits := by omega
    have hlast : hexDigit (hexNumber digits * 16 + digitCount d) = hexDigit (digitCount d) := by
      rw [hexDigit, hexDigit, Nat.mul_add_mod_self_right]
    rw [List.length_append, List.length_singleton, hexPadded, hexNumber_snoc, hfront, hlast, ih, List.map_append,
      List.map_singleton]

/-- the last digits of a number are those of what is left of it -/
theorem hexPadded_mod (width n : Nat) : hexPadded width (n % 16 ^ width) = hexPadded width n := by
  induction width generalizing n with
  | zero => rfl
  | succ width ih =>
    have hfront : n % 16 ^ (width + 1) / 16 = n / 16 % 16 ^ width := by rw [pow_succ', Nat.mod_mul_right_div_self]
    have hlast : hexDigit (n % 16 ^ (width + 1)) = hexDigit n := by
      rw [hexDigit, hexDigit, Nat.mod_mod_of_dvd n (dvd_pow_self 16 (Nat.succ_ne_zero width))]
    rw [hexPadded, hexPadded, hfront, hlast, ih]

theorem hexPadded_append (front back n : Nat) :
    hexPadded front (n / 16 ^ back) ++ hexPadded back n = hexPadded (front + back) n := by
  induction back generalizing n with
  | zero => simp [hexPadded]
  | succ back ih => rw [pow_succ', ← Nat.div_div_eq_div_mul, hexPadded, ← List.append_assoc, ih, Nat.add_succ, hexPadded]

end Digits

end SketchPanel.Text

namespace SketchPanel.Colour

open SketchPanel.Text SketchPanel.Imaging

/-! ## The spelling -/

/-- the text without the hash it starts with -/
def unhashed : List Char → List Char
  | '#' :: rest => rest
  | text => text

/-- six digits, and two more or none -/
def hexBody? (body : List Char) : Option HexText :=
  if (body.take 6).length = 6 ∧ ((body.drop 6).length = 0 ∨ (body.drop 6).length = 2) ∧ body.all isHexDigit then
    some ⟨body.take 6, body.drop 6⟩
  else none

/-- a colour in hex is its digits, blanks around them and a hash in front apart -/
theorem hexText?_eq (text : List Char) : hexText? text = hexBody? (unhashed (trim text)) := rfl

/-- whether there are six digits, and two more or none -/
structure HexText.Formed (t : HexText) : Prop where
  six : t.digits.length = 6
  more : t.opacity.length = 0 ∨ t.opacity.length = 2
  hex : ∀ d ∈ t.digits ++ t.opacity, isHexDigit d = true

theorem hexBody?_eq_some_iff {body : List Char} {t : HexText} :
    hexBody? body = some t ↔ body = t.digits ++ t.opacity ∧ t.Formed := by
  unfold hexBody?
  constructor
  · intro h
    split_ifs at h with hform
    obtain ⟨hsix, hmore, hhex⟩ := hform
    cases h
    have hsplit := List.take_append_drop 6 body
    exact ⟨hsplit.symm, hsix, hmore, by rw [hsplit]; exact List.all_eq_true.1 hhex⟩
  · rintro ⟨rfl, hsix, hmore, hhex⟩
    have htake : (t.digits ++ t.opacity).take 6 = t.digits := List.take_left' hsix
    have hdrop : (t.digits ++ t.opacity).drop 6 = t.opacity := List.drop_left' hsix
    rw [htake, hdrop, if_pos ⟨hsix, hmore, List.all_eq_true.2 hhex⟩]

theorem hexText?_eq_some_iff {text : List Char} {t : HexText} :
    hexText? text = some t ↔ unhashed (trim text) = t.digits ++ t.opacity ∧ t.Formed := by
  rw [hexText?_eq, hexBody?_eq_some_iff]

/-- a hash and six digits are an opaque colour -/
theorem hexText?_hashed {digits : List Char} (hlength : digits.length = 6) (hhex : ∀ d ∈ digits, isHexDigit d = true) :
    hexText? ('#' :: digits) = some ⟨digits, []⟩ := by
  have hblank : ∀ d ∈ '#' :: digits, isBlank d = false :=
    List.forall_mem_cons.2 ⟨by decide, fun d hd => isBlank_of_isHexDigit (hhex d hd)⟩
  have hbody : unhashed (trim ('#' :: digits)) = digits := by
    rw [trim_of_no_blanks hblank]
    rfl
  refine hexText?_eq_some_iff.2 ⟨by rw [hbody, List.append_nil], hlength, .inl rfl, ?_⟩
  rwa [List.append_nil]

/-! ## The hex form of a colour -/

/-- the channels modulo 256 -/
def bytes (c : Rgb) : Rgb := ⟨byte c.red, byte c.green, byte c.blue⟩

theorem bytes_rgb (t : HexText) : bytes t.rgb = t.rgb := by
  simp only [bytes, byte, HexText.rgb, Rgb.mk.injEq]
  omega

/-- the number that the digits of a colour spell -/
def colourNumber (c : Rgb) : Nat := byte c.red * 65536 + byte c.green * 256 + byte c.blue

theorem hexDigits_eq (c : Rgb) : hexDigits c = hexPadded 6 (colourNumber c) := by
  have hgreen := byte_lt c.green
  have hblue := byte_lt c.blue
  have hhigh : colourNumber c / 16 ^ 2 = byte c.red * 256 + byte c.green := by rw [colourNumber]; omega
  have hred : (byte c.red * 256 + byte c.green) / 16 ^ 2 = byte c.red := by omega
  have hlast : ∀ high low : Nat, low < 256 → hexPadded 2 (high * 256 + low) = hexPadded 2 low := by
    intro high low hlow
    rw [← hexPadded_mod 2 (high * 256 + low), ← hexPadded_mod 2 low]
    congr 1
    omega
  have hnumber : colourNumber c = (byte c.red * 256 + byte c.green) * 256 + byte c.blue := by rw [colourNumber]; omega
  rw [← hexPadded_append 4 2, ← hexPadded_append 2 2, hhigh, hred, hlast _ _ hgreen, hnumber, hlast _ _ hblue]
  rfl

theorem length_hexDigits (c : Rgb) : (hexDigits c).length = 6 := by rw [hexDigits_eq, length_hexPadded]

theorem isHexDigit_hexDigits (c : Rgb) : ∀ d ∈ hexDigits c, isHexDigit d = true := by
  rw [hexDigits_eq]
  exact isHexDigit_hexPadded

theorem hexText?_toHex (c : Rgb) : hexText? (toHex c).toList = some ⟨hexDigits c, []⟩ := by
  rw [toHex, String.toList_ofList]
  exact hexText?_hashed (length_hexDigits c) (isHexDigit_hexDigits c)

/-- the digits of a colour spell its channels modulo 256 -/
theorem rgb_hexDigits (c : Rgb) : (⟨hexDigits c, []⟩ : HexText).rgb = bytes c := by
  have hred := byte_lt c.red
  have hgreen := byte_lt c.green
  have hblue := byte_lt c.blue
  have hnumber : hexNumber (hexDigits c) = colourNumber c := by
    rw [hexDigits_eq, hexNumber_hexPadded, Nat.mod_eq_of_lt]
    rw [colourNumber]
    omega
  simp only [HexText.rgb, hnumber, colourNumber, bytes, Rgb.mk.injEq]
  omega

/-- the digits kept in lower case are those of the channels -/
theorem opaqueText_eq {t : HexText} (h : t.Formed) : t.opaqueText = toHex t.rgb := by
  have hnumber : colourNumber t.rgb = hexNumber t.digits % 16 ^ 6 := by
    simp only [colourNumber, HexText.rgb, byte]
    omega
  have hdigits : hexDigits t.rgb = t.digits.map fun d => hexDigit (digitCount d) := by
    rw [hexDigits_eq, hnumber, hexPadded_mod, ← hexPadded_hexNumber, h.six]
  rw [toHex, hdigits]
  rfl

/-! ## Other spellings -/

/-- the channels and the byte of opacity of a colour in hex -/
def reading (text : List Char) : Option (Rgb × Nat) := (hexText? text).map fun t => (t.rgb, t.alpha)

/-- whether a text is another with blanks put around it, with letters in the other case, or with a hash put in front of
its first character, if that is no hash -/
inductive Respells : List Char → List Char → Prop where
  | blanks {text left right : List Char} (hl : ∀ c ∈ left, isBlank c = true) (hr : ∀ c ∈ right, isBlank c = true) :
      Respells text (left ++ text ++ right)
  | letters {text other : List Char} (h : other.map Char.toLower = text.map Char.toLower) : Respells text other
  | hash {left rest : List Char} (hl : ∀ c ∈ left, isBlank c = true)
      (hrest : ∀ c ∈ rest.head?, isBlank c = false ∧ c ≠ '#') : Respells (left ++ rest) (left ++ '#' :: rest)

/-- whether a text comes from another by putting such things in and taking them out, any number of times -/
def Respelt (text other : List Char) : Prop := Relation.EqvGen Respells text other

section Respelling

variable {text other left rest : List Char} {c : Char}

/-- what is the same of plain letters in either case is so of all characters, for no other has a lower case here -/
theorem forall_lowered {α : Type} {f : Char → α}
    (h : ∀ code < 128, f (Char.ofNat code).toLower = f (Char.ofNat code)) (c : Char) : f c.toLower = f c := by
  by_cases hc : c.toNat < 128
  · exact forall_plain (P := fun c => f c.toLower = f c) h hc
  · have hsame : c.toLower = c := dif_neg fun hcapital => hc (Nat.lt_of_le_of_lt hcapital.2 (by decide))
    rw [hsame]

theorem isBlank_toLower (c : Char) : isBlank c.toLower = isBlank c := forall_lowered (by decide +kernel) c

theorem hexValue_toLower (c : Char) : hexValue c.toLower = hexValue c := forall_lowered (by decide +kernel) c

theorem isHash_toLower (c : Char) : decide (c.toLower = '#') = decide (c = '#') :=
  forall_lowered (f := fun c => decide (c = '#')) (by decide +kernel) c

theorem trim_lowered (text : List Char) : trim (text.map Char.toLower) = (trim text).map Char.toLower := by
  have hblank : isBlank ∘ Char.toLower = isBlank := funext isBlank_toLower
  rw [trim, trimStart, trimEnd, trim, trimStart, trimEnd, List.dropWhile_map, hblank, ← List.map_reverse,
    List.dropWhile_map, hblank, ← List.map_reverse]

theorem unhashed_cons (c : Char) (rest : List Char) : unhashed (c :: rest) = if c = '#' then rest else c :: rest := by
  by_cases hc : c = '#'
  · subst hc
    rfl
  · simp [unhashed, hc]

theorem unhashed_lowered (text : List Char) : unhashed (text.map Char.toLower) = (unhashed text).map Char.toLower := by
  cases text with
  | nil => rfl
  | cons c rest =>
    have hhash : c.toLower = '#' ↔ c = '#' := decide_eq_decide.1 (isHash_toLower c)
    rw [List.map_cons, unhashed_cons, unhashed_cons, apply_ite (List.map Char.toLower)]
    simp only [hhash, List.map_cons]

theorem hexNumber_lowered (digits : List Char) : hexNumber (digits.map Char.toLower) = hexNumber digits := by
  simp only [hexNumber, List.foldl_map, hexValue_toLower]

/-- a colour in hex in lower case -/
def HexText.lowered (t : HexText) : HexText := ⟨t.digits.map Char.toLower, t.opacity.map Char.toLower⟩

theorem hexBody?_lowered (body : List Char) : hexBody? (body.map Char.toLower) = (hexBody? body).map HexText.lowered := by
  have hhex : isHexDigit ∘ Char.toLower = isHexDigit := by
    funext c
    rw [Function.comp_apply, isHexDigit, hexValue_toLower, isHexDigit]
  simp only [hexBody?, ← List.map_take, ← List.map_drop, List.length_map, List.all_map, hhex]
  split <;> rfl

theorem HexText.reading_lowered (t : HexText) : (t.lowered.rgb, t.lowered.alpha) = (t.rgb, t.alpha) := by
  simp only [HexText.lowered, HexText.rgb, HexText.alpha, hexNumber_lowered, List.map_eq_nil_iff]

/-- a text in lower case is read as the text is -/
theorem reading_lowered (text : List Char) : reading (text.map Char.toLower) = reading text := by
  rw [reading, reading, hexText?_eq, hexText?_eq, trim_lowered, unhashed_lowered, hexBody?_lowered, Option.map_map]
  congr 1
  funext t
  exact t.reading_lowered

/-- a hash in front of the first character is passed over -/
theorem unhashed_trim_hash (hl : ∀ c ∈ left, isBlank c = true) (hrest : ∀ c ∈ rest.head?, isBlank c = false ∧ c ≠ '#') :
    unhashed (trim (left ++ '#' :: rest)) = unhashed (trim (left ++ rest)) := by
  have hhash : isBlank '#' = false := by decide
  have hhashed : trim (left ++ '#' :: rest) = '#' :: trimEnd rest := by
    rw [trim, trimStart_solid hl hhash, ← List.nil_append ('#' :: rest), trimEnd_solid hhash, List.nil_append]
  have hbare : trim (left ++ rest) = trimEnd rest := by
    rw [trim, trimStart_blanks hl fun c hc => (hrest c hc).1]
  rw [hhashed, hbare, unhashed_cons, if_pos rfl]
  cases rest with
  | nil => rfl
  | cons c rest =>
    obtain ⟨hsolid, hne⟩ := hrest c rfl
    rw [← List.nil_append (c :: rest), trimEnd_solid hsolid, List.nil_append, unhashed_cons, if_neg hne]

/-- however a text is spelt, it is read as the same colour -/
theorem Respelt.reading (h : Respelt text other) : Colour.reading other = Colour.reading text := by
  induction h with
  | refl => rfl
  | symm _ _ _ ih => exact ih.symm
  | trans _ _ _ _ _ ih ih' => exact ih'.trans ih
  | rel text other h =>
    cases h with
    | blanks hl hr => rw [Colour.reading, Colour.reading, hexText?_eq, hexText?_eq, trim_margins hl hr]
    | letters h => rw [← reading_lowered other, h, reading_lowered]
    | hash hl hrest => rw [Colour.reading, Colour.reading, hexText?_eq, hexText?_eq, unhashed_trim_hash hl hrest]

end Respelling

/-! ## The hex form as a specifier -/

theorem lower_toHex (c : Rgb) : lower (toHex c) = toHex c := by
  have hplain : Plain ('#' :: hexDigits c) :=
    plain_cons.2 ⟨by decide, fun d hd => plain_of_isHexDigit (isHexDigit_hexDigits c d hd)⟩
  have hlow : ('#' :: hexDigits c).map Char.toLower = '#' :: hexDigits c := by
    refine (List.map_congr_left (List.forall_mem_cons.2 ⟨by decide, ?_⟩)).trans (List.map_id _)
    rw [hexDigits_eq]
    exact toLower_hexPadded
  rw [lower_plain (by rwa [toHex, String.toList_ofList]), toHex, String.toList_ofList, hlow]

/-- no colour that has a name starts with a hash -/
theorem named?_toHex (c : Rgb) : named? (toHex c) = none := by
  have hname : ∀ entry ∈ namedColours, entry.1.toList.head? ≠ some '#' := by decide +kernel
  refine List.lookup_eq_none_iff.2 fun entry hentry => bne_iff_ne.2 ?_
  rintro heq
  refine hname entry hentry ?_
  rw [← heq, toHex, String.toList_ofList, List.head?_cons]

theorem hashed?_toHex (c : Rgb) : hashed? (toHex c).toList = some ⟨bytes c, none⟩ := by
  have htake : (hexDigits c).takeWhile isHexDigit = hexDigits c := List.takeWhile_eq_self_iff.2 (isHexDigit_hexDigits c)
  have hdrop : (hexDigits c).dropWhile isHexDigit = [] := List.dropWhile_eq_nil_iff.2 (isHexDigit_hexDigits c)
  have hbyte : ∀ n : Int, hexNumber (hexByte n) = byte n := fun n => by
    rw [hexByte, hexNumber_hexPadded]
    exact Nat.mod_eq_of_lt (byte_lt n)
  have hred : (hexDigits c).take 2 = hexByte c.red := rfl
  have hgreen : ((hexDigits c).drop 2).take 2 = hexByte c.green := rfl
  have hblue : ((hexDigits c).drop 4).take 2 = hexByte c.blue := rfl
  rw [toHex, String.toList_ofList]
  simp [hashed?, htake, hdrop, length_hexDigits, hred, hgreen, hblue, hbyte, bytes, atEnd]

/-- as a specifier, the hex form of a colour is the colour -/
theorem specifier_toHex (c : Rgb) : specifier (toHex c) = .ok ⟨bytes c, none⟩ := by
  have hlength : ¬ 100 < (toHex c).length := by
    rw [toHex, String.length_ofList, List.length_cons, length_hexDigits]
    decide
  simp only [specifier, if_neg hlength, lower_toHex, named?_toHex, hashed?_toHex]

/-! ## The ink of a style -/

theorem HexText.Formed.alpha_lt {t : HexText} (h : t.Formed) : t.alpha < 256 := by
  unfold HexText.alpha
  split_ifs with hopaque
  · decide
  · have htwo : t.opacity.length = 2 := h.more.resolve_left fun hnone => hopaque (List.length_eq_zero_iff.1 hnone)
    have hlt := hexNumber_lt t.opacity
    rwa [htwo] at hlt

/-- a byte of opacity comes back from its share of one -/
theorem opacityByte_opacityShare {alpha : Nat} (h : alpha < 256) : opacityByte (opacityShare alpha) = .ok alpha := by
  have hbytes : ∀ a < 256, (opacityByte (opacityShare a)).toOption = some (a : Int) := by decide +kernel
  have hbyte := hbytes alpha h
  cases hround : opacityByte (opacityShare alpha) with
  | ok n =>
    rw [hround] at hbyte
    exact congrArg _ (Option.some.inj hbyte)
  | error fault =>
    rw [hround] at hbyte
    cases hbyte

/-- the short form: a colour in hex is its channels and its byte of opacity -/
theorem toRgba_eq (style : String) : toRgba style =
    match hexText? style.toList with
    | some t => .ok ⟨t.rgb, t.alpha⟩
    | none => (specifier style).map fun found => ⟨found.rgb, found.alpha.getD 255⟩ := by
  cases h : hexText? style.toList with
  | some t =>
    have hform := (hexText?_eq_some_iff.1 h).2
    have hshare := opacityByte_opacityShare hform.alpha_lt
    simp only [toRgba, splitAlpha, h, opaqueText_eq hform, specifier_toHex, bytes_rgb, hshare]
    rfl
  | none =>
    simp only [toRgba, splitAlpha, h]
    cases specifier style <;> rfl

/-! ## The readers -/

/-- whether a text is spelt as a colour in hex: six or eight digits, a hash or none in front, and blanks around it -/
def SpeltHex (text : List Char) : Prop :=
  ∃ left hash digits right, (∀ c ∈ left, isBlank c = true) ∧ (∀ c ∈ right, isBlank c = true) ∧ (hash = [] ∨ hash = ['#']) ∧
    (digits.length = 6 ∨ digits.length = 8) ∧ (∀ d ∈ digits, isHexDigit d = true) ∧
    text = left ++ (hash ++ digits) ++ right

/-- the texts that are read are those that are spelt so -/
theorem speltHex_iff {text : List Char} : SpeltHex text ↔ ∃ t, hexText? text = some t := by
  constructor
  · rintro ⟨left, hash, digits, right, hl, hr, hhash, hlength, hhex, rfl⟩
    have hsolid : ∀ c ∈ hash ++ digits, isBlank c = false := by
      refine List.forall_mem_append.2 ⟨fun c hc => ?_, fun c hc => isBlank_of_isHexDigit (hhex c hc)⟩
      rcases hhash with rfl | rfl
      · cases hc
      · rw [List.mem_singleton.1 hc]
        decide
    have hbody : unhashed (trim (left ++ (hash ++ digits) ++ right)) = digits := by
      rw [trim_margins hl hr, trim_of_no_blanks hsolid]
      rcases hhash with rfl | rfl
      · cases digits with
        | nil => rfl
        | cons d digits =>
          have hd : d ≠ '#' := by
            rintro rfl
            exact absurd (hhex '#' List.mem_cons_self) (by decide)
          rw [List.nil_append, unhashed_cons, if_neg hd]
      · rfl
    refine ⟨⟨digits.take 6, digits.drop 6⟩, hexText?_eq_some_iff.2 ⟨?_, ?_, ?_, ?_⟩⟩
    · rw [hbody, List.take_append_drop]
    · rw [List.length_take]
      omega
    · rw [List.length_drop]
      omega
    · rwa [List.take_append_drop]
  · rintro ⟨t, ht⟩
    obtain ⟨hbody, hform⟩ := hexText?_eq_some_iff.1 ht
    obtain ⟨left, right, hl, hr, htext⟩ := exists_trim text
    have hhash : ∃ hash, (hash = [] ∨ hash = ['#']) ∧ trim text = hash ++ unhashed (trim text) := by
      cases trim text with
      | nil => exact ⟨[], .inl rfl, rfl⟩
      | cons c rest =>
        rw [unhashed_cons]
        split_ifs with hc
        · exact ⟨['#'], .inr rfl, by rw [hc]; rfl⟩
        · exact ⟨[], .inl rfl, rfl⟩
    obtain ⟨hash, hhash, hcore⟩ := hhash
    refine ⟨left, hash, t.digits ++ t.opacity, right, hl, hr, hhash, ?_, hform.hex, by rw [← hbody, ← hcore]; exact htext⟩
    have hsix := hform.six
    have hmore := hform.more
    rw [List.length_append]
    omega

/-- what the readers make of a text that is a colour in hex -/
structure Answers (text : String) (c : Rgb) (alpha : Nat) : Prop where
  channels : hexToRgb text = .ok c
  split : splitAlpha text = .ok (toHex c, alpha)
  opaqueForm : opaqueHex text = .ok (toHex c)
  ink : toRgba text = .ok ⟨c, alpha⟩

/-- whether the readers of nothing but hex refuse a text -/
structure Refuses (text : String) : Prop where
  channels : hexToRgb text = .error (.notHex text)
  split : splitAlpha text = .error (.notHex text)

section Readers

variable {text : String} {c : Rgb} {alpha : Nat}

theorem answers_of_reading (h : reading text.toList = some (c, alpha)) : Answers text c alpha := by
  obtain ⟨t, ht, hpair⟩ := Option.map_eq_some_iff.1 h
  obtain ⟨rfl, rfl⟩ := Prod.mk.inj hpair
  have hform := (hexText?_eq_some_iff.1 ht).2
  constructor
  · rw [hexToRgb, ht]
  · rw [splitAlpha, ht, ← opaqueText_eq hform]
  · rw [opaqueHex, ht, ← opaqueText_eq hform]
  · rw [toRgba_eq, ht]

theorem refuses_of_reading (h : reading text.toList = none) : Refuses text := by
  have hnone := Option.map_eq_none_iff.1 h
  constructor
  · rw [hexToRgb, hnone]
  · rw [splitAlpha, hnone]

/-- the hex form of a colour is read as the colour, opaque -/
theorem reading_toHex (c : Rgb) : reading (toHex c).toList = some (bytes c, 255) := by
  rw [reading, hexText?_toHex, Option.map_some, rgb_hexDigits]
  rfl

end Readers

/-- **The readers agree.** A text is spelt as a colour in hex or it is not. If it is, all readers answer with one colour,
however else the text is spelt; the hex form of the colour is read as itself and opaque, and as a specifier it is that
colour too. If it is not, the readers of hex refuse it, and all its other spellings. -/
theorem hex_readers_agree (text : String) :
    (SpeltHex text.toList ∧ ∃ c alpha, Answers text c alpha ∧
        (∀ other : String, Respelt text.toList other.toList → Answers other c alpha) ∧
        Answers (toHex c) c 255 ∧ opacityShare 255 = 1 ∧ specifier (toHex c) = .ok ⟨c, none⟩) ∨
      (¬ SpeltHex text.toList ∧ Refuses text ∧
        ∀ other : String, Respelt text.toList other.toList → Refuses other) := by
  cases h : hexText? text.toList with
  | some t =>
    have hreading : reading text.toList = some (t.rgb, t.alpha) := by rw [reading, h, Option.map_some]
    have hself : reading (toHex t.rgb).toList = some (t.rgb, 255) := by rw [reading_toHex, bytes_rgb]
    refine Or.inl ⟨speltHex_iff.2 ⟨t, h⟩, t.rgb, t.alpha, answers_of_reading hreading, fun other hother => ?_,
      answers_of_reading hself, by decide, ?_⟩
    · exact answers_of_reading (hother.reading.trans hreading)
    · rw [specifier_toHex, bytes_rgb]
  | none =>
    have hreading : reading text.toList = none := by rw [reading, h, Option.map_none]
    refine Or.inr ⟨fun hspelt => ?_, refuses_of_reading hreading, fun other hother => ?_⟩
    · obtain ⟨t, ht⟩ := speltHex_iff.1 hspelt
      rw [h] at ht
      cases ht
    · exact refuses_of_reading (hother.reading.trans hreading)

end SketchPanel.Colour

/-
Packed colours and their channels. Packing cuts the scale of a channel into cells, one for each value of its field, and
keeps the number of the cell; unpacking scales the number to 0 .. 255 and rounds to the nearest. As the cells make up the
scale, the rounded number lies in the very cell, whatever the width of the field. So a packed colour is the packing of its
own channels, and a channel comes back within its cell.

Results:
- `roundHalfEven_between`: rounding stays between whole numbers.
- `widen_cell`: a widened field lies in its cell.
- `pack_unpack`: packing after unpacking keeps the lowest sixteen bits.
- `unpack_pack_near`: unpacking after packing changes each channel by less than the width of its cell.
- `packed_codec`: the same of packed colours and colours in hex.
Witness:
- `packed_codec_spelt`: a colour with an opacity, in digits of either case with blanks around them.
-/
import Mathlib.Tactic
import SketchPanel.Proofs.HexColours
import SketchPanel.Proofs.RegisterEdges

namespace SketchPanel.Number

theorem roundHalfEven_exact {den : Nat} (hden : 0 < den) (n : Nat) : roundHalfEven (n * den) den = n := by
  simp [roundHalfEven, Nat.mul_div_cancel n hden, Nat.mul_mod_left, hden]

/-- a quotient between two whole numbers is rounded to one between them -/
theorem roundHalfEven_between {low high num den : Nat} (hden : 0 < den) (hlow : low * den ≤ num)
    (hhigh : num ≤ high * den) : low ≤ roundHalfEven num den ∧ roundHalfEven num den ≤ high := by
  have hdown := roundHalfEven_mono hlow den
  have hup := roundHalfEven_mono hhigh den
  rw [roundHalfEven_exact hden] at hdown hup
  exact ⟨hdown, hup⟩

end SketchPanel.Number

namespace SketchPanel.Colour

open SketchPanel.Number

/-! ## Cells -/

section Cells

variable {top step field : Nat}

/-- a widened field lies in its cell, if cells of this width make up the scale -/
theorem widen_cell (htop : 0 < top) (hscale : (top + 1) * step = 256) (hfield : field ≤ top) :
    field * step ≤ widen top field ∧ widen top field < field * step + step := by
  have hstep : 0 < step := Nat.pos_of_ne_zero fun h => by simp [h] at hscale
  have hlow : field * step * top ≤ field * 255 := by
    calc field * step * top = field * (top * step) := by ring
      _ ≤ field * 255 := Nat.mul_le_mul_left field (by rw [Nat.add_mul] at hscale; omega)
  have hhigh : field * 255 ≤ (field * step + (step - 1)) * top := by
    have hrest : 255 = top * step + (step - 1) := by rw [Nat.add_mul] at hscale; omega
    calc field * 255 = field * step * top + field * (step - 1) := by rw [hrest]; ring
      _ ≤ field * step * top + top * (step - 1) := Nat.add_le_add_left (Nat.mul_le_mul_right _ hfield) _
      _ = (field * step + (step - 1)) * top := by ring
  obtain ⟨hdown, hup⟩ := roundHalfEven_between htop hlow hhigh
  exact ⟨hdown, by unfold widen; omega⟩

end Cells

/-- five bits in cells of eight -/
theorem widen_five {field : Nat} (h : field < 32) : field * 8 ≤ widen 31 field ∧ widen 31 field < field * 8 + 8 :=
  widen_cell (by decide) (by decide) (by omega)

/-- six bits in cells of four -/
theorem widen_six {field : Nat} (h : field < 64) : field * 4 ≤ widen 63 field ∧ widen 63 field < field * 4 + 4 :=
  widen_cell (by decide) (by decide) (by omega)

/-! ## Packing and unpacking -/

/-- an unpacked channel lies in the cell of its field -/
theorem unpack_cells (code : Int) : ∃ r g b : Nat, unpack code = ⟨r, g, b⟩ ∧ r < 256 ∧ g < 256 ∧ b < 256 ∧
    (code % 65536).toNat = r / 8 * 2048 + g / 4 * 32 + b / 8 := by
  have hred := widen_five (Nat.mod_lt ((code % 65536).toNat / 2048) (by decide : 0 < 32))
  have hgreen := widen_six (Nat.mod_lt ((code % 65536).toNat / 32) (by decide : 0 < 64))
  have hblue := widen_five (Nat.mod_lt (code % 65536).toNat (by decide : 0 < 32))
  refine ⟨_, _, _, rfl, ?_, ?_, ?_, ?_⟩ <;> omega

/-- packing after unpacking keeps the lowest sixteen bits -/
theorem pack_unpack (code : Int) : pack (unpack code) = code % 65536 := by
  obtain ⟨r, g, b, hunpack, hr, hg, hb, hword⟩ := unpack_cells code
  rw [hunpack, pack]
  dsimp only
  omega

/-- the channels of an unpacked colour are bytes -/
theorem bytes_unpack (code : Int) : bytes (unpack code) = unpack code := by
  obtain ⟨r, g, b, hunpack, hr, hg, hb, -⟩ := unpack_cells code
  rw [hunpack]
  simp only [bytes, byte, Rgb.mk.injEq]
  omega

/-- a packed colour has sixteen bits -/
theorem pack_bounds (c : Rgb) : 0 ≤ pack c ∧ pack c < 65536 := by
  unfold pack
  omega

/-- a packed colour has but one cell for each channel -/
theorem cells_unique {r g b r' g' b' : Int} (hg : 0 ≤ g ∧ g < 64) (hb : 0 ≤ b ∧ b < 32) (hg' : 0 ≤ g' ∧ g' < 64)
    (hb' : 0 ≤ b' ∧ b' < 32) (h : r * 2048 + g * 32 + b = r' * 2048 + g' * 32 + b') : r = r' ∧ g = g' ∧ b = b' := by
  omega

/-- unpacking after packing leaves each channel in its cell -/
theorem unpack_pack_near {c : Rgb} (hc : bytes c = c) : ((unpack (pack c)).red - c.red).natAbs ≤ 7 ∧
    ((unpack (pack c)).green - c.green).natAbs ≤ 3 ∧ ((unpack (pack c)).blue - c.blue).natAbs ≤ 7 := by
  obtain ⟨r, g, b, hunpack, hr, hg, hb, hword⟩ := unpack_cells (pack c)
  obtain ⟨hlow, hhigh⟩ := pack_bounds c
  obtain ⟨red, green, blue⟩ := c
  simp only [bytes, Rgb.mk.injEq] at hc
  obtain ⟨hcr, hcg, hcb⟩ := hc
  have hred : red / 8 % 32 = red / 8 := by unfold byte at hcr; omega
  have hgreen : 0 ≤ green / 4 ∧ green / 4 < 64 := by unfold byte at hcg; omega
  have hblue : 0 ≤ blue / 8 ∧ blue / 8 < 32 := by unfold byte at hcb; omega
  have hcells : (r : Int) / 8 * 2048 + g / 4 * 32 + b / 8 = red / 8 * 2048 + green / 4 * 32 + blue / 8 := by
    calc (r : Int) / 8 * 2048 + g / 4 * 32 + b / 8 = (pack ⟨red, green, blue⟩ % 65536).toNat := by
          rw [hword]
          norm_cast
      _ = pack ⟨red, green, blue⟩ := by rw [Int.emod_eq_of_lt hlow hhigh, Int.toNat_of_nonneg hlow]
      _ = red / 8 * 2048 + green / 4 * 32 + blue / 8 := by
          rw [pack, hred, Int.emod_eq_of_lt hgreen.1 hgreen.2, Int.emod_eq_of_lt hblue.1 hblue.2]
  rw [hunpack]
  obtain ⟨hr', hg', hb'⟩ := cells_unique (by omega) (by omega) hgreen hblue hcells
  refine ⟨?_, ?_, ?_⟩ <;> dsimp only <;> omega

/-! ## In hex -/

theorem hexToRgb_toHex (c : Rgb) : hexToRgb (toHex c) = .ok (bytes c) :=
  (answers_of_reading (reading_toHex c)).channels

/-- a packed colour is read back from its hex form -/
theorem hexToPacked_packedToHex (code : Int) : hexToPacked (packedToHex code) = .ok (code % 65536) := by
  rw [hexToPacked, packedToHex, hexToRgb_toHex, bytes_unpack]
  exact congrArg Except.ok (pack_unpack code)

/-- the channels read from hex are bytes -/
theorem bytes_of_hexToRgb {text : String} {c : Rgb} (h : hexToRgb text = .ok c) : bytes c = c := by
  unfold hexToRgb at h
  split at h
  · cases h
    exact bytes_rgb _
  · cases h

/-- **Packed colours.** A whole number as a packed colour in hex is read back as its lowest sixteen bits. A colour in hex,
however it is spelt, is packed into sixteen bits; unpacked again, its channels are off by no more than seven, three and
seven, and packing these gives the same packed colour, by channels or by their hex form. -/
theorem packed_codec :
    (∀ code : Int, hexToPacked (packedToHex code) = .ok (code % 65536)) ∧
      ∀ (text : String) (c : Rgb), hexToRgb text = .ok c →
        ∃ code, hexToPacked text = .ok code ∧ 0 ≤ code ∧ code < 65536 ∧
          ((unpack code).red - c.red).natAbs ≤ 7 ∧ ((unpack code).green - c.green).natAbs ≤ 3 ∧
          ((unpack code).blue - c.blue).natAbs ≤ 7 ∧
          pack (unpack code) = code ∧ hexToPacked (toHex (unpack code)) = .ok code := by
  refine ⟨hexToPacked_packedToHex, fun text c h => ?_⟩
  obtain ⟨hlow, hhigh⟩ := pack_bounds c
  obtain ⟨hred, hgreen, hblue⟩ := unpack_pack_near (bytes_of_hexToRgb h)
  have hmod : pack c % 65536 = pack c := Int.emod_eq_of_lt hlow hhigh
  have hpacked : hexToPacked text = .ok (pack c) := by rw [hexToPacked, h]; rfl
  refine ⟨pack c, hpacked, hlow, hhigh, hred, hgreen, hblue, ?_, ?_⟩
  · rw [pack_unpack, hmod]
  · have hcode := hexToPacked_packedToHex (pack c)
    rwa [hmod] at hcode

/-- a colour with an opacity, in digits of either case and with blanks around it -/
theorem packed_codec_spelt :
    hexToRgb "\t#0A7fC380 " = .ok ⟨10, 127, 195⟩ ∧
      ∃ code, hexToPacked "\t#0A7fC380 " = .ok code ∧ pack (unpack code) = code ∧
        ((unpack code).green - 127).natAbs ≤ 3 := by
  have hread : hexToRgb "\t#0A7fC380 " = .ok ⟨10, 127, 195⟩ := by decide +kernel
  obtain ⟨code, hpacked, -, -, -, hgreen, -, hagain, -⟩ := packed_codec.2 _ _ hread
  exact ⟨hread, code, hpacked, hagain, hgreen⟩

end SketchPanel.Colour

import Mathlib

/-! # Floats in 64 bits

An operation on floats takes them apart, computes, and packs the result into 64 bits.
Packing forgets nothing about a float that came out of 64 bits. Whatever it makes of
another result, it keeps the sign, and the opposite result is packed into the opposite
float.
-/

namespace PlanarMesh.Packing

open Float.Model (Format UnpackedFloat)
open Float.Model.UnpackedFloat

abbrev format : Format := Format.binary64

/-! ## Components -/

theorem toBitVec_ofBitVec (bit : BitVec 1) : (Sign.ofBitVec bit).toBitVec = bit := by
  revert bit
  decide

@[simp] theorem ofBitVec_unpackSign_packComponents (sign : Sign) (exponent : BitVec 11)
    (mantissa : BitVec 52) :
    Sign.ofBitVec (unpackSign (packComponents format sign exponent mantissa)) = sign := by
  simp only [unpackSign, packComponents, BitVec.extractLsb]
  rw [BitVec.extractLsb'_append_eq_of_le (by omega),
    BitVec.extractLsb'_append_eq_of_le (by omega)]
  cases sign with
  | negative => rfl
  | positive => rfl

/-- A word is its sign bit, its exponent bits and its mantissa bits. -/
theorem packComponents_unpack (bits : BitVec format.numBits) :
    packComponents format (Sign.ofBitVec (unpackSign bits)) (unpackExponent bits)
      (unpackMantissa bits) = bits := by
  simp only [packComponents, toBitVec_ofBitVec, unpackSign, unpackExponent, unpackMantissa,
    BitVec.extractLsb]
  ext position inside
  grind

theorem toNat_one_append (mantissa : BitVec 52) :
    (1#1 ++ mantissa).toNat = 2 ^ 52 + mantissa.toNat := by
  rw [BitVec.toNat_append, ← Nat.shiftLeft_add_eq_or_of_lt mantissa.isLt]
  rfl

theorem toNat_pos {mantissa : BitVec 52} (some : mantissa ≠ 0#52) : 0 < mantissa.toNat := by
  rw [Nat.pos_iff_ne_zero]
  intro zero
  exact some (BitVec.eq_of_toNat_eq zero)

def assembled (sign : Sign) (exponent : BitVec 11) (mantissa : BitVec 52) : UnpackedFloat :=
  if exponent = -1#11 then
    if mantissa = 0#52 then .infinity sign else .notANumber
  else if exponent = 0#11 then
    if some : mantissa = 0#52 then
      .zero sign
    else
      .finite sign mantissa.toNat (-1074) (toNat_pos some)
  else
    .finite sign (2 ^ 52 + mantissa.toNat) (exponent.toNat - 1075) (by omega)

theorem unpack_packComponents (sign : Sign) (exponent : BitVec 11) (mantissa : BitVec 52) :
    unpack format (packComponents format sign exponent mantissa) =
      assembled sign exponent mantissa := by
  have bias : ((format.exponentBias : Nat) : Int) + (52 : Nat) = 1075 := rfl
  unfold unpack
  simp only [unpackMantissa_packComponents, unpackExponent_packComponents,
    ofBitVec_unpackSign_packComponents, assembled, bias, toNat_one_append]
  split
  · rfl
  · split
    · rename_i bottom
      simp only [bottom]
      rfl
    · rfl

/-! ## Packing what was unpacked -/

theorem pack_subnormal (sign : Sign) {mantissa : BitVec 52} (positive : 0 < mantissa.toNat) :
    pack format (.finite sign mantissa.toNat (-1074) positive) =
      packComponents format sign 0#11 mantissa := by
  have below : mantissa.toNat.log2 < 52 :=
    (Nat.log2_lt (Nat.ne_of_gt positive)).mpr mantissa.isLt
  have biased : (-1074 + (format.exponentBias : Int) + (52 : Nat)).toNat = 1 := rfl
  unfold pack
  simp only [biased]
  rw [if_neg (by decide), if_neg (by change ¬mantissa.toNat.log2 + 1 = 53; omega),
    BitVec.ofNat_toNat, BitVec.setWidth_eq]

theorem pack_normal (sign : Sign) {exponent : BitVec 11} (notTop : exponent ≠ -1#11)
    (mantissa : BitVec 52) (positive : 0 < 2 ^ 52 + mantissa.toNat) :
    pack format (.finite sign (2 ^ 52 + mantissa.toNat) (exponent.toNat - 1075) positive) =
      packComponents format sign exponent mantissa := by
  have small := mantissa.isLt
  have inField := exponent.isLt
  have notLast : exponent.toNat ≠ 2047 := fun last =>
    notTop (BitVec.eq_of_toNat_eq last)
  have leading : (2 ^ 52 + mantissa.toNat).log2 = 52 := by
    rw [Nat.log2_eq_iff (Nat.ne_of_gt positive)]
    omega
  have bias : (format.exponentBias : Int) = 1023 := rfl
  have biased : ((exponent.toNat : Int) - 1075 + format.exponentBias + (52 : Nat)).toNat =
      exponent.toNat := by
    rw [bias]
    omega
  have kept : BitVec.ofNat 52 (2 ^ 52 + mantissa.toNat) = mantissa := by
    apply BitVec.eq_of_toNat_eq
    rw [BitVec.toNat_ofNat, Nat.add_mod_left, Nat.mod_eq_of_lt small]
  unfold pack
  simp only [biased, leading]
  rw [if_neg (by change ¬2048 ≤ exponent.toNat + 1; omega),
    if_pos (show 52 + 1 = format.mantissaBits from rfl), BitVec.ofNat_toNat,
    BitVec.setWidth_eq, kept]

theorem pack_assembled (sign : Sign) {exponent : BitVec 11} {mantissa : BitVec 52}
    (number : exponent = -1#11 → mantissa = 0#52) :
    pack format (assembled sign exponent mantissa) =
      packComponents format sign exponent mantissa := by
  unfold assembled
  split
  · rename_i top
    rw [if_pos (number top), top, number top]
    rfl
  · rename_i notTop
    split
    · rename_i bottom
      split
      · rename_i empty
        rw [bottom, empty]
        rfl
      · rw [bottom]
        exact pack_subnormal sign _
    · exact pack_normal sign notTop mantissa _

/-- There is one word for what is not a number. -/
theorem pack_unpack {bits : BitVec format.numBits} (valid : format.Valid bits) :
    pack format (unpack format bits) = bits := by
  have recomposed := packComponents_unpack bits
  by_cases number : unpackExponent bits = -1#11 → unpackMantissa bits = 0#52
  · rw [← recomposed, unpack_packComponents, pack_assembled _ number]
  · rw [Classical.not_imp] at number
    have notANumber : unpack format bits = .notANumber := by
      rw [← recomposed, unpack_packComponents, assembled, if_pos number.1,
        if_neg number.2]
    rw [notANumber, valid.eq_packedNaN number.1 number.2]
    rfl

/-! ## Packing any result -/

def sign? : UnpackedFloat → Option Sign
  | .notANumber => none
  | .infinity sign => some sign
  | .zero sign => some sign
  | .finite sign _ _ _ => some sign

theorem sign?_assembled (sign : Sign) {exponent : BitVec 11} {mantissa : BitVec 52}
    (number : exponent = -1#11 → mantissa = 0#52) :
    sign? (assembled sign exponent mantissa) = some sign := by
  unfold assembled
  split
  · rename_i top
    rw [if_pos (number top)]
    rfl
  · split
    · split
      · rfl
      · rfl
    · rfl

theorem assembled_neg (sign : Sign) (exponent : BitVec 11) (mantissa : BitVec 52) :
    assembled (-sign) exponent mantissa = (assembled sign exponent mantissa).neg := by
  unfold assembled
  split
  · split
    · rfl
    · rfl
  · split
    · split
      · rfl
      · rfl
    · rfl

theorem exists_packComponents {float : UnpackedFloat} {sign : Sign}
    (signed : sign? float = some sign) :
    ∃ (exponent : BitVec 11) (mantissa : BitVec 52),
      (exponent = -1#11 → mantissa = 0#52) ∧
      pack format float = packComponents format sign exponent mantissa ∧
      pack format float.neg = packComponents format (-sign) exponent mantissa := by
  cases float with
  | notANumber => cases signed
  | infinity own =>
      cases signed
      exact ⟨-1#11, 0#52, fun _ => rfl, rfl, rfl⟩
  | zero own =>
      cases signed
      exact ⟨0#11, 0#52, fun _ => rfl, rfl, rfl⟩
  | finite own mantissa exponent positive =>
      cases signed
      unfold pack UnpackedFloat.neg
      dsimp only
      split
      · exact ⟨-1#11, 0#52, fun _ => rfl, rfl, rfl⟩
      · rename_i fits
        split
        · refine ⟨_, _, ?_, rfl, rfl⟩
          intro top
          have field := congrArg BitVec.toNat top
          have last : (-1#11).toNat = 2047 := rfl
          rw [BitVec.toNat_ofNat, last] at field
          change ¬2048 ≤ _ at fits
          rw [Nat.mod_eq_of_lt (by change _ < 2048; omega)] at field
          omega
        · refine ⟨0#11, _, ?_, rfl, rfl⟩
          intro top
          cases top

theorem sign?_unpack_pack (float : UnpackedFloat) :
    sign? (unpack format (pack format float)) = sign? float := by
  cases signed : sign? float with
  | none =>
      cases float with
      | notANumber => rfl
      | _ => cases signed
  | some sign =>
      rcases exists_packComponents signed with ⟨exponent, mantissa, number, packed, _⟩
      rw [packed, unpack_packComponents, sign?_assembled sign number]

theorem unpack_pack_neg (float : UnpackedFloat) :
    unpack format (pack format float.neg) = (unpack format (pack format float)).neg := by
  cases signed : sign? float with
  | none =>
      cases float with
      | notANumber => rfl
      | _ => cases signed
  | some sign =>
      rcases exists_packComponents signed with ⟨exponent, mantissa, _, packed, opposite⟩
      rw [packed, opposite, unpack_packComponents, unpack_packComponents, assembled_neg]

end PlanarMesh.Packing

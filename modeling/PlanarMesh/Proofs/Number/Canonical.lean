import PlanarMesh.Proofs.Number.Laws

/-! # Canonical parts

Among the many ways to write a number as `mantissa · 2 ^ exponent` a float takes the one
with 53 bits in the mantissa, or with the least exponent when the number is too small for
that. Parts in this form survive packing, and a rounding operation whose exact result has
such parts gives them back.
-/

namespace PlanarMesh.Number

open Float.Model (UnpackedFloat totalExponent)
open Float.Model.UnpackedFloat
open Packing

/-- The parts of a finite float other than zero. -/
structure IsCanonical (mantissa : Nat) (exponent : Int) : Prop where
  positive : 0 < mantissa
  small : mantissa < 2 ^ 53
  lower : -1074 ≤ exponent
  upper : exponent ≤ 971
  full : exponent = -1074 ∨ 2 ^ 52 ≤ mantissa

variable {mantissa : Nat} {exponent : Int}

theorem format_targetExponent (total : Int) :
    format.targetExponent total = max (total - 53) (-1074) := rfl

namespace IsCanonical

variable (canonical : IsCanonical mantissa exponent)
include canonical

theorem log2_le : mantissa.log2 ≤ 52 := by
  have below := (Nat.log2_lt (Nat.ne_of_gt canonical.positive)).mpr canonical.small
  omega

theorem log2_eq (aboveLeast : exponent ≠ -1074) : mantissa.log2 = 52 := by
  rcases canonical.full with least | full
  · exact absurd least aboveLeast
  · have above := (Nat.le_log2 (Nat.ne_of_gt canonical.positive)).mpr full
    have below := canonical.log2_le
    omega

theorem targetExponent_eq :
    format.targetExponent (totalExponent mantissa exponent) = exponent := by
  rw [format_targetExponent, totalExponent]
  have below := canonical.log2_le
  have lower := canonical.lower
  by_cases least : exponent = -1074
  · omega
  · have equal := canonical.log2_eq least
    omega

end IsCanonical

/-! ## Packing -/

theorem unpack_pack_subnormal (sign : Sign) {field : BitVec 52} (positive : 0 < field.toNat) :
    unpack format (pack format (.finite sign field.toNat (-1074) positive)) =
      .finite sign field.toNat (-1074) positive := by
  have nonzero : field ≠ 0#52 := by
    rintro rfl
    exact absurd positive (by decide)
  rw [pack_subnormal sign positive, unpack_packComponents, assembled, if_neg (by decide),
    if_pos rfl, dif_neg nonzero]

theorem unpack_pack_normal (sign : Sign) {top : BitVec 11} (notLast : top ≠ -1#11)
    (notFirst : top ≠ 0#11) (field : BitVec 52) (positive : 0 < 2 ^ 52 + field.toNat) :
    unpack format (pack format
        (.finite sign (2 ^ 52 + field.toNat) (top.toNat - 1075) positive)) =
      .finite sign (2 ^ 52 + field.toNat) (top.toNat - 1075) positive := by
  rw [pack_normal sign notLast field positive, unpack_packComponents, assembled,
    if_neg notLast, if_neg notFirst]

theorem exists_field (bits value : Nat) (fits : value < 2 ^ bits) :
    ∃ field : BitVec bits, field.toNat = value :=
  ⟨BitVec.ofNat bits value, by rw [BitVec.toNat_ofNat, Nat.mod_eq_of_lt fits]⟩

theorem IsCanonical.unpack_pack (canonical : IsCanonical mantissa exponent) (sign : Sign) :
    unpack format (pack format (.finite sign mantissa exponent canonical.positive)) =
      .finite sign mantissa exponent canonical.positive := by
  have positive := canonical.positive
  rcases canonical with ⟨-, small, lower, upper, full⟩
  by_cases leading : 2 ^ 52 ≤ mantissa
  · rcases exists_field 52 (mantissa - 2 ^ 52) (by omega) with ⟨field, low⟩
    rcases exists_field 11 (exponent + 1075).toNat (by omega)
      with ⟨top, high⟩
    have notLast : top ≠ -1#11 := by
      rintro rfl
      change 2047 = _ at high
      omega
    have notFirst : top ≠ 0#11 := by
      rintro rfl
      change 0 = _ at high
      omega
    obtain rfl : mantissa = 2 ^ 52 + field.toNat := by omega
    obtain rfl : exponent = top.toNat - 1075 := by omega
    exact unpack_pack_normal sign notLast notFirst field positive
  · rcases exists_field 52 mantissa (by omega) with ⟨field, rfl⟩
    obtain rfl : exponent = -1074 := by omega
    exact unpack_pack_subnormal sign positive

/-! ## Fields of a float -/

def wordOf (number : Float) : BitVec format.numBits := number.toBits.toBitVec

theorem parts_eq_assembled (number : Float) :
    parts number = assembled (Sign.ofBitVec (unpackSign (wordOf number)))
      (unpackExponent (wordOf number)) (unpackMantissa (wordOf number)) := by
  rw [← unpack_packComponents, packComponents_unpack]
  rfl

theorem fields_of_assembled {sign own : Sign} {top : BitVec 11} {field : BitVec 52}
    {positive : 0 < mantissa}
    (equal : assembled sign top field = .finite own mantissa exponent positive) :
    sign = own ∧
      (top.toNat = 0 ∧ mantissa = field.toNat ∧ exponent = -1074 ∨
        top.toNat ≠ 0 ∧ top.toNat ≠ 2047 ∧ mantissa = 2 ^ 52 + field.toNat ∧
          exponent = top.toNat - 1075) := by
  rw [assembled] at equal
  split at equal
  · split at equal <;> cases equal
  · rename_i notLast
    split at equal
    · rename_i first
      split at equal
      · cases equal
      · cases equal
        exact ⟨rfl, Or.inl ⟨congrArg BitVec.toNat first, rfl, rfl⟩⟩
    · rename_i notFirst
      cases equal
      have above : top.toNat ≠ 0 := fun zero => notFirst (BitVec.eq_of_toNat_eq zero)
      have below : top.toNat ≠ 2047 := fun last => notLast (BitVec.eq_of_toNat_eq last)
      exact ⟨rfl, Or.inr ⟨above, below, rfl, rfl⟩⟩

theorem fields_of_assembled_zero {sign own : Sign} {top : BitVec 11} {field : BitVec 52}
    (equal : assembled sign top field = .zero own) :
    sign = own ∧ top.toNat = 0 ∧ field.toNat = 0 := by
  rw [assembled] at equal
  split at equal
  · split at equal <;> cases equal
  · split at equal
    · rename_i first
      split at equal
      · rename_i empty
        cases equal
        exact ⟨rfl, congrArg BitVec.toNat first, congrArg BitVec.toNat empty⟩
      · cases equal
    · cases equal

theorem isCanonical_of_parts {number : Float} {sign : Sign} {positive : 0 < mantissa}
    (equal : parts number = .finite sign mantissa exponent positive) :
    IsCanonical mantissa exponent := by
  have inTop : (unpackExponent (wordOf number)).toNat < 2 ^ 11 := BitVec.isLt _
  have inField : (unpackMantissa (wordOf number)).toNat < 2 ^ 52 := BitVec.isLt _
  rw [parts_eq_assembled] at equal
  rcases (fields_of_assembled equal).2 with ⟨_, rfl, rfl⟩ | ⟨_, _, rfl, rfl⟩
  · exact ⟨positive, by omega, by omega, by omega, Or.inl rfl⟩
  · exact ⟨positive, by omega, by omega, by omega, Or.inr (by omega)⟩

/-! ## Fields as numbers -/

theorem toNat_unpackExponent (word : BitVec format.numBits) :
    (unpackExponent word).toNat = word.toNat / 2 ^ 52 % 2048 := by
  rw [unpackExponent, BitVec.toNat_cast, BitVec.extractLsb, BitVec.extractLsb'_toNat,
    Nat.shiftRight_eq_div_pow]
  rfl

theorem toNat_unpackMantissa (word : BitVec format.numBits) :
    (unpackMantissa word).toNat = word.toNat % 2 ^ 52 := by
  rw [unpackMantissa, BitVec.toNat_cast, BitVec.extractLsb, BitVec.extractLsb'_toNat,
    Nat.shiftRight_zero]
  rfl

theorem ofBitVec_unpackSign (word : BitVec format.numBits) :
    Sign.ofBitVec (unpackSign word) = .negative ↔ 2 ^ 63 ≤ word.toNat := by
  have bit : (unpackSign word).toNat = word.toNat / 2 ^ 63 % 2 := by
    rw [unpackSign, BitVec.toNat_cast, BitVec.extractLsb, BitVec.extractLsb'_toNat,
      Nat.shiftRight_eq_div_pow]
    rfl
  have inWord : word.toNat < 2 ^ 64 := word.isLt
  rw [Sign.ofBitVec]
  split
  · rename_i clear
    rw [clear] at bit
    change 0 = _ at bit
    refine ⟨nofun, fun above => ?_⟩
    omega
  · rename_i set
    have nonzero : (unpackSign word).toNat ≠ 0 := fun zero => set (BitVec.eq_of_toNat_eq zero)
    refine ⟨fun _ => ?_, fun _ => rfl⟩
    omega

end PlanarMesh.Number

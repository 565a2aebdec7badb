import PlanarMesh.Proofs.Number.Exact

/-! # Floats in decimal notation

A decimal whose value is a float is read as that float, whether the number is small enough
to be computed from a table of powers of ten or goes through the general way.
-/

namespace PlanarMesh.Number

open Float.Model (UnpackedFloat totalExponent)
open Float.Model.UnpackedFloat
open Packing

/-! ## Whole numbers and powers of ten -/

/-- A positive number with this value, written with all its bits. -/
def Holds (number : Float) (value : ℚ) : Prop :=
  ∃ mantissa exponent positive,
    parts number = .finite .positive mantissa exponent positive ∧
      size mantissa exponent = value ∧ mantissa.log2 = 52

theorem holds_toFloat {number : Nat} (positive : 0 < number) (small : number < 2 ^ 53) :
    Holds number.toUInt64.toFloat number := by
  have nonzero := Nat.ne_of_gt positive
  have short : number.log2 < 53 := (Nat.log2_lt nonzero).mpr small
  let zeros := 52 - number.log2
  have bounds := (Nat.log2_eq_iff nonzero).mp (rfl : number.log2 = number.log2)
  have joined : number.log2 + zeros = 52 := by omega
  have low : 2 ^ 52 ≤ number * 2 ^ zeros := by
    rw [← joined, Nat.pow_add]
    exact Nat.mul_le_mul_right _ bounds.1
  have high : number * 2 ^ zeros < 2 ^ 53 := by
    rw [show 53 = number.log2 + 1 + zeros by omega, Nat.pow_add]
    exact Nat.mul_lt_mul_of_pos_right bounds.2 (by positivity)
  have canonical : IsCanonical (number * 2 ^ zeros) (-zeros) :=
    ⟨by omega, high, by omega, by omega, Or.inr low⟩
  have equal : size number 0 = size (number * 2 ^ zeros) (-zeros) := by
    rw [size, size, zpow_neg, zpow_natCast]
    push_cast
    field_simp
  have word : number.toUInt64.toNat = number := by
    rw [Nat.toUInt64, UInt64.toNat_ofNat', Nat.mod_eq_of_lt (by omega)]
  have rounded : UnpackedFloat.ofUInt64 format number.toUInt64 =
      .finite .positive (number * 2 ^ zeros) (-zeros) canonical.positive := by
    rw [UnpackedFloat.ofUInt64, UnpackedFloat.ofNat, UnpackedFloat.ofInt, word,
      Unpacked.normalize_of_pos (by omega), Int.toNat_natCast]
    exact round_exact canonical positive .positive equal (by omega)
  refine ⟨number * 2 ^ zeros, -zeros, canonical.positive, ?_, ?_, ?_⟩
  · change unpack format (pack format (UnpackedFloat.ofUInt64 format number.toUInt64)) = _
    rw [rounded, canonical.unpack_pack]
  · rw [← equal, size, zpow_zero, mul_one]
  · rw [Nat.log2_eq_iff (Nat.ne_of_gt canonical.positive)]
    exact ⟨low, high⟩

def isPowerOfTen (power : Nat) : UnpackedFloat → Bool
  | .finite .positive mantissa (.ofNat exponent) _ =>
      mantissa.log2 == 52 && mantissa * 2 ^ exponent == 10 ^ power
  | .finite .positive mantissa (.negSucc exponent) _ =>
      mantissa.log2 == 52 && mantissa == 10 ^ power * 2 ^ (exponent + 1)
  | _ => false

theorem holds_of_isPowerOfTen {number : Float} {power : Nat}
    (isPower : isPowerOfTen power (parts number) = true) : Holds number (10 ^ power) := by
  cases equal : parts number with
  | notANumber => simp [equal, isPowerOfTen] at isPower
  | infinity sign => simp [equal, isPowerOfTen] at isPower
  | zero sign => simp [equal, isPowerOfTen] at isPower
  | finite sign mantissa exponent positive =>
      rw [equal] at isPower
      cases sign with
      | negative => simp [isPowerOfTen] at isPower
      | positive =>
          cases exponent with
          | ofNat exponent =>
              simp only [isPowerOfTen, Bool.and_eq_true, beq_iff_eq] at isPower
              refine ⟨_, _, _, equal, ?_, isPower.1⟩
              rw [size, Int.ofNat_eq_natCast, zpow_natCast]
              exact_mod_cast isPower.2
          | negSucc exponent =>
              simp only [isPowerOfTen, Bool.and_eq_true, beq_iff_eq] at isPower
              refine ⟨_, _, _, equal, ?_, isPower.1⟩
              rw [size, isPower.2, zpow_negSucc]
              push_cast
              field_simp

/-- Every entry of the table is the power of ten of its place. -/
theorem isPowerOfTen_table (places : Fin Float.exactlyRepresentablePowersOfTen.size) :
    isPowerOfTen places (parts Float.exactlyRepresentablePowersOfTen[places]) = true := by
  revert places
  decide +kernel

theorem holds_table {places : Nat} (inTable : places < Float.exactlyRepresentablePowersOfTen.size) :
    Holds Float.exactlyRepresentablePowersOfTen[places] (10 ^ places) :=
  holds_of_isPowerOfTen (isPowerOfTen_table ⟨places, inTable⟩)

/-! ## Decimal notation -/

section Notation

variable {mantissa significand : Nat} {exponent : Int}
  (canonical : IsCanonical mantissa exponent)
include canonical

theorem significand_positive {power : Int}
    (equal : (significand : ℚ) * 10 ^ power = size mantissa exponent) : 0 < significand := by
  rw [Nat.pos_iff_ne_zero]
  rintro rfl
  have positive : (0 : ℚ) < size mantissa exponent := by
    have cast : (0 : ℚ) < mantissa := by exact_mod_cast canonical.positive
    unfold size
    positivity
  rw [Nat.cast_zero, zero_mul] at equal
  exact absurd equal (ne_of_lt positive)

theorem power_le {power : Int}
    (equal : (significand : ℚ) * 10 ^ power = size mantissa exponent) : power ≤ 2048 := by
  have positive := significand_positive canonical equal
  by_contra large
  have bounds : (2 : ℚ) ^ power < 2 ^ (mantissa.log2 + exponent + 1) := by
    calc (2 : ℚ) ^ power
      _ ≤ 10 ^ power := zpow_le_zpow_left₀ (by omega) (by norm_num) (by norm_num)
      _ ≤ significand * 10 ^ power := by
        have one : (1 : ℚ) ≤ significand := by exact_mod_cast positive
        exact le_mul_of_one_le_left (by positivity) one
      _ = size mantissa exponent := equal
      _ < 2 ^ (mantissa.log2 + exponent + 1) := size_lt_two_zpow mantissa exponent
  have less := lt_of_two_zpow_lt bounds
  have short := canonical.log2_le
  have upper := canonical.upper
  omega

theorem le_power {power : Int}
    (equal : (significand : ℚ) * 10 ^ power = size mantissa exponent) :
    -(2048 + (significand.log2 : Int)) ≤ power := by
  by_contra small
  have bounds : (2 : ℚ) ^ (mantissa.log2 + exponent) < 2 ^ (significand.log2 + power + 1) := by
    calc (2 : ℚ) ^ (mantissa.log2 + exponent)
      _ ≤ size mantissa exponent := two_zpow_le_size canonical.positive exponent
      _ = significand * 10 ^ power := equal.symm
      _ ≤ significand * 2 ^ power := by
        rcases Int.eq_ofNat_of_zero_le (show 0 ≤ -power by omega) with ⟨places, opposite⟩
        rw [show power = -(places : Int) by omega, zpow_neg, zpow_neg, zpow_natCast,
          zpow_natCast]
        have base : (2 : ℚ) ^ places ≤ 10 ^ places :=
          pow_le_pow_left₀ (by norm_num) (by norm_num) places
        exact mul_le_mul_of_nonneg_left (inv_anti₀ (by positivity) base) (by positivity)
      _ < 2 ^ (significand.log2 + power + 1) := size_lt_two_zpow significand power
  have less := lt_of_two_zpow_lt bounds
  have lower := canonical.lower
  omega

/-- The general way multiplies a long mantissa, or divides. -/
theorem ofScientific_exact {power : Int}
    (equal : (significand : ℚ) * 10 ^ power = size mantissa exponent) :
    UnpackedFloat.ofScientific format significand power =
      .finite .positive mantissa exponent canonical.positive := by
  have positive := significand_positive canonical equal
  have notLarge := power_le canonical equal
  have notSmall := le_power canonical equal
  rw [UnpackedFloat.ofScientific, dif_neg (Nat.ne_of_gt positive),
    if_neg (by change ¬2048 < power; omega), if_neg (by change ¬power < -(2048 + _); omega)]
  split
  · rename_i nonnegative
    rcases Int.eq_ofNat_of_zero_le nonnegative with ⟨places, rfl⟩
    have product : size (significand * 2 ^ 53) (-53) * size (10 ^ places) 0 =
        size mantissa exponent := by
      rw [← equal, size, size, zpow_zero, mul_one, zpow_natCast]
      have unit : (9007199254740992 : ℚ) * 2 ^ (-53 : Int) = 1 := by norm_num
      push_cast
      rw [mul_assoc (significand : ℚ), unit, mul_one]
    have wide : mantissa.log2 ≤ (significand * 2 ^ 53).log2 := by
      have short := canonical.log2_le
      rw [log2_mul_pow positive]
      omega
    have long : significand <<< format.mantissaBits = significand * 2 ^ 53 :=
      Nat.shiftLeft_eq significand 53
    simp only [long, Int.toNat_natCast]
    exact mul_exact canonical _ _ _ _ product wide
  · rename_i negative
    rcases Int.eq_ofNat_of_zero_le (show 0 ≤ -power by omega) with ⟨places, opposite⟩
    apply div_exact canonical
    rw [← equal, opposite, Int.toNat_natCast, show power = -(places : Int) by omega, size, size,
      zpow_neg, zpow_natCast]
    push_cast
    field_simp

omit canonical in
theorem parts_div (left right : Float) :
    parts (left / right) =
      unpack format (pack format (div format (parts left) (parts right))) := rfl

/-- A decimal that denotes a float is read as this float. -/
theorem parts_ofScientific (isNegative : Bool) (places : Nat)
    (equal : (significand : ℚ) * 10 ^ (if isNegative then -(places : Int) else places) =
      size mantissa exponent) :
    parts (Float.ofScientific significand isNegative places) =
      .finite .positive mantissa exponent canonical.positive := by
  have positive := significand_positive canonical equal
  rw [Float.ofScientific]
  split
  · rename_i fast
    rcases holds_toFloat positive fast.1 with ⟨first, low, firstPositive, factor, value, full⟩
    have inTable : places < Float.exactlyRepresentablePowersOfTen.size :=
      Nat.lt_of_le_of_lt fast.2 (by decide)
    rcases holds_table inTable with ⟨second, high, secondPositive, ten, power, alsoFull⟩
    have short := canonical.log2_le
    cases isNegative with
    | true =>
        have quotient : size mantissa exponent * size second high = size first low := by
          rw [power, value, ← equal, if_pos rfl, zpow_neg, zpow_natCast]
          field_simp
        have computed := div_exact canonical firstPositive secondPositive .positive .positive
          quotient
        rw [if_pos rfl, parts_div, factor, ten, computed]
        exact canonical.unpack_pack .positive
    | false =>
        have product : size first low * size second high = size mantissa exponent := by
          rw [power, value, ← equal, if_neg Bool.false_ne_true, zpow_natCast]
        have computed := mul_exact canonical firstPositive secondPositive .positive .positive
          product (by omega)
        rw [if_neg Bool.false_ne_true, parts_mul, factor, ten, computed]
        exact canonical.unpack_pack .positive
  · change unpack format (pack format (UnpackedFloat.ofScientific format significand
      (if isNegative then Int.negOfNat places else Int.ofNat places))) = _
    rw [Int.negOfNat_eq, Int.ofNat_eq_natCast, ofScientific_exact canonical equal]
    exact canonical.unpack_pack .positive

end Notation

end PlanarMesh.Number

import PlanarMesh.Proofs.Number.Canonical

/-! # Exact results

A product or quotient of floats whose exact value is a float is that float. The exact
values are compared as rational numbers.
-/

namespace PlanarMesh.Number

open Float.Model (UnpackedFloat totalExponent)
open Float.Model.UnpackedFloat
open Packing

def size (mantissa : Nat) (exponent : Int) : ℚ := mantissa * 2 ^ exponent

/-! ## Rounding nothing away -/

theorem repeat_shiftRightOne (mantissa zeros : Nat) :
    zeros.repeat ExtendedMantissa.shiftRightOne ⟨mantissa * 2 ^ zeros, false, false⟩ =
      ⟨mantissa, false, false⟩ := by
  induction zeros generalizing mantissa with
  | zero => simp [Nat.repeat]
  | succ zeros induction =>
      have halved : mantissa * 2 ^ (zeros + 1) = mantissa * 2 * 2 ^ zeros := by
        rw [Nat.pow_succ]
        ring
      rw [halved, Nat.repeat, induction, ExtendedMantissa.shiftRightOne,
        Nat.mul_div_cancel _ (by decide), Nat.mul_mod_left]
      rfl

theorem log2_mul_pow {mantissa : Nat} (positive : 0 < mantissa) (zeros : Nat) :
    (mantissa * 2 ^ zeros).log2 = mantissa.log2 + zeros := by
  induction zeros with
  | zero => rw [Nat.pow_zero, Nat.mul_one, Nat.add_zero]
  | succ zeros induction =>
      have shifted : mantissa * 2 ^ zeros ≠ 0 := by positivity
      rw [show mantissa * 2 ^ (zeros + 1) = 2 * (mantissa * 2 ^ zeros) by ring,
        Nat.log2_two_mul shifted, induction]
      rfl

theorem totalExponent_mul_pow {mantissa : Nat} (positive : 0 < mantissa) (exponent : Int)
    (zeros : Nat) :
    totalExponent (mantissa * 2 ^ zeros) (exponent - zeros) = totalExponent mantissa exponent := by
  rw [totalExponent, totalExponent, log2_mul_pow positive]
  omega

theorem shiftToTargetExponent_exact {mantissa : Nat} {exponent : Int}
    (canonical : IsCanonical mantissa exponent) (zeros : Nat) :
    shiftToTargetExponent format (mantissa * 2 ^ zeros) (exponent - zeros) .exact =
      (⟨mantissa, false, false⟩, exponent) := by
  have amount : (exponent - (exponent - zeros)).toNat = zeros := by omega
  rw [shiftToTargetExponent, totalExponent_mul_pow canonical.positive,
    canonical.targetExponent_eq, shiftToExponent]
  simp only [amount]
  rw [Prod.mk.injEq]
  exact ⟨repeat_shiftRightOne mantissa zeros, by omega⟩

/-- Zeros behind a canonical mantissa are shifted out again. -/
theorem roundWithAccuracy_exact {mantissa : Nat} {exponent : Int}
    (canonical : IsCanonical mantissa exponent) (sign : Sign) (zeros : Nat) :
    roundWithAccuracy format sign (mantissa * 2 ^ zeros) (exponent - zeros) .exact =
      .finite sign mantissa exponent canonical.positive := by
  have first := shiftToTargetExponent_exact canonical zeros
  have second := shiftToTargetExponent_exact canonical 0
  rw [Nat.pow_zero, Nat.mul_one, Int.natCast_zero, Int.sub_zero] at second
  have rounded : ExtendedMantissa.roundedMantissa ⟨mantissa, false, false⟩ = mantissa := rfl
  rw [roundWithAccuracy]
  simp only [first, rounded, second]
  rw [dif_neg (Nat.ne_of_gt canonical.positive)]

/-! ## Sizes -/

section Sizes

variable {first second third : Nat} {low high other : Int}

theorem exists_zeros (equal : size first low = size second high) (le : low ≤ high) :
    ∃ zeros : Nat, first = second * 2 ^ zeros ∧ low = high - zeros := by
  rcases Int.eq_ofNat_of_zero_le (Int.sub_nonneg.mpr le) with ⟨zeros, distance⟩
  refine ⟨zeros, ?_, by omega⟩
  have raised : high = zeros + low := by omega
  have shifted : size second high = (second * 2 ^ zeros : Nat) * 2 ^ low := by
    rw [size, raised, zpow_add₀ (by norm_num), zpow_natCast]
    push_cast
    ring
  rw [shifted, size] at equal
  have cancelled := mul_right_cancel₀ (zpow_ne_zero low (by norm_num : (2 : ℚ) ≠ 0)) equal
  exact_mod_cast cancelled

theorem two_zpow_le_size (positive : 0 < first) (exponent : Int) :
    (2 : ℚ) ^ (first.log2 + exponent) ≤ size first exponent := by
  rw [size, zpow_add₀ (by norm_num), zpow_natCast]
  have below := Nat.log2_self_le (Nat.ne_of_gt positive)
  have cast : (2 : ℚ) ^ first.log2 ≤ first := by exact_mod_cast below
  exact mul_le_mul_of_nonneg_right cast (zpow_nonneg (by norm_num) exponent)

theorem size_lt_two_zpow (first : Nat) (exponent : Int) :
    size first exponent < (2 : ℚ) ^ (first.log2 + exponent + 1) := by
  have above : first < 2 ^ (first.log2 + 1) := Nat.lt_log2_self
  have cast : (first : ℚ) < 2 ^ (first.log2 + 1) := by exact_mod_cast above
  have positive : (0 : ℚ) < 2 ^ exponent := zpow_pos (by norm_num) exponent
  calc size first exponent
    _ < 2 ^ (first.log2 + 1) * 2 ^ exponent := mul_lt_mul_of_pos_right cast positive
    _ = 2 ^ (first.log2 + exponent + 1) := by
      rw [← zpow_natCast, ← zpow_add₀ (by norm_num)]
      congr 1
      push_cast
      ring

theorem lt_of_two_zpow_lt {first second : Int} (less : (2 : ℚ) ^ first < 2 ^ second) :
    first < second :=
  (zpow_lt_zpow_iff_right₀ (by norm_num)).mp less

theorem log2_le_of_size_mul (positive : 0 < first) (alsoPositive : 0 < second)
    (equal : size first low * size second high = size third other) :
    first.log2 + low + (second.log2 + high) ≤ third.log2 + other := by
  have bounds : (2 : ℚ) ^ (first.log2 + low + (second.log2 + high)) <
      2 ^ (third.log2 + other + 1) := by
    calc (2 : ℚ) ^ (first.log2 + low + (second.log2 + high))
      _ = 2 ^ (first.log2 + low) * 2 ^ (second.log2 + high) := zpow_add₀ (by norm_num) _ _
      _ ≤ size first low * size second high :=
        mul_le_mul (two_zpow_le_size positive low) (two_zpow_le_size alsoPositive high)
          (zpow_nonneg (by norm_num) _) (by unfold size; positivity)
      _ = size third other := equal
      _ < 2 ^ (third.log2 + other + 1) := size_lt_two_zpow third other
  have less := lt_of_two_zpow_lt bounds
  omega

theorem log2_le_of_eq_size_mul (positive : 0 < first)
    (equal : size third other * size second high = size first low) :
    first.log2 + low - (second.log2 + high) ≤ third.log2 + other + 1 := by
  have bounds : (2 : ℚ) ^ (first.log2 + low) <
      2 ^ (third.log2 + other + 1 + (second.log2 + high + 1)) := by
    calc (2 : ℚ) ^ (first.log2 + low)
      _ ≤ size first low := two_zpow_le_size positive low
      _ = size third other * size second high := equal.symm
      _ < 2 ^ (third.log2 + other + 1) * 2 ^ (second.log2 + high + 1) :=
        mul_lt_mul'' (size_lt_two_zpow third other) (size_lt_two_zpow second high)
          (by unfold size; positivity) (by unfold size; positivity)
      _ = 2 ^ (third.log2 + other + 1 + (second.log2 + high + 1)) :=
        (zpow_add₀ (by norm_num) _ _).symm
  have less := lt_of_two_zpow_lt bounds
  omega

theorem size_mul (first second : Nat) (low high : Int) :
    size first low * size second high = size (first * second) (low + high) := by
  rw [size, size, size, zpow_add₀ (by norm_num)]
  push_cast
  ring

end Sizes

/-! ## Products and quotients -/

section Operations

variable {mantissa first second : Nat} {exponent low high : Int}
  (canonical : IsCanonical mantissa exponent) (positive : 0 < first) (alsoPositive : 0 < second)
  (sign other : Sign)

theorem mul_exact (equal : size first low * size second high = size mantissa exponent)
    (wide : mantissa.log2 ≤ first.log2) :
    mul format (.finite sign first low positive) (.finite other second high alsoPositive) =
      .finite (sign * other) mantissa exponent canonical.positive := by
  have bounds := log2_le_of_size_mul positive alsoPositive equal
  have le : low + high ≤ exponent := by omega
  rw [size_mul] at equal
  rcases exists_zeros equal le with ⟨zeros, product, lowered⟩
  rw [mul, product, lowered]
  exact roundWithAccuracy_exact canonical _ zeros

/-- The quotient is taken with at least the bits that the float has, so nothing of an exact
quotient is cut off. -/
theorem div_exact (equal : size mantissa exponent * size second high = size first low) :
    div format (.finite sign first low positive) (.finite other second high alsoPositive) =
      .finite (sign / other) mantissa exponent canonical.positive := by
  have bounds := log2_le_of_eq_size_mul positive equal
  let target := min (low - high)
    (format.targetExponent (totalExponent first low - totalExponent second high))
  have le : target ≤ exponent := by
    have stops := canonical.targetExponent_eq
    rw [format_targetExponent, totalExponent] at stops
    simp only [target, format_targetExponent, totalExponent]
    omega
  have least : target ≤ low - high := min_le_left _ _
  rcases Int.eq_ofNat_of_zero_le (Int.sub_nonneg.mpr least) with ⟨amount, distance⟩
  have dividend : size (first <<< amount) (target + high) =
      size (mantissa * second) (exponent + high) := by
    rw [← size_mul, equal, size, size, show low = amount + (target + high) by omega,
      zpow_add₀ (by norm_num) (amount : Int), zpow_natCast, Nat.shiftLeft_eq]
    push_cast
    ring
  rcases exists_zeros dividend (by omega) with ⟨zeros, product, lowered⟩
  have quotient : first <<< amount = mantissa * 2 ^ zeros * second := by
    rw [product]
    ring
  have core : divCore format first low second high =
      (mantissa * 2 ^ zeros, exponent - zeros, .exact) := by
    have shift : (low - high - target).toNat = amount := by omega
    have reached : target = exponent - zeros := by omega
    change (first <<< (low - high - target).toNat / second, target,
      accuracyOfFraction (first <<< (low - high - target).toNat % second) second) = _
    rw [shift, reached, quotient, Nat.mul_div_cancel _ alsoPositive, Nat.mul_mod_left]
    rfl
  rw [div, core]
  exact roundWithAccuracy_exact canonical _ zeros

include positive in
theorem round_exact (equal : size first low = size mantissa exponent) (le : exponent ≤ low) :
    UnpackedFloat.round format sign first low =
      .finite sign mantissa exponent canonical.positive := by
  rcases exists_zeros equal.symm le with ⟨zeros, longer, lowered⟩
  have stops := canonical.targetExponent_eq
  have same := totalExponent_mul_pow positive low zeros
  rw [longer, lowered] at stops
  rw [same, ← lowered] at stops
  have amount : (low - exponent).toNat = zeros := by omega
  have kept := roundWithAccuracy_exact canonical sign 0
  rw [Nat.pow_zero, Nat.mul_one, Int.natCast_zero, Int.sub_zero] at kept
  rw [UnpackedFloat.round, stops, decreaseExponent]
  simp only [amount, Nat.shiftLeft_eq, ← longer, ← lowered]
  exact kept

end Operations

end PlanarMesh.Number

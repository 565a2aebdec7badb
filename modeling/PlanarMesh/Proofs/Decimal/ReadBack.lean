import PlanarMesh.Decimal.Shortest
import PlanarMesh.Proofs.Decimal.Rendered
import PlanarMesh.Proofs.Number.Scientific

/-! # Decimals that read back

The shortest decimal of a finite float reads back as the float, bit for bit and with its
sign. Where the search for a short one would fail the float written out in full does, so
nothing depends on how many digits suffice.
-/

namespace PlanarMesh.Decimal

open Float.Model.UnpackedFloat (Sign)
open Float.Model.UnpackedFloat
open Number Packing

/-! ## Decimals with the value of a float -/

def tenfold (significand : Nat) (exponent : Int) : ℚ := significand * 10 ^ exponent

theorem tenfold_stripZeros (significand : Nat) (exponent : Int) :
    tenfold (stripZeros significand exponent).1 (stripZeros significand exponent).2 =
      tenfold significand exponent := by
  induction significand using Nat.strongRecOn generalizing exponent with
  | ind significand induction =>
      rw [stripZeros]
      split
      · rename_i zeroEnding
        rw [induction (significand / 10) (by omega), tenfold, tenfold,
          zpow_add₀ (by norm_num), zpow_one]
        have whole : significand / 10 * 10 = significand := by omega
        have cast : ((significand / 10 : Nat) : ℚ) * 10 = significand := by exact_mod_cast whole
        rw [← cast]
        ring
      · rfl

theorem tenfold_ofParts (negative : Bool) (significand : Nat) (exponent : Int) :
    tenfold (ofParts negative significand exponent).significand
        (ofParts negative significand exponent).exponent =
      tenfold significand exponent := by
  by_cases isZero : significand = 0
  · rw [ofParts, if_pos isZero, isZero]
    simp [tenfold]
  · rw [ofParts, if_neg isZero]
    exact tenfold_stripZeros significand exponent

@[simp] theorem negative_ofParts (negative : Bool) (significand : Nat) (exponent : Int) :
    (ofParts negative significand exponent).negative = negative := by
  rw [ofParts]
  split <;> rfl

theorem natAbs_of_sign (exponent : Int) :
    (if decide (exponent < 0) = true then -(exponent.natAbs : Int) else exponent.natAbs) =
      exponent := by
  split
  · rename_i below
    rw [decide_eq_true_iff] at below
    omega
  · rename_i notBelow
    rw [decide_eq_true_iff] at notBelow
    omega

theorem toFloat_eq {decimal : Decimal} {value : Float} {sign : Sign} {mantissa : Nat}
    {exponent : Int} {positive : 0 < mantissa}
    (equal : parts value = .finite sign mantissa exponent positive)
    (negative : decimal.negative = true ↔ sign = .negative)
    (same : tenfold decimal.significand decimal.exponent = size mantissa exponent) :
    decimal.toFloat = value := by
  have canonical := isCanonical_of_parts equal
  have magnitude : parts (Float.ofScientific decimal.significand (decimal.exponent < 0)
      decimal.exponent.natAbs) = .finite .positive mantissa exponent positive := by
    apply parts_ofScientific canonical
    rw [natAbs_of_sign]
    exact same
  apply eq_of_parts
  rw [toFloat, equal]
  cases sign with
  | negative =>
      rw [if_pos (negative.mpr rfl), parts_neg, magnitude]
      rfl
  | positive =>
      rw [if_neg fun isNegative => (nomatch negative.mp isNegative), magnitude]

/-! ## Fields of a float -/

theorem toBits_toNat (value : Float) : value.toBits.toNat = (wordOf value).toNat := rfl

theorem binaryParts_of_parts {value : Float} {sign : Sign} {mantissa : Nat}
    {exponent : Int} {positive : 0 < mantissa}
    (equal : parts value = .finite sign mantissa exponent positive) :
    binaryParts value = (mantissa, exponent) := by
  rw [parts_eq_assembled] at equal
  have fields := (fields_of_assembled equal).2
  rw [toNat_unpackExponent, toNat_unpackMantissa] at fields
  rw [binaryParts, toBits_toNat, show hiddenBit = 2 ^ 52 from rfl]
  rcases fields with ⟨first, low, least⟩ | ⟨above, _, low, scale⟩
  · simp only [first, if_true, ← low, least]
  · simp only [if_neg above]
    rw [Prod.mk.injEq, Int.ofNat_eq_natCast, ← scale, low, Nat.add_comm]
    exact ⟨rfl, rfl⟩

theorem isNegative_iff (value : Float) :
    isNegative value = true ↔ Sign.ofBitVec (unpackSign (wordOf value)) = .negative := by
  rw [isNegative, decide_eq_true_iff, ofBitVec_unpackSign, UInt64.le_iff_toNat_le,
    toBits_toNat]
  rfl

theorem isNegative_of_parts {value : Float} {sign : Sign} {mantissa : Nat}
    {exponent : Int} {positive : 0 < mantissa}
    (equal : parts value = .finite sign mantissa exponent positive) :
    isNegative value = true ↔ sign = .negative := by
  rw [parts_eq_assembled] at equal
  rw [isNegative_iff, (fields_of_assembled equal).1]

/-! ## Written out in full -/

theorem toFloat_exactDecimal {value : Float} {sign : Sign} {mantissa : Nat}
    {exponent : Int} {positive : 0 < mantissa}
    (equal : parts value = .finite sign mantissa exponent positive) :
    (exactDecimal value).toFloat = value := by
  have sameSign := isNegative_of_parts equal
  rw [exactDecimal, binaryParts_of_parts equal]
  cases exponent with
  | ofNat places =>
      refine toFloat_eq equal (by rwa [negative_ofParts]) ?_
      rw [tenfold_ofParts, tenfold, size, Int.ofNat_eq_natCast, zpow_natCast,
        Nat.shiftLeft_eq]
      push_cast
      ring
  | negSucc places =>
      refine toFloat_eq equal (by rwa [negative_ofParts]) ?_
      have ten : (10 : ℚ) ^ (places + 1) = 5 ^ (places + 1) * 2 ^ (places + 1) := by
        rw [← mul_pow]
        norm_num
      rw [tenfold_ofParts, tenfold, size, zpow_negSucc, zpow_negSucc, ten,
        Nat.pow_eq]
      push_cast
      field_simp

theorem toFloat_zero {value : Float} {sign : Sign} (equal : parts value = .zero sign) :
    Decimal.toFloat ⟨isNegative value, 0, 0⟩ = value := by
  have zeroSize : parts (Float.ofScientific 0 false 0) = .zero .positive := rfl
  have isSign := isNegative_iff value
  have fields := equal
  rw [parts_eq_assembled] at fields
  rw [(fields_of_assembled_zero fields).1] at isSign
  apply eq_of_parts
  rw [toFloat, equal]
  cases sign with
  | negative =>
      rw [if_pos (isSign.mpr rfl), parts_neg]
      exact congrArg _ zeroSize
  | positive =>
      rw [if_neg fun isNegative => nomatch isSign.mp isNegative]
      exact zeroSize

theorem eq_of_readsBack {value : Float} {decimal : Decimal}
    (same : readsBack value decimal = true) : decimal.toFloat = value := by
  rw [readsBack, beq_iff_eq] at same
  have words : wordOf decimal.toFloat = wordOf value := congrArg UInt64.toBitVec same
  apply eq_of_parts
  rw [parts_eq_assembled, parts_eq_assembled, words]

/-- The shortest decimal of a finite float reads back as the float. -/
theorem toFloat_shortest {value : Float} (finite : value.isFinite = true) :
    (shortest value).toFloat = value := by
  rcases finite_cases finite with ⟨sign, equal⟩ | ⟨sign, mantissa, exponent, positive, equal⟩
  · have fields := equal
    rw [parts_eq_assembled] at fields
    rcases fields_of_assembled_zero fields with ⟨_, first, low⟩
    rw [toNat_unpackExponent] at first
    rw [toNat_unpackMantissa] at low
    have vanishes : (binaryParts value).1 = 0 := by
      simp only [binaryParts, toBits_toNat, show hiddenBit = 2 ^ 52 from rfl, first, low, if_true]
    rw [shortest, if_pos vanishes]
    exact toFloat_zero equal
  · have nonzero : (binaryParts value).1 ≠ 0 := by
      rw [binaryParts_of_parts equal]
      exact Nat.ne_of_gt positive
    rw [shortest, if_neg nonzero]
    cases found : (List.range 17).findSome? fun extra =>
        (candidates value (extra + 1)).find? (readsBack value) with
    | none => exact toFloat_exactDecimal equal
    | some decimal =>
        rcases List.exists_of_findSome?_eq_some found with ⟨extra, _, hit⟩
        exact eq_of_readsBack (List.find?_some hit)

theorem isNormal_shortest (value : Float) : (shortest value).IsNormal := by
  rw [shortest]
  split
  · exact ⟨fun _ => rfl, fun positive => absurd rfl positive⟩
  · cases found : (List.range 17).findSome? fun extra =>
        (candidates value (extra + 1)).find? (readsBack value) with
    | none =>
        rw [Option.getD_none, exactDecimal]
        split <;> exact isNormal_ofParts _ _ _
    | some decimal =>
        rcases List.exists_of_findSome?_eq_some found with ⟨extra, _, hit⟩
        rcases List.mem_map.mp (List.mem_of_find?_eq_some hit) with ⟨significand, _, rfl⟩
        exact isNormal_ofParts _ _ _

/-! ## Written and read -/

theorem isInf_of_isFinite {value : Float} (finite : value.isFinite = true) :
    value.isInf = false := by
  change (parts value).isInf = false
  rcases finite_cases finite with ⟨_, equal⟩ | ⟨_, _, _, _, equal⟩
  · rw [equal]
    rfl
  · rw [equal]
    rfl

/-- A finite float that is written in any layout reads back as it was. -/
theorem readNumber_render {value : Float} (finite : value.isFinite = true) {layout : Layout}
    (isEnding : layout.wholeEnding = [] ∨ layout.wholeEnding = ['.', '0'])
    {rest : List Char} (ends : Json.EndsNumber rest) :
    Json.readNumber toFloat ((shortest value).render layout ++ rest) = .ok (value, rest) := by
  have read := (isNormal_shortest value).readDecimal_render isEnding ends
  simp only [Json.readNumber, read, bind, Except.bind, toFloat_shortest finite,
    isInf_of_isFinite finite, Bool.false_eq_true, if_false]

end PlanarMesh.Decimal

import Mathlib.Algebra.Order.Ring.Nat
import PlanarMesh.Decimal.Layout
import PlanarMesh.Proofs.Json.NumberText

/-! # Reading a written decimal

A decimal in normal form, written in any layout, is a number of the grammar of JSON that
denotes this decimal. So it reads back as it was, whether it stands in positional notation
or with a power of ten.
-/

namespace PlanarMesh.Decimal

open Json

/-! ## Normal form -/

/-- The significand ends in no zero, and zero has the exponent zero. -/
structure IsNormal (decimal : Decimal) : Prop where
  zero : decimal.significand = 0 → decimal.exponent = 0
  stripped : decimal.significand ≠ 0 → decimal.significand % 10 ≠ 0

theorem stripZeros_of_stripped {significand : Nat} (stripped : significand % 10 ≠ 0)
    (exponent : Int) : stripZeros significand exponent = (significand, exponent) := by
  rw [stripZeros, dif_neg]
  exact fun zeroEnding => stripped zeroEnding.2

theorem stripZeros_mul_pow {significand : Nat} (stripped : significand % 10 ≠ 0)
    (exponent : Int) (zeros : Nat) :
    stripZeros (significand * 10 ^ zeros) (exponent - zeros) = (significand, exponent) := by
  induction zeros with
  | zero => simpa using stripZeros_of_stripped stripped exponent
  | succ zeros induction =>
      have positive : 0 < significand * 10 ^ zeros :=
        Nat.mul_pos (by omega) (Nat.pow_pos (by decide))
      have shifted : significand * 10 ^ (zeros + 1) = significand * 10 ^ zeros * 10 := by
        rw [Nat.pow_succ, Nat.mul_assoc]
      have raised : exponent - ((zeros + 1 : Nat) : Int) + 1 = exponent - zeros := by omega
      rw [stripZeros, dif_pos (by omega), shifted, Nat.mul_div_cancel _ (by decide), raised,
        induction]

theorem stripZeros_stripped {significand : Nat} (positive : significand ≠ 0) (exponent : Int) :
    (stripZeros significand exponent).1 % 10 ≠ 0 := by
  induction significand using Nat.strongRecOn generalizing exponent with
  | ind significand induction =>
      rw [stripZeros]
      split
      · exact induction (significand / 10) (by omega) (by omega) (exponent + 1)
      · omega

theorem isNormal_ofParts (negative : Bool) (significand : Nat) (exponent : Int) :
    (ofParts negative significand exponent).IsNormal := by
  by_cases isZero : significand = 0
  · rw [ofParts, if_pos isZero]
    exact ⟨fun _ => rfl, fun positive => absurd rfl positive⟩
  · rw [ofParts, if_neg isZero]
    have stripped := stripZeros_stripped isZero exponent
    refine ⟨fun vanishes => absurd ?_ stripped, fun _ => stripped⟩
    exact congrArg (· % 10) vanishes

theorem IsNormal.ofParts_mul_pow {decimal : Decimal} (normal : decimal.IsNormal) (zeros : Nat) :
    ofParts decimal.negative (decimal.significand * 10 ^ zeros) (decimal.exponent - zeros) =
      decimal := by
  rcases decimal with ⟨negative, significand, exponent⟩
  by_cases isZero : significand = 0
  · have noExponent : exponent = 0 := normal.zero isZero
    subst isZero noExponent
    simp [ofParts]
  · have shifted : significand * 10 ^ zeros ≠ 0 :=
      Nat.mul_ne_zero isZero (Nat.pos_iff_ne_zero.mp (Nat.pow_pos (by decide)))
    rw [ofParts, if_neg shifted, stripZeros_mul_pow (normal.stripped isZero)]

/-! ## Digits of a number -/

theorem isDigit_of_mem_toDigits {number : Nat} {character : Char}
    (member : character ∈ Nat.toDigits 10 number) : isDigit character = true := by
  have digit := Nat.isDigit_of_mem_toDigits (by decide) (by decide) member
  simpa [Char.isDigit, isDigit, Char.le_def] using digit

def digitsOf (number : Nat) : Digits :=
  ⟨Nat.toDigits 10 number, Nat.toDigits_ne_nil, fun _ => isDigit_of_mem_toDigits⟩

def zeroDigit : Digits where
  text := ['0']
  nonempty := List.cons_ne_nil _ _
  areDigits := by
    intro character member
    rw [List.mem_singleton.mp member]
    decide

theorem digitsValue_toDigits (number : Nat) : digitsValue (Nat.toDigits 10 number) = number :=
  Nat.ofDigitChars_ten_toDigits

theorem digitsValue_append_zeros (number zeros : Nat) :
    digitsValue (Nat.toDigits 10 number ++ List.replicate zeros '0') = number * 10 ^ zeros := by
  change Nat.ofDigitChars 10 _ 0 = _
  rw [Nat.ofDigitChars_append, Nat.ofDigitChars_ten_toDigits, Nat.ofDigitChars_replicate_zero,
    Nat.mul_comm]

theorem digitsValue_zeros_append (number zeros : Nat) :
    digitsValue (List.replicate zeros '0' ++ Nat.toDigits 10 number) = number := by
  change Nat.ofDigitChars 10 _ 0 = _
  rw [Nat.ofDigitChars_append, Nat.ofDigitChars_replicate_zero, Nat.mul_zero,
    Nat.ofDigitChars_ten_toDigits]

theorem toDigits_ne_zero_cons {number : Nat} (positive : number ≠ 0) (rest : List Char) :
    Nat.toDigits 10 number ≠ '0' :: rest := by
  induction number using Nat.strongRecOn generalizing rest with
  | ind number induction =>
      by_cases small : number < 10
      · rw [Nat.toDigits_of_lt_base small]
        intro equal
        have isZero : number.digitChar = '0' := (List.cons.inj equal).1
        exact positive (Nat.digitChar_eq_zero.mp isZero)
      · rw [Nat.toDigits_of_base_le (by decide) (by omega)]
        intro equal
        cases front : Nat.toDigits 10 (number / 10) with
        | nil => exact Nat.toDigits_ne_nil front
        | cons first others =>
            rw [front, List.cons_append] at equal
            rw [(List.cons.inj equal).1] at front
            exact induction (number / 10) (by omega) (by omega) others front

/-! ## Forms of a written decimal -/

/-- The number of the grammar that stands for a decimal, written without its sign. -/
structure Spells (number : NumberText) (decimal : Decimal) (size : List Char) : Prop where
  negative : number.negative = decimal.negative
  unsigned : number.unsigned = size
  decimal : number.decimal = decimal

section Forms

variable {decimal : Decimal} (normal : decimal.IsNormal)

theorem append_ne_zero_cons {number : Nat} (positive : number ≠ 0) (rest others : List Char) :
    Nat.toDigits 10 number ++ rest ≠ '0' :: others := by
  cases digits : Nat.toDigits 10 number with
  | nil => exact absurd digits Nat.toDigits_ne_nil
  | cons first front =>
      intro equal
      rw [(List.cons.inj equal).1] at digits
      exact toDigits_ne_zero_cons positive front digits

include normal

/-- A number denotes a decimal when its digits are those of the significand, up to zeros
that its exponent accounts for. -/
theorem IsNormal.decimal_eq {number : NumberText} (negative : number.negative = decimal.negative)
    (zeros : Nat)
    (size : digitsValue (number.whole.text ++ fractionDigits number.fraction) =
      decimal.significand * 10 ^ zeros)
    (scale : powerValue number.exponent - ((fractionDigits number.fraction).length : Int) =
      decimal.exponent - zeros) :
    number.decimal = decimal := by
  rw [NumberText.decimal, negative, size, scale, normal.ofParts_mul_pow]

theorem IsNormal.leading {zeros : Nat} (equal : decimal.exponent = .ofNat zeros)
    (next : Char) (rest : List Char) :
    Nat.toDigits 10 decimal.significand ++ List.replicate zeros '0' ≠ '0' :: next :: rest := by
  by_cases isZero : decimal.significand = 0
  · have noZeros : zeros = 0 := by
      have noExponent := normal.zero isZero
      rw [equal] at noExponent
      exact Int.ofNat.inj noExponent
    rw [isZero, noZeros]
    simp
  · exact append_ne_zero_cons isZero _ _

theorem exists_spells_whole {zeros : Nat} (equal : decimal.exponent = .ofNat zeros)
    {ending : List Char} (isEnding : ending = [] ∨ ending = ['.', '0']) :
    ∃ number, Spells number decimal
      (Nat.toDigits 10 decimal.significand ++ List.replicate zeros '0' ++ ending) := by
  let whole : Digits :=
    { text := Nat.toDigits 10 decimal.significand ++ List.replicate zeros '0'
      nonempty := List.append_ne_nil_of_left_ne_nil Nat.toDigits_ne_nil _
      areDigits := by
        intro character member
        rcases List.mem_append.mp member with inDigits | inZeros
        · exact isDigit_of_mem_toDigits inDigits
        · rw [List.eq_of_mem_replicate inZeros]
          decide }
  rcases isEnding with rfl | rfl
  · refine ⟨⟨decimal.negative, whole, none, none, normal.leading equal⟩, rfl, ?_, ?_⟩
    · simp [NumberText.unsigned, fractionText, powerText, whole]
    · apply normal.decimal_eq rfl zeros
      · simpa [fractionDigits, whole] using digitsValue_append_zeros decimal.significand zeros
      · simp [fractionDigits, powerValue, equal]
  · refine ⟨⟨decimal.negative, whole, some zeroDigit, none, normal.leading equal⟩, rfl, ?_, ?_⟩
    · simp [NumberText.unsigned, fractionText, powerText, whole, zeroDigit]
    · apply normal.decimal_eq rfl (zeros + 1)
      · have size := digitsValue_append_zeros decimal.significand (zeros + 1)
        rw [List.replicate_succ', ← List.append_assoc] at size
        exact size
      · simp only [fractionDigits, powerValue, equal, zeroDigit, List.length_singleton,
          Int.ofNat_eq_natCast]
        omega

theorem IsNormal.positive {places : Nat} (equal : decimal.exponent = .negSucc places) :
    decimal.significand ≠ 0 := by
  intro isZero
  have noExponent := normal.zero isZero
  rw [equal] at noExponent
  cases noExponent

theorem exists_spells_point {places : Nat} (equal : decimal.exponent = .negSucc places)
    (inside : places + 1 < (Nat.toDigits 10 decimal.significand).length) :
    ∃ number, Spells number decimal
      ((Nat.toDigits 10 decimal.significand).take
          ((Nat.toDigits 10 decimal.significand).length - (places + 1)) ++
        '.' :: (Nat.toDigits 10 decimal.significand).drop
          ((Nat.toDigits 10 decimal.significand).length - (places + 1))) := by
  have positive := normal.positive equal
  have size := digitsValue_toDigits decimal.significand
  have areDigits : ∀ character ∈ Nat.toDigits 10 decimal.significand,
      isDigit character = true := fun _ => isDigit_of_mem_toDigits
  have noZero := toDigits_ne_zero_cons positive
  generalize Nat.toDigits 10 decimal.significand = digits at *
  let whole : Digits :=
    { text := digits.take (digits.length - (places + 1))
      nonempty := by
        rw [← List.length_pos_iff, List.length_take]
        omega
      areDigits := fun character member =>
        areDigits character (List.mem_of_mem_take member) }
  let fraction : Digits :=
    { text := digits.drop (digits.length - (places + 1))
      nonempty := by
        rw [← List.length_pos_iff, List.length_drop]
        omega
      areDigits := fun character member =>
        areDigits character (List.mem_of_mem_drop member) }
  have leading : ∀ next rest, whole.text ≠ '0' :: next :: rest := by
    intro next rest front
    have joined := List.take_append_drop (digits.length - (places + 1)) digits
    rw [show digits.take _ = '0' :: next :: rest from front] at joined
    exact noZero _ joined.symm
  refine ⟨⟨decimal.negative, whole, some fraction, none, leading⟩, rfl, ?_, ?_⟩
  · simp [NumberText.unsigned, fractionText, powerText, whole, fraction]
  · have joined : whole.text ++ fraction.text = digits := List.take_append_drop _ digits
    have length : ((fraction.text.length : Nat) : Int) = -decimal.exponent := by
      rw [equal, show fraction.text = digits.drop _ from rfl, List.length_drop]
      omega
    apply normal.decimal_eq rfl 0
    · simpa [fractionDigits, joined] using size
    · simp [fractionDigits, powerValue, length]

theorem exists_spells_fraction {places : Nat} (equal : decimal.exponent = .negSucc places)
    (outside : (Nat.toDigits 10 decimal.significand).length ≤ places + 1) :
    ∃ number, Spells number decimal
      ('0' :: '.' ::
        List.replicate (places + 1 - (Nat.toDigits 10 decimal.significand).length) '0' ++
        Nat.toDigits 10 decimal.significand) := by
  let zeros := List.replicate (places + 1 - (Nat.toDigits 10 decimal.significand).length) '0'
  let fraction : Digits :=
    { text := zeros ++ Nat.toDigits 10 decimal.significand
      nonempty := List.append_ne_nil_of_right_ne_nil _ Nat.toDigits_ne_nil
      areDigits := by
        intro character member
        rcases List.mem_append.mp member with inZeros | inDigits
        · rw [List.eq_of_mem_replicate inZeros]
          decide
        · exact isDigit_of_mem_toDigits inDigits }
  refine ⟨⟨decimal.negative, zeroDigit, some fraction, none, by simp [zeroDigit]⟩,
    rfl, ?_, ?_⟩
  · simp [NumberText.unsigned, fractionText, powerText, fraction, zeros, zeroDigit]
  · have length : ((fraction.text.length : Nat) : Int) = -decimal.exponent := by
      rw [equal]
      simp only [fraction, zeros, List.length_append, List.length_replicate]
      omega
    apply normal.decimal_eq rfl 0
    · have size := digitsValue_zeros_append decimal.significand
        (places + 1 - (Nat.toDigits 10 decimal.significand).length + 1)
      rw [List.replicate_succ] at size
      rw [Nat.pow_zero, Nat.mul_one]
      exact size
    · simp [fractionDigits, powerValue, length]

omit normal in
theorem exists_powerText (power : Int) :
    ∃ exponent, powerText (some exponent) =
        'e' :: (if power < 0 then '-' else '+') :: Nat.toDigits 10 power.natAbs ∧
      powerValue (some exponent) = power := by
  refine ⟨⟨'e', some (decide (power < 0)), digitsOf power.natAbs, Or.inl rfl⟩, ?_⟩
  have size := digitsValue_toDigits power.natAbs
  by_cases below : power < 0
  · refine ⟨by simp [powerText, signText, digitsOf, below], ?_⟩
    simp only [powerValue, digitsOf, size, below, decide_true, if_true]
    omega
  · refine ⟨by simp [powerText, signText, digitsOf, below], ?_⟩
    simp only [powerValue, digitsOf, size, below, decide_false, Option.some.injEq,
      Bool.false_eq_true, if_false]
    omega

theorem exists_spells_power : ∃ number, Spells number decimal (exponentText decimal) := by
  have size := digitsValue_toDigits decimal.significand
  have areDigits : ∀ character ∈ Nat.toDigits 10 decimal.significand,
      isDigit character = true := fun _ => isDigit_of_mem_toDigits
  rcases exists_powerText decimal.firstPower with ⟨power, written, value⟩
  rw [firstPower] at value
  rcases equal : Nat.toDigits 10 decimal.significand with _ | ⟨first, _ | ⟨second, others⟩⟩
  · exact absurd equal Nat.toDigits_ne_nil
  · let whole : Digits := ⟨[first], by simp, by simpa [equal] using areDigits⟩
    refine ⟨⟨decimal.negative, whole, none, some power, by simp [whole]⟩, rfl, ?_, ?_⟩
    · simp [NumberText.unsigned, fractionText, whole, written, exponentText, equal]
    · rw [equal] at value size
      apply normal.decimal_eq rfl 0
      · simpa [fractionDigits, whole] using size
      · simpa [fractionDigits] using value
  · let whole : Digits := ⟨[first], by simp, by simp_all⟩
    let fraction : Digits := ⟨second :: others, by simp, by simp_all⟩
    refine ⟨⟨decimal.negative, whole, some fraction, some power, by simp [whole]⟩,
      rfl, ?_, ?_⟩
    · simp [NumberText.unsigned, fractionText, whole, fraction, written, exponentText, equal]
    · rw [equal] at value size
      apply normal.decimal_eq rfl 0
      · simpa [fractionDigits, whole, fraction] using size
      · simp [fractionDigits, fraction, value]

end Forms

/-- However a decimal in normal form is written, it is a number of the grammar and denotes
the decimal. -/
theorem IsNormal.exists_numberText {decimal : Decimal} (normal : decimal.IsNormal)
    {layout : Layout} (isEnding : layout.wholeEnding = [] ∨ layout.wholeEnding = ['.', '0']) :
    ∃ number : NumberText, number.text = decimal.render layout ∧ number.decimal = decimal := by
  have spelled : ∃ number, Spells number decimal
      (if layout.isPositional decimal.firstPower then positionalText layout.wholeEnding decimal
        else exponentText decimal) := by
    split
    · cases equal : decimal.exponent with
      | ofNat zeros =>
          simpa [positionalText, equal] using exists_spells_whole normal equal isEnding
      | negSucc places =>
          by_cases inside : places + 1 < (Nat.toDigits 10 decimal.significand).length
          · simpa [positionalText, equal, inside] using exists_spells_point normal equal inside
          · simpa [positionalText, equal, inside] using
              exists_spells_fraction normal equal (by omega)
    · exact exists_spells_power normal
  rcases spelled with ⟨number, spells⟩
  refine ⟨number, ?_, spells.decimal⟩
  rw [NumberText.text, spells.negative, spells.unsigned, render]

theorem IsNormal.readDecimal_render {decimal : Decimal} (normal : decimal.IsNormal)
    {layout : Layout} (isEnding : layout.wholeEnding = [] ∨ layout.wholeEnding = ['.', '0'])
    {rest : List Char} (ends : EndsNumber rest) :
    readDecimal (decimal.render layout ++ rest) = .ok (decimal, rest) := by
  rcases normal.exists_numberText isEnding with ⟨number, written, value⟩
  rw [← written, number.readDecimal_append ends, value]

end PlanarMesh.Decimal

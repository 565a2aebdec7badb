import PlanarMesh.Proofs.Number.Unpacked

/-! # Laws of floats

A float is what it unpacks to, so the laws of unpacked floats are laws of floats. Those
here are the ones on which the sign of an area depends.
-/

namespace PlanarMesh.Number

open Float.Model (UnpackedFloat)
open Float.Model.UnpackedFloat
open Packing Unpacked

variable {left right number : Float}

/-! ## Parts -/

def parts (number : Float) : UnpackedFloat :=
  number.toModel.unpack

theorem parts_ofModel_pack (float : UnpackedFloat) :
    parts (.ofModel (.pack float)) = unpack format (pack format float) := rfl

theorem ofModel_pack_parts (number : Float) : .ofModel (.pack (parts number)) = number := by
  rcases number with ⟨bits, valid⟩
  have same := pack_unpack valid
  simp only [parts, Float.Model.unpack, Float.Model.pack, same]

theorem unpack_pack_parts (number : Float) :
    unpack format (pack format (parts number)) = parts number := by
  rw [← parts_ofModel_pack, ofModel_pack_parts]

theorem eq_of_parts (same : parts left = parts right) : left = right := by
  rw [← ofModel_pack_parts left, ← ofModel_pack_parts right, same]

theorem parts_mul (left right : Float) :
    parts (left * right) =
      unpack format (pack format (mul format (parts left) (parts right))) := rfl

theorem parts_sub (left right : Float) :
    parts (left - right) =
      unpack format (pack format (sub format (parts left) (parts right))) := rfl

theorem parts_neg (number : Float) : parts (-number) = (parts number).neg :=
  calc parts (-number)
    _ = unpack format (pack format (parts number).neg) := rfl
    _ = (unpack format (pack format (parts number))).neg := unpack_pack_neg (parts number)
    _ = (parts number).neg := by rw [unpack_pack_parts]

theorem lt_iff : left < right ↔ (parts left).compare (parts right) = some .lt := by
  change decide ((parts left).lt (parts right) = true) = true ↔ _
  rw [decide_eq_true_iff, UnpackedFloat.lt, beq_iff_eq]

theorem le_iff : left ≤ right ↔ ((parts left).compare (parts right)).any (·.isLE) = true := by
  change decide ((parts left).le (parts right) = true) = true ↔ _
  rw [decide_eq_true_iff, UnpackedFloat.le]

theorem isNaN_iff : number.isNaN = true ↔ parts number = .notANumber := by
  change (parts number).isNaN = true ↔ _
  cases parts number with
  | notANumber => simp [UnpackedFloat.isNaN]
  | infinity sign => simp [UnpackedFloat.isNaN]
  | zero sign => simp [UnpackedFloat.isNaN]
  | finite sign mantissa exponent positive => simp [UnpackedFloat.isNaN]

theorem isNaN_eq_false_iff : number.isNaN = false ↔ parts number ≠ .notANumber := by
  rw [← Bool.not_eq_true, isNaN_iff]

theorem finite_cases (finite : number.isFinite = true) :
    (∃ sign, parts number = .zero sign) ∨
      ∃ sign mantissa exponent positive,
        parts number = .finite sign mantissa exponent positive := by
  change (parts number).isFinite = true at finite
  cases equal : parts number with
  | notANumber =>
      rw [equal] at finite
      cases finite
  | infinity sign =>
      rw [equal] at finite
      cases finite
  | zero sign => exact .inl ⟨sign, rfl⟩
  | finite sign mantissa exponent positive =>
      exact .inr ⟨sign, mantissa, exponent, positive, rfl⟩

/-! ## Products and differences -/

theorem mul_comm (left right : Float) : left * right = right * left := by
  apply eq_of_parts
  rw [parts_mul, parts_mul, Unpacked.mul_comm]

theorem sub_swap (nonzero : ¬Vanishes (parts (left - right))) :
    right - left = -(left - right) := by
  apply eq_of_parts
  rw [parts_neg, parts_sub, parts_sub, ← unpack_pack_neg]
  rcases Unpacked.sub_swap (parts left) (parts right) with ⟨sign, zero⟩ | opposite
  · refine absurd ?_ nonzero
    have vanishes : Vanishes (sub format (parts left) (parts right)) := by
      rw [zero]
      trivial
    rw [parts_sub, unpack_pack_of_vanishes vanishes]
    exact vanishes
  · rw [opposite]

/-- The squares of the two differences are equal, although a difference that is zero has
no opposite. -/
theorem mul_self_sub_comm (left right : Float) :
    (left - right) * (left - right) = (right - left) * (right - left) := by
  apply eq_of_parts
  rw [parts_mul, parts_mul, parts_sub, parts_sub]
  rcases Unpacked.sub_swap (parts left) (parts right) with ⟨sign, zero⟩ | opposite
  · rcases Unpacked.sub_swap (parts right) (parts left) with ⟨other, alsoZero⟩ | opposite
    · rw [zero, alsoZero]
      cases sign <;> cases other <;> rfl
    · rw [opposite, unpack_pack_neg, mul_self_neg]
  · rw [opposite, unpack_pack_neg, mul_self_neg]

theorem vanishes_mul (vanishes : Vanishes (parts left)) (right : Float) :
    Vanishes (parts (left * right)) := by
  have product := Unpacked.vanishes_mul vanishes (parts right)
  rw [parts_mul, unpack_pack_of_vanishes product]
  exact product

theorem vanishes_sub (first : Vanishes (parts left)) (second : Vanishes (parts right)) :
    Vanishes (parts (left - right)) := by
  have difference := Unpacked.vanishes_sub first second
  rw [parts_sub, unpack_pack_of_vanishes difference]
  exact difference

theorem vanishes_sub_self (number : Float) : Vanishes (parts (number - number)) := by
  have difference := Unpacked.vanishes_sub_self (parts number)
  rw [parts_sub, unpack_pack_of_vanishes difference]
  exact difference

/-! ## Signs -/

theorem pos_iff :
    0.0 < number ↔ sign? (parts number) = some .positive ∧ ¬Vanishes (parts number) := by
  rw [lt_iff, show parts 0.0 = .zero .positive from rfl]
  cases parts number with
  | notANumber => simp [UnpackedFloat.compare, sign?]
  | infinity sign => cases sign <;> simp [UnpackedFloat.compare, sign?, Vanishes]
  | zero sign => simp [UnpackedFloat.compare, Vanishes]
  | finite sign mantissa exponent positive =>
      cases sign <;> simp [UnpackedFloat.compare, sign?, Vanishes]

theorem isFinite_neg (number : Float) : (-number).isFinite = number.isFinite := by
  change (parts (-number)).isFinite = (parts number).isFinite
  rw [parts_neg, Unpacked.isFinite_neg]

theorem pos_neg_of_not_pos (finite : number.isFinite = true) (notPositive : ¬0.0 < number)
    (nonzero : ¬Vanishes (parts number)) : 0.0 < -number := by
  rw [pos_iff, parts_neg]
  rw [pos_iff] at notPositive
  rcases finite_cases finite with ⟨sign, equal⟩ | ⟨sign, mantissa, exponent, _, equal⟩
  · rw [equal] at nonzero
    exact absurd trivial nonzero
  · rw [equal] at notPositive ⊢
    cases sign with
    | positive => exact absurd ⟨rfl, not_false⟩ notPositive
    | negative => exact ⟨rfl, not_false⟩

theorem parts_abs (number : Float) :
    parts number.abs = unpack format (pack format (parts number).abs) := rfl

theorem abs_of_positive (positive : sign? (parts number) = some .positive) :
    number.abs = number := by
  apply eq_of_parts
  rw [parts_abs, Unpacked.abs_of_positive positive, unpack_pack_parts]

theorem abs_cases (number : Float) : number.abs = number ∨ number.abs = -number := by
  by_cases positive : sign? (parts number) = some .positive
  · exact .inl (abs_of_positive positive)
  · refine .inr (eq_of_parts ?_)
    rw [parts_abs, abs_of_not_positive positive, unpack_pack_neg, unpack_pack_parts,
      parts_neg]

theorem isFinite_abs (number : Float) : number.abs.isFinite = number.isFinite := by
  rcases abs_cases number with same | opposite
  · rw [same]
  · rw [opposite, isFinite_neg]

theorem abs_of_pos (positive : 0.0 < number) : number.abs = number :=
  abs_of_positive (pos_iff.mp positive).1

theorem abs_neg (number : Float) : (-number).abs = number.abs := by
  apply eq_of_parts
  rw [parts_abs, parts_abs, parts_neg, Unpacked.abs_neg]

/-! ## Order -/

theorem lt_of_not_le (first : left.isNaN = false) (second : right.isNaN = false)
    (notLe : ¬left ≤ right) : right < left := by
  rw [isNaN_eq_false_iff] at first second
  rw [le_iff] at notLe
  rw [lt_iff, Unpacked.compare_swap]
  have comparable := isSome_compare first second
  cases equal : (parts left).compare (parts right) with
  | none =>
      rw [equal] at comparable
      cases comparable
  | some order =>
      rw [equal] at notLe
      cases order with
      | gt => rfl
      | lt => exact absurd rfl notLe
      | eq => exact absurd rfl notLe

theorem not_le_of_isNaN (notANumber : right.isNaN = true) : ¬left ≤ right := by
  rw [le_iff, isNaN_iff.mp notANumber, Unpacked.compare_swap]
  exact Bool.false_ne_true

theorem not_lt_of_isNaN (notANumber : left.isNaN = true) : ¬left < right := by
  rw [lt_iff, isNaN_iff.mp notANumber]
  exact nofun

theorem not_le_of_lt (less : left < right) : ¬right ≤ left := by
  rw [le_iff, Unpacked.compare_swap, lt_iff.mp less]
  exact Bool.false_ne_true

/-- Equal numbers, the two zeros among them, lie on one side of any other. -/
theorem lt_iff_of_beq (equal : (left == right) = true) (number : Float) :
    number < left ↔ number < right := by
  have compared : (parts left).compare (parts right) = some .eq := beq_iff_eq.mp equal
  rw [lt_iff, lt_iff, Unpacked.compare_of_compare_eq compared]

/-! ## Squares and halves -/

theorem sign?_parts_mul_self (isNumber : number.isNaN = false) :
    sign? (parts (number * number)) = some .positive := by
  rw [isNaN_eq_false_iff] at isNumber
  rw [parts_mul, sign?_unpack_pack, sign?_mul_self isNumber]

theorem isNaN_mul_self (isNumber : number.isNaN = false) : (number * number).isNaN = false := by
  rw [isNaN_eq_false_iff]
  intro notANumber
  have sign := sign?_parts_mul_self isNumber
  rw [notANumber] at sign
  cases sign

theorem isNaN_mul_self_of_isNaN (notANumber : number.isNaN = true) :
    (number * number).isNaN = true := by
  rw [isNaN_iff] at notANumber ⊢
  rw [parts_mul, notANumber]
  exact unpack_pack_of_vanishes trivial

theorem exists_parts_half :
    ∃ mantissa exponent positive,
      parts 0.5 = .finite .positive mantissa exponent positive :=
  ⟨_, _, _, rfl⟩

theorem isNaN_half (finite : number.isFinite = true) : (0.5 * number).isNaN = false := by
  rw [isNaN_eq_false_iff]
  intro notANumber
  have sign : sign? (mul format (parts 0.5) (parts number)) = none := by
    rw [← sign?_unpack_pack, ← parts_mul, notANumber]
    rfl
  rcases exists_parts_half with ⟨_, _, _, half⟩
  rcases finite_cases finite with ⟨_, equal⟩ | ⟨_, _, _, _, equal⟩
  · rw [half, equal] at sign
    cases sign
  · rw [half, equal, mul, sign?_roundWithAccuracy] at sign
    cases sign

theorem half_abs_le_mul_self (finite : left.isFinite = true)
    (vanishes : Vanishes (parts left)) (isNumber : number.isNaN = false) :
    0.5 * left.abs ≤ number * number := by
  have packed : unpack format (pack format (.zero .positive)) = .zero .positive :=
    unpack_pack_of_vanishes trivial
  have magnitude : parts left.abs = .zero .positive := by
    rw [parts_abs]
    rcases finite_cases finite with ⟨_, equal⟩ | ⟨_, _, _, _, equal⟩
    · rw [equal]
      exact packed
    · rw [equal] at vanishes
      exact vanishes.elim
  have zero : parts (0.5 * left.abs) = .zero .positive := by
    rcases exists_parts_half with ⟨_, _, _, half⟩
    rw [parts_mul, half, magnitude]
    exact packed
  have sign := sign?_parts_mul_self isNumber
  rw [le_iff, zero]
  cases equal : parts (number * number) with
  | notANumber =>
      rw [equal] at sign
      cases sign
  | zero own => rfl
  | infinity own =>
      rw [equal] at sign
      cases sign
      rfl
  | finite own mantissa exponent positive =>
      rw [equal] at sign
      cases sign
      rfl

end PlanarMesh.Number

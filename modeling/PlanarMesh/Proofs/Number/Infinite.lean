import PlanarMesh.Proofs.Number.Laws

/-! # Numbers that are not finite

A difference with a side that is not finite is not finite either. Its square is infinite
or not a number, and no other square in a sum brings it back below a finite bound.
-/

namespace PlanarMesh.Unpacked

open Float.Model (UnpackedFloat)
open Float.Model.UnpackedFloat
open Packing

/-! ## Differences -/

theorem not_finite_cases {float : UnpackedFloat} (notFinite : float.isFinite = false) :
    float = .notANumber ∨ ∃ sign, float = .infinity sign := by
  cases float with
  | notANumber => exact .inl rfl
  | infinity sign => exact .inr ⟨sign, rfl⟩
  | zero sign => cases notFinite
  | finite sign mantissa exponent positive => cases notFinite

theorem isFinite_sub {left right : UnpackedFloat}
    (notFinite : left.isFinite = false ∨ right.isFinite = false) :
    (sub format left right).isFinite = false := by
  rcases notFinite with first | second
  · rcases not_finite_cases first with rfl | ⟨sign, rfl⟩
    · cases right <;> rfl
    · cases right with
      | infinity other => cases sign <;> cases other <;> rfl
      | _ => rfl
  · rcases not_finite_cases second with rfl | ⟨sign, rfl⟩
    · cases left <;> rfl
    · cases left with
      | infinity other => cases sign <;> cases other <;> rfl
      | _ => rfl

theorem unpack_pack_of_not_finite {float : UnpackedFloat}
    (notFinite : float.isFinite = false) : unpack format (pack format float) = float := by
  rcases not_finite_cases notFinite with rfl | ⟨sign, rfl⟩
  · rfl
  · cases sign <;> rfl

/-! ## Sums of squares -/

/-- Infinite, or not a number: not below any finite bound. -/
def Unbounded : UnpackedFloat → Prop
  | .notANumber => True
  | .infinity sign => sign = .positive
  | _ => False

theorem Unbounded.not_finite {float : UnpackedFloat} (unbounded : Unbounded float) :
    float.isFinite = false := by
  cases float with
  | notANumber => rfl
  | infinity sign => rfl
  | zero sign => exact unbounded.elim
  | finite sign mantissa exponent positive => exact unbounded.elim

theorem unbounded_mul_self {float : UnpackedFloat} (notFinite : float.isFinite = false) :
    Unbounded (mul format float float) := by
  rcases not_finite_cases notFinite with rfl | ⟨sign, rfl⟩
  · trivial
  · exact sign_mul_self sign

theorem nonnegative_mul_self (float : UnpackedFloat) :
    sign? (mul format float float) ≠ some .negative := by
  by_cases number : float = .notANumber
  · rw [number]
    nofun
  · rw [sign?_mul_self number]
    nofun

theorem nonnegative_normalize {mantissa : Int} (nonnegative : 0 ≤ mantissa)
    (exponent : Int) :
    sign? (UnpackedFloat.normalize format mantissa exponent .positive) ≠ some .negative := by
  rcases Int.lt_or_eq_of_le nonnegative with positive | zero
  · rw [normalize_of_pos positive, UnpackedFloat.round, sign?_roundWithAccuracy]
    intro negative
    cases negative
  · rw [← zero]
    intro negative
    cases negative

section Sums

variable {left right : UnpackedFloat} (first : sign? left ≠ some .negative)
  (second : sign? right ≠ some .negative)

include first second

theorem nonnegative_add : sign? (add format left right) ≠ some .negative := by
  cases left with
  | notANumber => cases right <;> nofun
  | infinity sign =>
      cases sign with
      | negative => exact absurd rfl first
      | positive =>
          cases right with
          | infinity other => cases other <;> nofun
          | _ => nofun
  | zero sign =>
      cases sign with
      | negative => exact absurd rfl first
      | positive =>
          cases right with
          | zero other => cases other <;> nofun
          | _ => exact second
  | finite sign mantissa exponent positive =>
      cases sign with
      | negative => exact absurd rfl first
      | positive =>
          cases right with
          | notANumber => nofun
          | infinity other => exact second
          | zero other => nofun
          | finite other large small _ =>
              cases other with
              | negative => exact absurd rfl second
              | positive =>
                  -- Brought to one exponent, both mantissas are still natural numbers.
                  apply nonnegative_normalize
                  exact Int.add_nonneg (Int.natCast_nonneg _) (Int.natCast_nonneg _)

theorem unbounded_add (unbounded : Unbounded left ∨ Unbounded right) :
    Unbounded (add format left right) := by
  rcases unbounded with unbounded | unbounded
  · rcases not_finite_cases unbounded.not_finite with rfl | ⟨sign, rfl⟩
    · cases right <;> trivial
    · cases unbounded
      cases right with
      | infinity other =>
          cases other with
          | negative => exact absurd rfl second
          | positive => rfl
      | notANumber => trivial
      | _ => rfl
  · rcases not_finite_cases unbounded.not_finite with rfl | ⟨sign, rfl⟩
    · cases left <;> trivial
    · cases unbounded
      cases left with
      | infinity other =>
          cases other with
          | negative => exact absurd rfl first
          | positive => rfl
      | notANumber => trivial
      | _ => rfl

end Sums

theorem not_isLE_of_unbounded {left right : UnpackedFloat} (unbounded : Unbounded left)
    (finite : right.isFinite = true) : ((left.compare right).any (·.isLE)) = false := by
  cases left with
  | notANumber => cases right <;> rfl
  | infinity sign =>
      cases unbounded
      cases right with
      | notANumber => cases finite
      | infinity other => cases finite
      | _ => rfl
  | zero sign => exact unbounded.elim
  | finite sign mantissa exponent positive => exact unbounded.elim

end PlanarMesh.Unpacked

namespace PlanarMesh.Number

open Float.Model (UnpackedFloat)
open Float.Model.UnpackedFloat
open Packing Unpacked

variable {left right number : Float}

theorem parts_add (left right : Float) :
    parts (left + right) =
      unpack format (pack format (add format (parts left) (parts right))) := rfl

theorem isFinite_sub (notFinite : left.isFinite = false ∨ right.isFinite = false) :
    (left - right).isFinite = false := by
  have difference : (sub format (parts left) (parts right)).isFinite = false :=
    Unpacked.isFinite_sub notFinite
  change (parts (left - right)).isFinite = false
  rw [parts_sub, unpack_pack_of_not_finite difference]
  exact difference

theorem unbounded_mul_self (notFinite : number.isFinite = false) :
    Unbounded (parts (number * number)) := by
  have square : Unbounded (mul format (parts number) (parts number)) :=
    Unpacked.unbounded_mul_self notFinite
  rw [parts_mul, unpack_pack_of_not_finite square.not_finite]
  exact square

theorem nonnegative_mul_self (number : Float) :
    sign? (parts (number * number)) ≠ some .negative := by
  rw [parts_mul, sign?_unpack_pack]
  exact Unpacked.nonnegative_mul_self (parts number)

section Sums

variable (first : sign? (parts left) ≠ some .negative)
  (second : sign? (parts right) ≠ some .negative)

include first second

theorem nonnegative_add : sign? (parts (left + right)) ≠ some .negative := by
  rw [parts_add, sign?_unpack_pack]
  exact Unpacked.nonnegative_add first second

theorem unbounded_add (unbounded : Unbounded (parts left) ∨ Unbounded (parts right)) :
    Unbounded (parts (left + right)) := by
  have sum := Unpacked.unbounded_add first second unbounded
  rw [parts_add, unpack_pack_of_not_finite sum.not_finite]
  exact sum

end Sums

/-- A sum of three squares is not bounded if one of the numbers is not finite. -/
theorem unbounded_squares {x y z : Float}
    (notFinite : x.isFinite = false ∨ y.isFinite = false ∨ z.isFinite = false) :
    Unbounded (parts (x * x + y * y + z * z)) := by
  have inPlane := nonnegative_add (nonnegative_mul_self x) (nonnegative_mul_self y)
  apply unbounded_add inPlane (nonnegative_mul_self z)
  rcases notFinite with first | second | third
  · exact .inl (unbounded_add (nonnegative_mul_self x) (nonnegative_mul_self y)
      (.inl (unbounded_mul_self first)))
  · exact .inl (unbounded_add (nonnegative_mul_self x) (nonnegative_mul_self y)
      (.inr (unbounded_mul_self second)))
  · exact .inr (unbounded_mul_self third)

theorem not_le_of_unbounded (unbounded : Unbounded (parts left))
    (finite : right.isFinite = true) : ¬left ≤ right := by
  have notLe : (((parts left).compare (parts right)).any (·.isLE)) = false :=
    not_isLE_of_unbounded unbounded finite
  rw [le_iff, notLe]
  exact Bool.false_ne_true

end PlanarMesh.Number

import PlanarMesh.Proofs.Number.Packing

/-! # Operations on unpacked floats

Each operation is a case distinction on what its arguments are. Products commute, a
difference turns its sign when its sides are exchanged, what is computed from equal
numbers vanishes, and two numbers can always be compared.
-/

namespace PlanarMesh.Unpacked

open Float.Model (UnpackedFloat)
open Float.Model.UnpackedFloat
open Packing

/-! ## Products -/

theorem sign_mul_comm (left right : Sign) : left * right = right * left := by
  cases left with
  | negative => cases right <;> rfl
  | positive => cases right <;> rfl

theorem sign_mul_self (sign : Sign) : sign * sign = .positive := by
  cases sign with
  | negative => rfl
  | positive => rfl

theorem mul_comm (left right : UnpackedFloat) :
    mul format left right = mul format right left := by
  cases left with
  | notANumber => cases right <;> rfl
  | infinity sign => cases right <;> simp only [mul, sign_mul_comm]
  | zero sign => cases right <;> simp only [mul, sign_mul_comm]
  | finite sign mantissa exponent positive =>
      cases right with
      | finite other large small _ =>
          simp only [mul, sign_mul_comm sign, Nat.mul_comm mantissa, Int.add_comm exponent]
      | _ => simp only [mul, sign_mul_comm]

theorem sign?_roundWithAccuracy (sign : Sign) (mantissa : Nat) (exponent : Int)
    (accuracy : Accuracy) :
    sign? (roundWithAccuracy format sign mantissa exponent accuracy) = some sign := by
  simp only [roundWithAccuracy]
  split
  · rfl
  · rfl

theorem sign?_mul_self {float : UnpackedFloat} (number : float ≠ .notANumber) :
    sign? (mul format float float) = some .positive := by
  cases float with
  | notANumber => exact absurd rfl number
  | infinity sign => simp only [mul, sign_mul_self, sign?]
  | zero sign => simp only [mul, sign_mul_self, sign?]
  | finite sign mantissa exponent positive =>
      simp only [mul, sign_mul_self, sign?_roundWithAccuracy]

theorem mul_self_neg (float : UnpackedFloat) :
    mul format float.neg float.neg = mul format float float := by
  cases float with
  | notANumber => rfl
  | infinity sign => simp only [UnpackedFloat.neg, mul, sign_mul_self]
  | zero sign => simp only [UnpackedFloat.neg, mul, sign_mul_self]
  | finite sign mantissa exponent positive =>
      simp only [UnpackedFloat.neg, mul, sign_mul_self]

/-! ## Differences -/

theorem round_neg (sign : Sign) (mantissa : Nat) (exponent : Int) :
    UnpackedFloat.round format (-sign) mantissa exponent =
      (UnpackedFloat.round format sign mantissa exponent).neg := by
  simp only [UnpackedFloat.round, roundWithAccuracy]
  split
  · rfl
  · rfl

theorem normalize_of_neg {mantissa : Int} (negative : mantissa < 0) (exponent : Int) :
    UnpackedFloat.normalize format mantissa exponent .positive =
      UnpackedFloat.round format .negative (-mantissa).toNat exponent := by
  rw [UnpackedFloat.normalize, Int.compare_eq_lt.mpr negative]

theorem normalize_of_pos {mantissa : Int} (positive : 0 < mantissa) (exponent : Int) :
    UnpackedFloat.normalize format mantissa exponent .positive =
      UnpackedFloat.round format .positive mantissa.toNat exponent := by
  rw [UnpackedFloat.normalize, Int.compare_eq_gt.mpr positive]

/-- The opposite mantissa gives the opposite float, unless it is zero. -/
theorem normalize_neg {mantissa : Int} (nonzero : mantissa ≠ 0) (exponent : Int) :
    UnpackedFloat.normalize format (-mantissa) exponent .positive =
      (UnpackedFloat.normalize format mantissa exponent .positive).neg := by
  rcases Int.lt_or_gt_of_ne nonzero with negative | positive
  · rw [normalize_of_neg negative, normalize_of_pos (by omega)]
    exact round_neg .negative _ exponent
  · rw [normalize_of_pos positive, normalize_of_neg (by omega), Int.neg_neg]
    exact round_neg .positive _ exponent

theorem sub_swap (left right : UnpackedFloat) :
    (∃ sign, sub format left right = .zero sign) ∨
      sub format right left = (sub format left right).neg := by
  cases left with
  | notANumber => cases right <;> exact .inr rfl
  | infinity sign =>
      cases right with
      | infinity other => cases sign <;> cases other <;> exact .inr rfl
      | _ => exact .inr rfl
  | zero sign =>
      cases right with
      | zero other => cases sign <;> cases other <;> exact .inl ⟨_, rfl⟩
      | notANumber => exact .inr rfl
      | infinity other => cases other <;> exact .inr rfl
      | finite other large small _ => cases other <;> exact .inr rfl
  | finite sign mantissa exponent positive =>
      cases right with
      | infinity other => cases other <;> exact .inr rfl
      | finite other large small _ =>
          -- Both ways round the mantissas are brought to one exponent, and their
          -- difference only turns its sign before it is rounded.
          let least := min exponent small
          let difference : Int :=
            sign.apply (decreaseExponent mantissa exponent least).1 -
              other.apply (decreaseExponent large small least).1
          have forth : sub format (.finite sign mantissa exponent positive)
              (.finite other large small ‹_›) =
                UnpackedFloat.normalize format difference least .positive := rfl
          have back : sub format (.finite other large small ‹_›)
              (.finite sign mantissa exponent positive) =
                UnpackedFloat.normalize format (-difference) least .positive := by
            rw [Int.neg_sub]
            simp only [sub, Int.min_comm small exponent]
            rfl
          by_cases same : difference = 0
          · rw [forth, same]
            exact .inl ⟨.positive, rfl⟩
          · rw [forth, back]
            exact .inr (normalize_neg same least)
      | _ => exact .inr rfl

/-! ## Vanishing -/

def Vanishes : UnpackedFloat → Prop
  | .notANumber => True
  | .zero _ => True
  | _ => False

theorem vanishes_sub_self (float : UnpackedFloat) :
    Vanishes (sub format float float) := by
  cases float with
  | notANumber => trivial
  | infinity sign => cases sign <;> trivial
  | zero sign => cases sign <;> trivial
  | finite sign mantissa exponent positive =>
      simp only [sub, Int.sub_self, UnpackedFloat.normalize]
      trivial

theorem vanishes_mul {left : UnpackedFloat} (vanishes : Vanishes left)
    (right : UnpackedFloat) : Vanishes (mul format left right) := by
  cases left with
  | notANumber => cases right <;> trivial
  | zero sign => cases right <;> trivial
  | infinity sign => exact vanishes.elim
  | finite sign mantissa exponent positive => exact vanishes.elim

theorem vanishes_sub {left right : UnpackedFloat} (first : Vanishes left)
    (second : Vanishes right) : Vanishes (sub format left right) := by
  cases left with
  | notANumber => cases right <;> trivial
  | zero sign =>
      cases right with
      | notANumber => trivial
      | zero other => cases sign <;> cases other <;> trivial
      | infinity other => exact second.elim
      | finite other mantissa exponent positive => exact second.elim
  | infinity sign => exact first.elim
  | finite sign mantissa exponent positive => exact first.elim

theorem unpack_pack_of_vanishes {float : UnpackedFloat} (vanishes : Vanishes float) :
    unpack format (pack format float) = float := by
  cases float with
  | notANumber => rfl
  | zero sign => cases sign <;> rfl
  | infinity sign => exact vanishes.elim
  | finite sign mantissa exponent positive => exact vanishes.elim

/-! ## Opposites and magnitudes -/

theorem isFinite_neg (float : UnpackedFloat) : float.neg.isFinite = float.isFinite := by
  cases float with
  | notANumber => rfl
  | infinity sign => rfl
  | zero sign => rfl
  | finite sign mantissa exponent positive => rfl

theorem abs_neg (float : UnpackedFloat) : float.neg.abs = float.abs := by
  cases float with
  | notANumber => rfl
  | infinity sign => rfl
  | zero sign => rfl
  | finite sign mantissa exponent positive => rfl

theorem abs_of_positive {float : UnpackedFloat} (positive : sign? float = some .positive) :
    float.abs = float := by
  cases float with
  | notANumber => rfl
  | infinity sign =>
      cases positive
      rfl
  | zero sign =>
      cases positive
      rfl
  | finite sign mantissa exponent _ =>
      cases positive
      rfl

theorem abs_of_not_positive {float : UnpackedFloat}
    (notPositive : sign? float ≠ some .positive) : float.abs = float.neg := by
  cases float with
  | notANumber => rfl
  | infinity sign =>
      cases sign with
      | negative => rfl
      | positive => exact absurd rfl notPositive
  | zero sign =>
      cases sign with
      | negative => rfl
      | positive => exact absurd rfl notPositive
  | finite sign mantissa exponent _ =>
      cases sign with
      | negative => rfl
      | positive => exact absurd rfl notPositive

/-! ## Comparing -/

theorem compare_swap (left right : UnpackedFloat) :
    right.compare left = (left.compare right).map Ordering.swap := by
  cases left with
  | notANumber => cases right <;> rfl
  | infinity sign =>
      cases right with
      | infinity other => cases sign <;> cases other <;> rfl
      | finite other mantissa exponent positive => cases sign <;> rfl
      | _ => cases sign <;> rfl
  | zero sign =>
      cases right with
      | notANumber => rfl
      | zero other => rfl
      | infinity other => cases other <;> rfl
      | finite other mantissa exponent positive => cases other <;> rfl
  | finite sign mantissa exponent positive =>
      cases right with
      | notANumber => cases sign <;> rfl
      | zero other => cases sign <;> rfl
      | infinity other => cases sign <;> cases other <;> rfl
      | finite other large small _ =>
          cases sign <;> cases other <;>
            simp [UnpackedFloat.compare, Ordering.swap_then, Int.compare_swap,
              Nat.compare_swap]

theorem isSome_compare {left right : UnpackedFloat} (first : left ≠ .notANumber)
    (second : right ≠ .notANumber) : (left.compare right).isSome = true := by
  cases left with
  | notANumber => exact absurd rfl first
  | infinity sign =>
      cases right with
      | notANumber => exact absurd rfl second
      | _ => cases sign <;> rfl
  | zero sign =>
      cases right with
      | notANumber => exact absurd rfl second
      | zero other => rfl
      | infinity other => cases other <;> rfl
      | finite other mantissa exponent positive => cases other <;> rfl
  | finite sign mantissa exponent positive =>
      cases right with
      | notANumber => exact absurd rfl second
      | zero other => cases sign <;> rfl
      | infinity other => cases sign <;> cases other <;> rfl
      | finite other large small _ => cases sign <;> cases other <;> rfl

theorem eq_or_zeros_of_compare {left right : UnpackedFloat}
    (equal : left.compare right = some .eq) :
    left = right ∨ ∃ sign other, left = .zero sign ∧ right = .zero other := by
  cases left with
  | notANumber => cases equal
  | infinity sign =>
      cases right with
      | infinity other =>
          have signs : sign = other := by
            cases sign <;> cases other <;> simp [UnpackedFloat.compare] at equal ⊢
          exact .inl (congrArg _ signs)
      | _ => cases sign <;> cases equal
  | zero sign =>
      cases right with
      | zero other => exact .inr ⟨sign, other, rfl, rfl⟩
      | notANumber => cases equal
      | _ other => cases other <;> cases equal
  | finite sign mantissa exponent positive =>
      cases right with
      | finite other large small _ =>
          have signs : sign = other := by
            cases sign <;> cases other <;> simp [UnpackedFloat.compare] at equal ⊢
          subst signs
          have both : (compare exponent small).then (compare mantissa large) = .eq := by
            cases sign <;> simpa [UnpackedFloat.compare] using equal
          have same : exponent = small ∧ mantissa = large := by
            simpa [Ordering.then_eq_eq] using both
          rcases same with ⟨rfl, rfl⟩
          exact .inl rfl
      | infinity other => cases sign <;> cases other <;> cases equal
      | _ => cases sign <;> cases equal

/-- Floats that compare as equal compare alike with any other. -/
theorem compare_of_compare_eq {left right : UnpackedFloat}
    (equal : left.compare right = some .eq) (float : UnpackedFloat) :
    float.compare left = float.compare right := by
  rcases eq_or_zeros_of_compare equal with rfl | ⟨sign, other, rfl, rfl⟩
  · rfl
  · cases float with
    | infinity own => cases own <;> rfl
    | finite own mantissa exponent positive => cases own <;> rfl
    | _ => rfl

end PlanarMesh.Unpacked

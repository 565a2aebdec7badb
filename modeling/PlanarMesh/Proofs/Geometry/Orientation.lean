import PlanarMesh.Geometry.Plane
import PlanarMesh.Proofs.Number.Laws

/-! # The orientation of three points

A triangle run through the other way round has the opposite orientation, rounding
included. Three points of which two are the same have no positive one.
-/

namespace PlanarMesh

open Number
open Unpacked (Vanishes)

variable {a b c : Point2}

theorem orientation_swap (nonzero : ¬Vanishes (parts (orientation a b c))) :
    orientation a c b = -orientation a b c := by
  unfold orientation at nonzero ⊢
  rw [Number.mul_comm (c.u - a.u), Number.mul_comm (c.v - a.v)]
  exact sub_swap nonzero

/-! ## Repeated points -/

theorem vanishes_orientation_first_second (a c : Point2) :
    Vanishes (parts (orientation a a c)) :=
  vanishes_sub (vanishes_mul (vanishes_sub_self a.u) _)
    (vanishes_mul (vanishes_sub_self a.v) _)

theorem vanishes_orientation_first_third (a b : Point2) :
    Vanishes (parts (orientation a b a)) := by
  rw [orientation, Number.mul_comm (b.u - a.u), Number.mul_comm (b.v - a.v)]
  exact vanishes_sub (vanishes_mul (vanishes_sub_self a.v) _)
    (vanishes_mul (vanishes_sub_self a.u) _)

theorem vanishes_orientation_second_third (a b : Point2) :
    Vanishes (parts (orientation a b b)) := by
  rw [orientation, Number.mul_comm (b.u - a.u)]
  exact vanishes_sub_self _

theorem distinct_of_orientation_pos (positive : 0.0 < orientation a b c) :
    a ≠ b ∧ b ≠ c ∧ a ≠ c := by
  have nonzero := (pos_iff.mp positive).2
  refine ⟨?_, ?_, ?_⟩
  · rintro rfl
    exact nonzero (vanishes_orientation_first_second a c)
  · rintro rfl
    exact nonzero (vanishes_orientation_second_third a b)
  · rintro rfl
    exact nonzero (vanishes_orientation_first_third a b)

/-! ## Areas above a tolerance -/

/-- Three points that run counter-clockwise around an area which is finite and above
the squared tolerance. -/
structure CounterClockwise (tolerance : Tolerance) (a b c : Point2) : Prop where
  finite : (orientation a b c).isFinite = true
  positive : 0.0 < orientation a b c
  large : tolerance.epsSquared < 0.5 * orientation a b c

/-- The test that is made before the sign is known settles it up to the direction. -/
theorem counterClockwise_or_swapped {tolerance : Tolerance}
    (isNumber : tolerance.eps.isNaN = false)
    (finite : (orientation a b c).isFinite = true)
    (large : ¬0.5 * (orientation a b c).abs ≤ tolerance.epsSquared) :
    if 0.0 < orientation a b c then CounterClockwise tolerance a b c
    else CounterClockwise tolerance a c b := by
  have bound : tolerance.epsSquared.isNaN = false := isNaN_mul_self isNumber
  split
  · rename_i positive
    rw [abs_of_pos positive] at large
    exact ⟨finite, positive, lt_of_not_le (isNaN_half finite) bound large⟩
  · rename_i notPositive
    -- A zero has no opposite, but the test has sorted it out: no square is below zero.
    have nonzero : ¬Vanishes (parts (orientation a b c)) := fun vanishes =>
      large (half_abs_le_mul_self finite vanishes isNumber)
    have swapped := orientation_swap nonzero
    have positive : 0.0 < orientation a c b := by
      rw [swapped]
      exact pos_neg_of_not_pos finite notPositive nonzero
    have swappedFinite : (orientation a c b).isFinite = true := by
      rw [swapped, isFinite_neg, finite]
    rw [← abs_neg, ← swapped, abs_of_pos positive] at large
    exact ⟨swappedFinite, positive, lt_of_not_le (isNaN_half swappedFinite) bound large⟩

end PlanarMesh

import Mathlib.Data.List.Forall2
import PlanarMesh.Proofs.Geometry.Orientation
import PlanarMesh.Proofs.Tessellation.Compute

/-! # Culling

Of the triangles that were cut, those with a finite area above the tolerance are emitted,
in their order and each once; the others are left out. Emission may turn a triangle
round, and does nothing else to it.
-/

namespace PlanarMesh

/-! ## Triangles up to a turn -/

namespace Triangle

variable {α : Type}

theorem corners_map {β : Type} (change : α → β) (triangle : Triangle α) :
    (triangle.map change).corners = triangle.corners.map change := rfl

theorem mem_corners_reversed {triangle : Triangle α} {corner : α} :
    corner ∈ triangle.reversed.corners ↔ corner ∈ triangle.corners := by
  simp only [corners, reversed, List.mem_cons, List.not_mem_nil, or_false]
  rw [or_comm (a := corner = triangle.third)]

def SameUpToTurn (left right : Triangle α) : Prop :=
  right = left ∨ right = left.reversed

theorem SameUpToTurn.mem_corners {left right : Triangle α} (same : left.SameUpToTurn right)
    {corner : α} (member : corner ∈ right.corners) : corner ∈ left.corners := by
  rcases same with rfl | rfl
  · exact member
  · exact mem_corners_reversed.mp member

def doubledArea (triangle : Triangle Point2) : Float :=
  orientation triangle.first triangle.second triangle.third

end Triangle

/-! ## The test -/

/-- Whether an area is finite and half of it is above the squared tolerance. -/
def isAbove (tolerance : Tolerance) (triangle : Triangle Point2) : Bool :=
  triangle.doubledArea.isFinite &&
    decide (tolerance.epsSquared < 0.5 * triangle.doubledArea.abs)

/-- Whether an area is finite and above the tolerance. No finite area is too small for a
tolerance that is not a number. -/
def isLarge (tolerance : Tolerance) (triangle : Triangle Point2) : Bool :=
  if tolerance.eps.isNaN then triangle.doubledArea.isFinite else isAbove tolerance triangle

namespace EarClipTessellator

open Number

theorem isLarge_iff {tolerance : Tolerance} {triangle : Triangle Point2} :
    isLarge tolerance triangle = true ↔
      triangle.doubledArea.isFinite = true ∧
        ¬0.5 * triangle.doubledArea.abs ≤ tolerance.epsSquared := by
  rw [isLarge]
  cases number : tolerance.eps.isNaN with
  | true =>
      have bound : tolerance.epsSquared.isNaN = true := isNaN_mul_self_of_isNaN number
      rw [if_pos rfl, iff_self_and]
      exact fun _ => not_le_of_isNaN bound
  | false =>
      have bound : tolerance.epsSquared.isNaN = false := isNaN_mul_self number
      rw [if_neg Bool.false_ne_true, isAbove, Bool.and_eq_true, decide_eq_true_iff]
      refine and_congr_right fun finite => ⟨not_le_of_lt, lt_of_not_le ?_ bound⟩
      exact isNaN_half ((isFinite_abs _).trans finite)

theorem isAbove_of_isNaN {tolerance : Tolerance} (notANumber : tolerance.eps.isNaN = true)
    (triangle : Triangle Point2) : isAbove tolerance triangle = false := by
  have bound : tolerance.epsSquared.isNaN = true := isNaN_mul_self_of_isNaN notANumber
  rw [isAbove, decide_eq_false (not_lt_of_isNaN bound), Bool.and_false]

theorem emit?_eq (tolerance : Tolerance) (triangle : Triangle (Nat × Point2)) :
    emit? tolerance triangle =
      if isLarge tolerance (triangle.map (·.2)) then
        if 0.0 < (triangle.map (·.2)).doubledArea then
          some (triangle.map (·.1))
        else
          some (triangle.map (·.1)).reversed
      else
        none := by
  change (if !(triangle.map (·.2)).doubledArea.isFinite ||
    decide (0.5 * (triangle.map (·.2)).doubledArea.abs ≤ tolerance.epsSquared) then _
    else _) = _
  by_cases large : isLarge tolerance (triangle.map (·.2)) = true
  · rcases isLarge_iff.mp large with ⟨finite, above⟩
    rw [if_pos large, finite, decide_eq_false above]
    rfl
  · rw [if_neg large, if_pos]
    rw [isLarge_iff] at large
    by_cases finite : (triangle.map (·.2)).doubledArea.isFinite = true
    · simpa [finite] using large
    · simp [finite]

theorem exists_emit?_of_isLarge {tolerance : Tolerance} {triangle : Triangle (Nat × Point2)}
    (large : isLarge tolerance (triangle.map (·.2)) = true) :
    ∃ emitted, emit? tolerance triangle = some emitted ∧
      (triangle.map (·.1)).SameUpToTurn emitted := by
  rw [emit?_eq, if_pos large]
  split
  · exact ⟨_, rfl, .inl rfl⟩
  · exact ⟨_, rfl, .inr rfl⟩

/-- The triangles that are emitted, one for each large one that was cut. -/
theorem forall₂_emitted {α : Type} (tolerance : Tolerance) (corner : α → Nat × Point2)
    (triangles : List (Triangle α)) :
    List.Forall₂ (fun cut emitted => (cut.map fun item => (corner item).1).SameUpToTurn emitted)
      (triangles.filter fun cut => isLarge tolerance (cut.map fun item => (corner item).2))
      (triangles.filterMap fun cut => emit? tolerance (cut.map corner)) := by
  induction triangles with
  | nil => exact .nil
  | cons cut rest induction =>
      rw [List.filter_cons, List.filterMap_cons]
      cases size : isLarge tolerance (cut.map fun item => (corner item).2) with
      | false =>
          have leftOut : emit? tolerance (cut.map corner) = none := by
            rw [emit?_eq]
            exact if_neg (ne_true_of_eq_false size)
          rw [leftOut]
          exact induction
      | true =>
          have large : isLarge tolerance ((cut.map corner).map (·.2)) = true := size
          rcases exists_emit?_of_isLarge large with ⟨emitted, emits, same⟩
          rw [emits]
          exact .cons same induction

end EarClipTessellator

end PlanarMesh

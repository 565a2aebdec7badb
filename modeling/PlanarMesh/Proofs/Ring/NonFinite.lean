import PlanarMesh.Proofs.Number.Infinite
import PlanarMesh.Proofs.Ring.Survivors

/-! # Vertices that are not finite stay

The distance from a point that is not finite is not below any bound. So such a vertex is
no duplicate of another one, and removing duplicates leaves it in its ring.
-/

namespace PlanarMesh

theorem Point3.unbounded_distanceSquared {left right : Point3}
    (notFinite : left.isFinite = false ∨ right.isFinite = false) :
    Unpacked.Unbounded (Number.parts (left.distanceSquared right)) := by
  apply Number.unbounded_squares
  simp only [Point3.isFinite, Bool.and_eq_false_iff] at notFinite
  rcases notFinite with ((first | second) | third) | ((first | second) | third)
  · exact .inl (Number.isFinite_sub (.inl first))
  · exact .inr (.inl (Number.isFinite_sub (.inl second)))
  · exact .inr (.inr (Number.isFinite_sub (.inl third)))
  · exact .inl (Number.isFinite_sub (.inr first))
  · exact .inr (.inl (Number.isFinite_sub (.inr second)))
  · exact .inr (.inr (Number.isFinite_sub (.inr third)))

theorem coincide_of_not_finite {left right : Point3}
    (notFinite : left.isFinite = false ∨ right.isFinite = false) :
    coincide left right = false := by
  have threshold : Tolerance.duplicateVertex.eps.isFinite = true := by decide +kernel
  apply decide_eq_false
  exact Number.not_le_of_unbounded (Point3.unbounded_distanceSquared notFinite) threshold

namespace Ring

theorem mem_cleaned_of_not_finite {ring : Ring} {vertex : Point3}
    (member : vertex ∈ ring.vertices) (notFinite : vertex.isFinite = false)
    (optimize : Bool) : vertex ∈ (ring.cleaned optimize).vertices := by
  rcases List.mem_iff_getElem?.mp member with ⟨place, found⟩
  rw [cleaned_vertices]
  apply mem_outside found
  intro removed
  cases optimize with
  | false => cases removed
  | true =>
      -- What was taken out coincides with the vertex behind it.
      rw [removedPlaces_true, mem_duplicatePlaces_iff] at removed
      rcases removed.duplicate with ⟨own, next, ownFound, _, same⟩
      cases found.symm.trans ownFound
      rw [coincide_of_not_finite (.inl notFinite)] at same
      cases same

/-- Removing duplicates neither hides that a ring is not finite nor makes it so. -/
theorem any_not_finite_cleaned (ring : Ring) (optimize : Bool) :
    ((ring.cleaned optimize).vertices.any fun vertex => !vertex.isFinite) =
      ring.vertices.any fun vertex => !vertex.isFinite := by
  rw [Bool.eq_iff_iff, List.any_eq_true, List.any_eq_true]
  constructor
  · rintro ⟨vertex, member, notFinite⟩
    exact ⟨vertex, (ring.cleaned_vertices_sublist optimize).subset member, notFinite⟩
  · rintro ⟨vertex, member, notFinite⟩
    have isFinite : vertex.isFinite = false := by simpa using notFinite
    exact ⟨vertex, mem_cleaned_of_not_finite member isFinite optimize, notFinite⟩

end Ring

end PlanarMesh

import PlanarMesh.Proofs.Tessellation.Compute

/-! # What the statistics count

The statistics of a computation are about what it was given and what it left: the
vertices and contours of the tessellator, and the triangles in its index buffer. This
holds at every end of a computation, after a failure too.
-/

namespace PlanarMesh.EarClipTessellator

/-- The statistics of a tessellator that has computed fit its buffers. -/
structure Tallied (computed : EarClipTessellator) : Prop where
  inputVertexCount : computed.statistics.inputVertexCount = computed.vertices.length
  contourCount : computed.statistics.contourCount = computed.contours.length
  skipped : computed.statistics.skippedContourCount ≤ computed.contours.length
  triangles : computed.indices.length = 3 * computed.statistics.outputTriangleCount

variable {tessellator : EarClipTessellator} {outline : List Point3}
  {holes : List (List Point3)}

theorem skipped_selectedStatistics_le (tessellator : EarClipTessellator)
    (outline : List Point3) (holes : List (List Point3)) :
    (tessellator.selectedStatistics outline holes).skippedContourCount ≤
      (outline :: holes).length := by
  rw [List.length_cons, ← length_verdicts tessellator.normal outline holes]
  exact Nat.le_trans List.countP_le_length (Nat.le_succ _)

theorem tallied_cutContours (cut : Cutter) (contours : tessellator.contours = outline :: holes) :
    (tessellator.begun.cutContours cut outline holes).value.2.Tallied := by
  have atMost := skipped_selectedStatistics_le tessellator.begun outline holes
  rw [← contours] at atMost
  cases answer : cut (chosen tessellator.begun.normal outline holes).points
      (chosen tessellator.begun.normal outline holes).holeStarts with
  | none =>
      rw [cutContours_of_failure _ answer]
      exact ⟨rfl, rfl, atMost, rfl⟩
  | some triangles =>
      rw [cutContours_of_success _ answer]
      exact ⟨rfl, rfl, atMost, length_indexBuffer_eq _⟩

theorem tallied_computeBy (cut : Cutter) (tessellator : EarClipTessellator) :
    (tessellator.computeBy cut).value.2.Tallied := by
  cases finite : firstNonFinite? tessellator.contours with
  | some contour =>
      rw [computeBy_of_nonFinite finite]
      exact ⟨rfl, rfl, Nat.zero_le _, rfl⟩
  | none =>
      by_cases short : (tessellator.contours.headD []).length < 3
      · rw [computeBy_of_short finite short]
        exact ⟨rfl, rfl, Nat.le_refl _, rfl⟩
      · rcases exists_outline short with ⟨outline, holes, contours, long⟩
        rw [computeBy_of_outline finite contours long]
        exact tallied_cutContours cut contours

/-- Two vertices or fewer make no triangle. -/
theorem indices_computeBy_of_few (cut : Cutter) (few : tessellator.vertices.length < 3) :
    (tessellator.computeBy cut).value.2.indices = [] := by
  have short : (tessellator.contours.headD []).length < 3 := by
    cases contours : tessellator.contours with
    | nil => exact Nat.zero_lt_succ 2
    | cons outline holes =>
        rw [vertices, contours, List.flatten_cons, List.length_append] at few
        exact Nat.lt_of_le_of_lt (Nat.le_add_right _ _) few
  cases finite : firstNonFinite? tessellator.contours with
  | some contour => rw [computeBy_of_nonFinite finite, begun]
  | none => rw [computeBy_of_short finite short, begun]

end PlanarMesh.EarClipTessellator

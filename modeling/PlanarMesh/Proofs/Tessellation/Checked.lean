import PlanarMesh.Proofs.Tessellation.Choice
import PlanarMesh.Proofs.Tessellation.Compute

/-! # Every access is in range

A tessellator over one buffer that holds the same contours as one with a list of
contours computes the same. As a checked computation has no result otherwise, all its
slices and subscripts are in range.
-/

namespace PlanarMesh

/-! ## Computing -/

def EarClipTessellator.ranged (tessellator : EarClipTessellator) : RangedTessellator where
  tolerance := tessellator.tolerance
  normal := tessellator.normal
  vertices := tessellator.vertices
  ranges := spansFrom 0 tessellator.contours
  indices := tessellator.indices
  statistics := tessellator.statistics

namespace RangedTessellator

theorem firstNonFinite?_eq (front : List Point3) (number : Nat)
    (contours : List (List Point3)) :
    firstNonFinite? (front ++ contours.flatten) number (spansFrom front.length contours) =
      some ((EarClipTessellator.firstNonFinite? contours).map (· + number)) := by
  induction contours generalizing front number with
  | nil => rfl
  | cons contour rest induction =>
      have sliced := Span.slice?_append front contour rest.flatten
      rw [EarClipTessellator.firstNonFinite?, List.findIdx?_cons, List.flatten_cons,
        spansFrom, firstNonFinite?, sliced]
      simp only [Option.bind_eq_bind, Option.bind_some]
      split
      · simp
      · rw [← List.append_assoc, ← List.length_append, induction]
        rw [EarClipTessellator.firstNonFinite?, Option.map_map]
        congr 2
        funext position
        exact (Nat.succ_add_eq_add_succ position number).symm

/-! ## Cutting -/

section Triangulate

variable {cut : EarClipTessellator.Cutter} (tessellator : RangedTessellator)
  {points : List Point2} {taken : ContourSet} (verdicts : List HoleVerdict)

theorem triangulate?_of_failure (points : List Point2)
    (failure : cut taken.points taken.holeStarts = none) :
    tessellator.triangulate? cut points taken verdicts =
      some (do
        EarClipTessellator.reportHoles verdicts
        pure (.error (.failed taken.source.length),
          { tessellator with
            statistics :=
              { tessellator.statistics with
                skippedContourCount := verdicts.countP fun verdict =>
                  verdict ≠ .accepted } })) := by
  rw [triangulate?, failure]

theorem triangulate?_of_success {triangles : List (Triangle (Fin taken.points.length))}
    (success : cut taken.points taken.holeStarts = some triangles)
    {corners : List (Triangle (Nat × Point2))}
    (found : (triangles.mapM fun triangle =>
      taken.triangle? points (triangle.map Fin.val)) = some corners) :
    tessellator.triangulate? cut points taken verdicts =
      let indices := EarClipTessellator.indexBuffer
        (corners.filterMap (EarClipTessellator.emit? tessellator.tolerance))
      some (do
        EarClipTessellator.reportHoles verdicts
        pure (.ok (),
          { tessellator with
            indices
            statistics :=
              { tessellator.statistics with
                skippedContourCount := verdicts.countP fun verdict => verdict ≠ .accepted
                outputTriangleCount := indices.length / 3
                culledTriangleCount := corners.countP fun corners =>
                  (EarClipTessellator.emit? tessellator.tolerance corners).isNone } })) := by
  rw [triangulate?, success]
  dsimp only
  rw [found]
  rfl

end Triangulate

section Cut

variable {cut : EarClipTessellator.Cutter} {tessellator : EarClipTessellator}
  {outline : List Point3} {holes : List (List Point3)}

theorem cut?_eq (contours : tessellator.contours = outline :: holes)
    (nonempty : outline ≠ []) :
    tessellator.ranged.cut? cut ⟨0, outline.length⟩ =
      tessellator.ranged.triangulate? cut
        (EarClipTessellator.projectedAll tessellator.normal outline holes)
        (.ofSelection (EarClipTessellator.chosen tessellator.normal outline holes))
        (EarClipTessellator.verdicts tessellator.normal outline holes) := by
  have vertices : tessellator.ranged.vertices = (outline :: holes).flatten := by
    rw [EarClipTessellator.ranged, EarClipTessellator.vertices, contours]
  have ranges : tessellator.ranged.ranges = spansFrom 0 (outline :: holes) := by
    rw [EarClipTessellator.ranged, contours]
  have selected := ContourSet.select?_chosen tessellator.normal nonempty holes
  rw [cut?, vertices, List.flatten_cons, Span.slice?_zero, ranges, ← List.flatten_cons]
  exact congrArg (Option.bind · _) selected

theorem cut?_ranged (contours : tessellator.contours = outline :: holes)
    (nonempty : outline ≠ []) (small : tessellator.vertices.length ≤ UInt32.size) :
    tessellator.ranged.cut? cut ⟨0, outline.length⟩ =
      some ((fun result => (result.1, result.2.ranged)) <$>
        tessellator.cutContours cut outline holes) := by
  rw [cut?_eq contours nonempty]
  cases answer : cut (EarClipTessellator.chosen tessellator.normal outline holes).points
      (EarClipTessellator.chosen tessellator.normal outline holes).holeStarts with
  | none =>
      rw [triangulate?_of_failure _ _ _ answer]
      apply congrArg some
      apply Logged.ext
      · rw [Logged.value_map, EarClipTessellator.cutContours_of_failure _ answer]
        simp only [Logged.value_bind, Logged.value_pure, ContourSet.length_source_ofSelection]
        rfl
      · rw [Logged.emissions_map, EarClipTessellator.emissions_cutContours]
        exact List.append_nil _
  | some triangles =>
      have smallContours : (outline :: holes).flatten.length ≤ UInt32.size := by
        rw [← contours]
        exact small
      have fits : (EarClipTessellator.projectedAll tessellator.normal outline
          holes).length ≤ UInt32.size := by
        rwa [EarClipTessellator.length_projectedAll]
      have same : EarClipTessellator.storedChoice tessellator.normal outline holes =
          (EarClipTessellator.chosen tessellator.normal outline holes).corner :=
        funext (EarClipTessellator.storedChoice_of_small smallContours)
      have found := ContourSet.mapM_triangle?_eq
        (fun _ => EarClipTessellator.getElem?_of_mem_chosen) fits triangles
      rw [triangulate?_of_success _ _ answer found]
      apply congrArg some
      apply Logged.ext
      · rw [Logged.value_map, EarClipTessellator.cutContours_of_success _ answer, same]
        rfl
      · rw [Logged.emissions_map, EarClipTessellator.emissions_cutContours]
        exact List.append_nil _

end Cut

theorem begun_ranged (tessellator : EarClipTessellator) :
    tessellator.ranged.begun = tessellator.begun.ranged := by
  rw [begun, EarClipTessellator.ranged, EarClipTessellator.ranged, length_spansFrom]
  rfl

/-- Computing over one buffer has a result, and it is that of computing over the
contours. -/
theorem computeBy?_ranged (cut : EarClipTessellator.Cutter) (tessellator : EarClipTessellator)
    (small : tessellator.vertices.length ≤ UInt32.size) :
    tessellator.ranged.computeBy? cut =
      some ((fun result => (result.1, result.2.ranged)) <$> tessellator.computeBy cut) := by
  have nonFinite :
      firstNonFinite? tessellator.ranged.vertices 0 tessellator.ranged.ranges =
        some (EarClipTessellator.firstNonFinite? tessellator.contours) := by
    have found := firstNonFinite?_eq [] 0 tessellator.contours
    simp only [Nat.add_zero, Option.map_id_fun', id_eq] at found
    exact found
  have ranges : tessellator.ranged.ranges = spansFrom 0 tessellator.contours := rfl
  rw [computeBy?, nonFinite, EarClipTessellator.computeBy, begun_ranged, ranges]
  simp only [Option.bind_eq_bind, Option.bind_some]
  cases EarClipTessellator.firstNonFinite? tessellator.contours with
  | some contour => rfl
  | none =>
      cases contours : tessellator.contours with
      | nil => rfl
      | cons outline holes =>
          simp only [spansFrom, List.head?_cons, Span.size_mk]
          split
          · simp only [List.length_cons, length_spansFrom]
            rfl
          · rename_i long
            have nonempty : outline ≠ [] := by
              intro empty
              rw [empty] at long
              exact long (Nat.zero_lt_succ 2)
            have shape : tessellator.begun.contours = outline :: holes := contours
            rw [Nat.zero_add]
            exact cut?_ranged shape nonempty small

end RangedTessellator

end PlanarMesh

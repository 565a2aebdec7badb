import PlanarMesh.Proofs.Log.Logged
import PlanarMesh.Proofs.Tessellation.Corners

/-! # Runs of the built-in tessellator

Computing has five ends: a coordinate that is not finite, no contour, a short
outline, contours that cannot be cut, and triangles. Each has an equation for what
is answered. Whatever the end, the contours and the settings stay, and the index
buffer is that of this computation.
-/

namespace PlanarMesh.EarClipTessellator

variable {cut : Cutter} {tessellator : EarClipTessellator} {outline : List Point3}
  {holes : List (List Point3)}

/-! ## The five ends -/

theorem computeBy_of_nonFinite {contour : Nat}
    (found : firstNonFinite? tessellator.contours = some contour) :
    (tessellator.computeBy cut).value = (.error (.nonFinite contour), tessellator.begun) := by
  rw [computeBy, found]
  rfl

theorem computeBy_of_no_contours (empty : tessellator.contours = []) :
    (tessellator.computeBy cut).value = (.ok (), tessellator.begun) := by
  have finite : firstNonFinite? tessellator.contours = none := by
    rw [empty]
    rfl
  rw [computeBy, finite, empty]
  rfl

theorem computeBy_of_short_outline (finite : firstNonFinite? tessellator.contours = none)
    (contours : tessellator.contours = outline :: holes) (short : outline.length < 3) :
    (tessellator.computeBy cut).value =
      (.ok (),
        { tessellator.begun with
          statistics :=
            { tessellator.begun.statistics with
              skippedContourCount := tessellator.contours.length } }) := by
  rw [computeBy, finite, contours]
  simp only [if_pos short]
  rfl

theorem computeBy_of_short (finite : firstNonFinite? tessellator.contours = none)
    (short : (tessellator.contours.headD []).length < 3) :
    (tessellator.computeBy cut).value =
      (.ok (),
        { tessellator.begun with
          statistics :=
            { tessellator.begun.statistics with
              skippedContourCount := tessellator.contours.length } }) := by
  cases contours : tessellator.contours with
  | nil => exact computeBy_of_no_contours contours
  | cons outline holes =>
      rw [contours] at short
      rw [← contours]
      exact computeBy_of_short_outline finite contours short

theorem exists_outline {contours : List (List Point3)}
    (long : ¬(contours.headD []).length < 3) :
    ∃ outline holes, contours = outline :: holes ∧ ¬outline.length < 3 := by
  cases contours with
  | nil => exact absurd (Nat.zero_lt_succ 2) long
  | cons outline holes => exact ⟨outline, holes, rfl, long⟩

theorem computeBy_of_outline (finite : firstNonFinite? tessellator.contours = none)
    (contours : tessellator.contours = outline :: holes) (long : ¬outline.length < 3) :
    tessellator.computeBy cut = tessellator.begun.cutContours cut outline holes := by
  rw [computeBy, finite, contours]
  simp only [if_neg long]

theorem length_startsFrom (start : Nat) (contours : List PlacedContour) :
    (Selection.startsFrom start contours).length = contours.length := by
  induction contours generalizing start with
  | nil => rfl
  | cons contour rest induction =>
      rw [Selection.startsFrom, List.length_cons, induction, List.length_cons]

theorem length_holeStarts_chosen (normal : Vec3) (outline : List Point3)
    (holes : List (List Point3)) :
    (chosen normal outline holes).holeStarts.length =
      (verdicts normal outline holes).countP fun verdict => verdict = .accepted := by
  rw [verdicts, List.countP_map, List.countP_eq_length_filter]
  exact length_startsFrom _ _

def selectedStatistics (tessellator : EarClipTessellator) (outline : List Point3)
    (holes : List (List Point3)) : TessellationStatistics :=
  { tessellator.statistics with
    skippedContourCount :=
      (verdicts tessellator.normal outline holes).countP fun verdict => verdict ≠ .accepted }

theorem value_cutContours (cut : Cutter) (tessellator : EarClipTessellator)
    (outline : List Point3) (holes : List (List Point3)) :
    (tessellator.cutContours cut outline holes).value =
      { tessellator with
        statistics := tessellator.selectedStatistics outline holes }.concluded
          (chosen tessellator.normal outline holes)
          (projectedAll tessellator.normal outline holes)
          (cut (chosen tessellator.normal outline holes).points
            (chosen tessellator.normal outline holes).holeStarts) := rfl

theorem cutContours_of_failure (tessellator : EarClipTessellator)
    (failure : cut (chosen tessellator.normal outline holes).points
      (chosen tessellator.normal outline holes).holeStarts = none) :
    (tessellator.cutContours cut outline holes).value =
      (.error (.failed (chosen tessellator.normal outline holes).corners.length),
        { tessellator with
          statistics := tessellator.selectedStatistics outline holes }) := by
  rw [value_cutContours, failure]
  rfl

theorem cutContours_of_success (tessellator : EarClipTessellator)
    {triangles : List
      (Triangle (Fin (chosen tessellator.normal outline holes).points.length))}
    (success : cut (chosen tessellator.normal outline holes).points
      (chosen tessellator.normal outline holes).holeStarts = some triangles) :
    (tessellator.cutContours cut outline holes).value =
      let corners := triangles.map (·.map (storedChoice tessellator.normal outline holes))
      let indices := indexBuffer (corners.filterMap (emit? tessellator.tolerance))
      (.ok (),
        { tessellator with
          indices
          statistics :=
            { tessellator.selectedStatistics outline holes with
              outputTriangleCount := indices.length / 3
              culledTriangleCount := corners.countP fun corners =>
                (emit? tessellator.tolerance corners).isNone } }) := by
  rw [value_cutContours, success]
  rfl

theorem emissions_cutContours (cut : Cutter) (tessellator : EarClipTessellator)
    (outline : List Point3) (holes : List (List Point3)) :
    (tessellator.cutContours cut outline holes).emissions =
      (reportHoles (verdicts tessellator.normal outline holes)).emissions :=
  List.append_nil _

/-! ## Every computation -/

/-- A computation fails with an empty index buffer, or it succeeds with triangles
over the vertices of contours that are all finite. It leaves the contours and the
settings alone. -/
theorem computeBy_cases (cut : Cutter) (tessellator : EarClipTessellator) :
    (∃ cause statistics, (tessellator.computeBy cut).value =
      (.error cause, { tessellator.begun with statistics })) ∨
    (firstNonFinite? tessellator.contours = none ∧
      ∃ indices statistics,
        (tessellator.computeBy cut).value =
          (.ok (), { tessellator.begun with indices, statistics }) ∧
        TriangleList indices tessellator.vertices.length) := by
  cases finite : firstNonFinite? tessellator.contours with
  | some contour => exact .inl ⟨_, _, computeBy_of_nonFinite finite⟩
  | none =>
      refine .imp_right (fun success => ⟨rfl, success⟩) ?_
      by_cases short : (tessellator.contours.headD []).length < 3
      · exact .inr ⟨_, _, computeBy_of_short finite short, .empty _⟩
      · rcases exists_outline short with ⟨outline, holes, contours, long⟩
        rw [computeBy_of_outline finite contours long]
        cases answer : cut (chosen tessellator.begun.normal outline holes).points
            (chosen tessellator.begun.normal outline holes).holeStarts with
        | none => exact .inl ⟨_, _, cutContours_of_failure _ answer⟩
        | some triangles =>
            refine .inr ⟨_, _, cutContours_of_success _ answer, ?_⟩
            rw [vertices, contours, List.filterMap_map]
            exact emitted_triangleList _ _ outline holes triangles

theorem computeBy_of_no_vertices (cut : Cutter)
    (empty : tessellator.vertices = []) : (tessellator.computeBy cut).value.1 = .ok () := by
  have emptyContours : ∀ contour ∈ tessellator.contours, contour = [] :=
    List.flatten_eq_nil_iff.mp empty
  have finite : firstNonFinite? tessellator.contours = none := by
    apply List.findIdx?_eq_none_iff.mpr
    intro contour member
    rw [emptyContours contour member]
    rfl
  have short : (tessellator.contours.headD []).length < 3 := by
    cases contours : tessellator.contours with
    | nil => exact Nat.zero_lt_succ 2
    | cons outline holes =>
        rw [contours] at emptyContours
        rw [List.headD_cons, emptyContours outline List.mem_cons_self]
        exact Nat.zero_lt_succ 2
  rw [computeBy_of_short finite short]

theorem begun_computeBy (cut : Cutter) (tessellator : EarClipTessellator) :
    (tessellator.computeBy cut).value.2.begun = tessellator.begun := by
  rcases tessellator.computeBy_cases cut with ⟨_, _, equal⟩ | ⟨_, _, _, equal, _⟩
  · rw [equal]
    rfl
  · rw [equal]
    rfl

theorem computeBy_contours (cut : Cutter) (tessellator : EarClipTessellator) :
    (tessellator.computeBy cut).value.2.contours = tessellator.contours := by
  have kept := congrArg contours (tessellator.begun_computeBy cut)
  exact kept

theorem computeBy_tolerance (cut : Cutter) (tessellator : EarClipTessellator) :
    (tessellator.computeBy cut).value.2.tolerance = tessellator.tolerance := by
  have kept := congrArg tolerance (tessellator.begun_computeBy cut)
  exact kept

theorem computeBy_normal (cut : Cutter) (tessellator : EarClipTessellator) :
    (tessellator.computeBy cut).value.2.normal = tessellator.normal := by
  have kept := congrArg normal (tessellator.begun_computeBy cut)
  exact kept

theorem finite_of_firstNonFinite?_eq_none {contours : List (List Point3)}
    (finite : firstNonFinite? contours = none) {vertex : Point3}
    (member : vertex ∈ contours.flatten) : vertex.isFinite = true := by
  rcases List.mem_flatten.mp member with ⟨contour, contourMember, inContour⟩
  have noneFound := List.findIdx?_eq_none_iff.mp finite contour contourMember
  rw [List.any_eq_false] at noneFound
  simpa using noneFound vertex inContour

/-! ## Levels -/

section Levels

variable {level : Level} (other : .debug ≠ level)

include other

theorem reportHoles_avoids (verdicts : List HoleVerdict) :
    (reportHoles verdicts).Avoids level := by
  intro emission member
  rcases List.mem_filterMap.mp member with ⟨⟨verdict, contour⟩, _, told⟩
  dsimp only at told
  split at told
  · cases told
    exact other
  · cases told

theorem computeBy_avoids (cut : Cutter) (tessellator : EarClipTessellator) :
    (tessellator.computeBy cut).Avoids level := by
  rw [computeBy]
  split
  · exact Logged.avoids_pure _ _
  · split
    · exact Logged.avoids_pure _ _
    · split
      · exact (Logged.avoids_note other _).bind (Logged.avoids_pure _ _)
      · exact (reportHoles_avoids other _).bind (Logged.avoids_pure _ _)

end Levels

end PlanarMesh.EarClipTessellator

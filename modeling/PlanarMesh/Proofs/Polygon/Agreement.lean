import PlanarMesh.Proofs.Polygon.Outcome

/-! # A fan and the tessellator agree

The two ways of filling the buffers move the vertices out of the rings on their own
paths. They end with one and the same polygon but for the triangles and what is noted
about them, and neither of them changes the number of vertices.
-/

namespace PlanarMesh.Polygon

/-! ## Gathered vertices -/

theorem gathered_false (polygon : Polygon) :
    polygon.gathered false = polygon.rings.flatMap (·.vertices) := rfl

theorem flatMap_cleaned_sublist (rings : List Ring) (optimize : Bool) :
    (rings.flatMap fun ring => (ring.cleaned optimize).vertices).Sublist
      (rings.flatMap (·.vertices)) := by
  induction rings with
  | nil => exact List.Sublist.refl []
  | cons ring rest induction =>
      rw [List.flatMap_cons, List.flatMap_cons]
      exact (ring.cleaned_vertices_sublist optimize).append induction

/-! ## Levels -/

theorem cleaning_avoids_error (polygon : Polygon) (optimize : Bool)
    (logger : Option Listener) : (polygon.cleaning optimize logger).Avoids .error := by
  cases optimize with
  | false => exact Logged.avoids_pure _ _
  | true => exact (cleanRings_avoids_error _ _ _).bind (Logged.avoids_pure _ _)

theorem closing_avoids_error (polygon : Polygon) (options : BuildOptions)
    (logger : Option Listener) (tessellator : EarClipTessellator) :
    (polygon.closing options logger (polygon.filling options tessellator).value).Avoids
      .error := by
  rcases polygon.filling_cases options tessellator with
    ⟨cause, computed, _, equal⟩ | ⟨indices, computed, equal, _, _⟩
  · rw [equal]
    exact Logged.avoids_pure _ _
  · rw [equal, closing, inspect_gathered]
    refine Logged.Avoids.bind (Logged.Avoids.bind ?_ (Logged.avoids_pure _ _)) ?_
    · split
      · exact Logged.avoids_tell (by decide) _ _
      · exact Logged.avoids_pure _ _
    · exact (Logged.avoids_note (by decide) _).bind (Logged.avoids_pure _ _)

/-- Finishing reports no error; so it never reports that vertices were lost. -/
theorem finish_avoids_error (polygon : Polygon) (options : BuildOptions)
    (tessellator : EarClipTessellator) (logger : Option Listener) :
    (polygon.finish options tessellator logger).Avoids .error := by
  cases state : polygon.isFinished with
  | true =>
      rw [finish_of_finished state]
      exact Logged.avoids_pure _ _
  | false =>
      rw [finish_of_open state]
      apply (polygon.cleaning_avoids_error options.optimize logger).bind
      apply (polygon.filling_avoids (by decide) options tessellator).bind
      exact polygon.closing_avoids_error options logger tessellator

/-! ## Agreement -/

/-- When cutting succeeds, its polygon is that of a fan with other triangles. -/
theorem cut_eq_fan {polygon : Polygon} (isOpen : polygon.isFinished = false)
    (optimize : Bool) (tessellator unused : EarClipTessellator)
    (logger other : Option Listener)
    (succeeded :
      (polygon.finish ⟨true, optimize⟩ tessellator logger).value.outcome.isOk = true) :
    let fan := (polygon.finish ⟨false, optimize⟩ unused other).value.polygon
    ∃ indices statistics,
      (polygon.finish ⟨true, optimize⟩ tessellator logger).value.polygon =
        { fan with
          surface := some
            { fan.shown with
              indices
              diagnostics :=
                { fan.diagnostics with
                  tessellated := true
                  triangleCount := indices.length / 3
                  tessellation := statistics } } } := by
  have fanOk : (polygon.finish ⟨false, optimize⟩ unused other).value.outcome.isOk = true :=
    isOk_of_fan isOpen rfl unused other
  rcases polygon_of_isOk isOpen _ tessellator logger succeeded with
    ⟨indices, statistics, cutEqual⟩
  rcases polygon_of_isOk isOpen _ unused other fanOk with ⟨_, _, fanEqual⟩
  dsimp only
  rw [cutEqual, fanEqual]
  exact ⟨indices, statistics, rfl⟩

/-- The vertices of a finished polygon are those that its rings were left with: none is
lost, added or moved, and the diagnostics agree. -/
structure KeepsVertices (polygon : Polygon) (optimize : Bool) (finished : Polygon) :
    Prop where
  vertices : finished.vertices =
    polygon.rings.flatMap fun ring => (ring.cleaned optimize).vertices
  sublist : finished.vertices.Sublist (polygon.rings.flatMap (·.vertices))
  total : finished.vertices.length + finished.diagnostics.removedDuplicateCount =
    (polygon.rings.flatMap (·.vertices)).length
  unchanged : optimize = false →
    finished.vertices = polygon.rings.flatMap (·.vertices)
  noDrift : finished.diagnostics.hasVertexCountDrift = false

theorem keepsVertices_of_isOk {polygon : Polygon} (isOpen : polygon.isFinished = false)
    (options : BuildOptions) (tessellator : EarClipTessellator)
    (logger : Option Listener)
    (succeeded :
      (polygon.finish options tessellator logger).value.outcome.isOk = true) :
    KeepsVertices polygon options.optimize
      (polygon.finish options tessellator logger).value.polygon := by
  rcases polygon_of_isOk isOpen options tessellator logger succeeded with
    ⟨indices, statistics, equal⟩
  rw [equal]
  exact
    { vertices := rfl
      sublist := flatMap_cleaned_sublist polygon.rings options.optimize
      total := by
        rw [← totalSize_eq_length]
        exact polygon.length_gathered options.optimize
      unchanged := by
        intro keepsAll
        rw [vertices_sealed, keepsAll, gathered_false]
      noDrift := polygon.concluded_no_drift options indices statistics }

theorem finish_agreement {polygon : Polygon} (isOpen : polygon.isFinished = false)
    (optimize : Bool) (tessellator unused : EarClipTessellator)
    (logger other : Option Listener) :
    let cut := (polygon.finish ⟨true, optimize⟩ tessellator logger).value
    let fan := (polygon.finish ⟨false, optimize⟩ unused other).value
    (cut.outcome.isOk = true →
      cut.polygon.vertices = fan.polygon.vertices ∧
      cut.polygon.normal = fan.polygon.normal ∧
      cut.polygon.diagnostics.removedDuplicateCount =
        fan.polygon.diagnostics.removedDuplicateCount ∧
      cut.polygon.diagnostics.inputVertexCount =
        fan.polygon.diagnostics.inputVertexCount ∧
      cut.polygon.exterior = fan.polygon.exterior ∧
      cut.polygon.interior = fan.polygon.interior ∧
      cut.polygon.appearance = fan.polygon.appearance ∧
      KeepsVertices polygon optimize cut.polygon) ∧
    fan.outcome.isOk = true ∧
    KeepsVertices polygon optimize fan.polygon ∧
    ∀ options : BuildOptions,
      (polygon.finish options tessellator logger).Avoids .error := by
  have fanOk : (polygon.finish ⟨false, optimize⟩ unused other).value.outcome.isOk = true :=
    isOk_of_fan isOpen rfl unused other
  refine ⟨?_, fanOk, keepsVertices_of_isOk isOpen _ unused other fanOk, ?_⟩
  · intro succeeded
    rcases cut_eq_fan isOpen optimize tessellator unused logger other succeeded with
      ⟨indices, statistics, equal⟩
    have keeps := keepsVertices_of_isOk isOpen _ tessellator logger succeeded
    rw [equal] at keeps ⊢
    exact ⟨rfl, rfl, rfl, rfl, rfl, rfl, rfl, keeps⟩
  · intro options
    exact polygon.finish_avoids_error options tessellator logger

theorem finish_agreement_courtyard :
    let cut := (courtyard.finish ⟨true, true⟩ worn none).value.polygon
    let fan := (courtyard.finish ⟨false, true⟩ worn none).value.polygon
    cut.vertices = fan.vertices ∧ cut.normal = fan.normal ∧
      KeepsVertices courtyard true cut ∧ KeepsVertices courtyard true fan := by
  have isOpen : courtyard.isFinished = false := rfl
  rcases finish_agreement isOpen true worn worn none none with
    ⟨agrees, _, fanKeeps, _⟩
  rcases agrees courtyard_isOk with ⟨vertices, normal, _, _, _, _, _, cutKeeps⟩
  exact ⟨vertices, normal, cutKeeps, fanKeeps⟩

end PlanarMesh.Polygon

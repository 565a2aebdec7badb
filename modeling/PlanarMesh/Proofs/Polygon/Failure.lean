import PlanarMesh.Proofs.Polygon.Summary
import PlanarMesh.Proofs.Ring.NonFinite
import PlanarMesh.Proofs.Tessellation.Failure

/-! # Failing to finish

Only a tessellation can fail. It names the first ring with a vertex that is not finite,
whether duplicates were removed or not, because removing them leaves every such vertex in
its ring. By then duplicates are gone and the vertices have been moved out, so the polygon
counts as finished and shows nothing but what was counted before.
-/

namespace PlanarMesh.Polygon

open EarClipTessellator (firstNonFinite?_eq_some_iff computeBy_nonFinite_iff
  computeBy_failed_iff exists_firstNonFinite_iff)

/-! ## Rings as contours -/

theorem firstNonFinite_loaded_iff (polygon : Polygon) (optimize : Bool)
    (tolerance : Tolerance) {number : Nat} :
    FirstNonFinite (polygon.loaded optimize tolerance).contours number ↔
      FirstNonFinite (polygon.rings.map (·.vertices)) number := by
  have contours : (polygon.loaded optimize tolerance).contours =
      polygon.rings.map fun ring => (ring.cleaned optimize).vertices := by
    rw [loaded, rings_cleaned, List.map_map]
    rfl
  rw [contours, ← firstNonFinite?_eq_some_iff, ← firstNonFinite?_eq_some_iff,
    EarClipTessellator.firstNonFinite?, EarClipTessellator.firstNonFinite?,
    List.findIdx?_map, List.findIdx?_map]
  have same : ((fun vertices : List Point3 => vertices.any fun vertex => !vertex.isFinite) ∘
        fun ring : Ring => (ring.cleaned optimize).vertices) =
      (fun vertices : List Point3 => vertices.any fun vertex => !vertex.isFinite) ∘
        fun ring : Ring => ring.vertices := by
    funext ring
    exact ring.any_not_finite_cleaned optimize
  rw [same]

/-! ## Outcomes -/

section Outcomes

variable {polygon : Polygon} (isOpen : polygon.isFinished = false) (optimize : Bool)
  (tessellator : EarClipTessellator) (logger : Option Listener)

include isOpen

theorem finish_eq_error_iff {error : PolygonError} :
    (polygon.finish ⟨true, optimize⟩ tessellator logger).value.outcome = .error error ↔
      ∃ cause, error = .tessellation cause ∧
        ((polygon.loaded optimize tessellator.tolerance).computeBy
          EarClip.triangulate).value.1 = .error cause := by
  rw [finish_value_of_open isOpen, polygon.filling_of_tessellate rfl, Logged.value_bind,
    Logged.value_pure]
  rcases result : ((polygon.loaded optimize tessellator.tolerance).computeBy
      EarClip.triangulate).value with
    ⟨own | _, computed⟩
  · constructor
    · intro failed
      cases failed
      exact ⟨own, rfl, rfl⟩
    · rintro ⟨_, rfl, same⟩
      cases same
      rfl
  · constructor
    · intro failed
      cases failed
    · rintro ⟨_, _, failed⟩
      cases failed

theorem finish_tessellation_iff {cause : TessellationError} :
    (polygon.finish ⟨true, optimize⟩ tessellator logger).value.outcome =
        .error (.tessellation cause) ↔
      ((polygon.loaded optimize tessellator.tolerance).computeBy
        EarClip.triangulate).value.1 = .error cause := by
  rw [finish_eq_error_iff isOpen]
  constructor
  · rintro ⟨_, same, failed⟩
    cases same
    exact failed
  · intro failed
    exact ⟨cause, rfl, failed⟩

theorem finish_nonFinite_iff {number : Nat} :
    (polygon.finish ⟨true, optimize⟩ tessellator logger).value.outcome =
        .error (.tessellation (.nonFinite number)) ↔
      FirstNonFinite (polygon.rings.map (·.vertices)) number := by
  rw [finish_tessellation_iff isOpen, computeBy_nonFinite_iff, firstNonFinite_loaded_iff]

end Outcomes

/-! ## What is left -/

/-- What a failure leaves of a polygon that was open. -/
structure Abandoned (polygon failed : Polygon) (optimize : Bool) : Prop where
  finished : failed.isFinished = true
  noVertices : failed.vertices = []
  noIndices : failed.indices = []
  emptied : failed.rings = polygon.rings.map Ring.emptied
  diagnostics : failed.diagnostics =
    { Diagnostics.empty with
      ringCount := polygon.rings.length
      removedDuplicateCount := polygon.removedCount optimize
      tessellated := true
      inputVertexCount := (polygon.gathered optimize).length }
  counted : failed.diagnostics.inputVertexCount + failed.diagnostics.removedDuplicateCount =
    Ring.totalSize polygon.rings
  unclean : failed.diagnostics.isClean = false
  again : ∀ (τ : Type) [Tessellator τ] (options : BuildOptions) (other : τ)
    (listener : Option Listener),
    failed.finish options other listener = pure ⟨.ok (), failed, other⟩

theorem abandoned_of_error {polygon : Polygon} (isOpen : polygon.isFinished = false)
    {optimize : Bool} {tessellator : EarClipTessellator} {logger : Option Listener}
    {error : PolygonError}
    (failed : (polygon.finish ⟨true, optimize⟩ tessellator logger).value.outcome =
      .error error) :
    Abandoned polygon (polygon.finish ⟨true, optimize⟩ tessellator logger).value.polygon
      optimize := by
  have notOk : (polygon.finish ⟨true, optimize⟩ tessellator logger).value.outcome.isOk =
      false := by
    rw [failed]
    rfl
  have unclean := isClean_of_failure isOpen notOk
  rcases finish_cases isOpen ⟨true, optimize⟩ tessellator logger with
    ⟨cause, computed, _, equal⟩ | ⟨_, _, _, equal, _⟩
  · have input : (polygon.begun ⟨true, optimize⟩).inputVertexCount =
        (polygon.gathered optimize).length := polygon.inputVertexCount_begun _
    rw [equal] at unclean ⊢
    exact
      { finished := isFinished_sealed _ _
        noVertices := vertices_sealed _ _
        noIndices := indices_sealed _ _
        emptied := by
          rw [rings_sealed, rings_cleaned, List.map_map]
          exact List.map_congr_left fun ring _ => ring.emptied_cleaned optimize
        diagnostics := by
          rw [diagnostics_sealed, ← input]
          rfl
        counted := by
          rw [diagnostics_sealed, input]
          exact polygon.length_gathered optimize
        unclean
        again := fun _ _ options other listener =>
          finish_of_finished (isFinished_sealed _ _) options other listener }
  · rw [equal] at failed
    cases failed

/-- Finishing an open polygon with a fan does not fail. With the tessellator it fails
because of the first ring that is not finite if there is one, and otherwise only because
the contours cannot be cut. A failure leaves an abandoned polygon. -/
theorem finish_failure {polygon : Polygon} (isOpen : polygon.isFinished = false)
    (optimize : Bool) (tessellator : EarClipTessellator) (logger : Option Listener) :
    let fan := (polygon.finish ⟨false, optimize⟩ tessellator logger).value
    let cut := (polygon.finish ⟨true, optimize⟩ tessellator logger).value
    fan.outcome = .ok () ∧
    (∀ number, cut.outcome = .error (.tessellation (.nonFinite number)) ↔
      FirstNonFinite (polygon.rings.map (·.vertices)) number) ∧
    ((∃ number, cut.outcome = .error (.tessellation (.nonFinite number))) ↔
      ∃ ring ∈ polygon.rings, ∃ vertex ∈ ring.vertices, vertex.isFinite = false) ∧
    (∀ error, cut.outcome = .error error →
      (∃ number, error = .tessellation (.nonFinite number)) ∨
      ∃ pointCount, error = .tessellation (.failed pointCount) ∧
        (polygon.loaded optimize tessellator.tolerance).Uncuttable EarClip.triangulate
          pointCount) ∧
    ∀ error, cut.outcome = .error error → Abandoned polygon cut.polygon optimize := by
  have names : ∀ number,
      (polygon.finish ⟨true, optimize⟩ tessellator logger).value.outcome =
          .error (.tessellation (.nonFinite number)) ↔
        FirstNonFinite (polygon.rings.map (·.vertices)) number :=
    fun _ => finish_nonFinite_iff isOpen optimize tessellator logger
  refine ⟨?_, names, ?_, ?_, fun _ => abandoned_of_error isOpen⟩
  · rw [finish_value_of_fan isOpen]
  · rw [exists_congr names, exists_firstNonFinite_iff]
    simp only [List.mem_map, exists_exists_and_eq_and]
  · intro error failed
    rcases (finish_eq_error_iff isOpen optimize tessellator logger).mp failed with
      ⟨cause, rfl, computes⟩
    cases cause with
    | nonFinite number => exact .inl ⟨number, rfl⟩
    | failed pointCount => exact .inr ⟨pointCount, rfl, computeBy_failed_iff.mp computes⟩

/-- A square whose rings close with their first vertex. The last two holes are not
finite. -/
def crumbling : Polygon :=
  { courtyard with
    interior := courtyard.interior ++
      [⟨"crack", false, [⟨2, 2, 0⟩, ⟨2, 0.0 / 0.0, 0⟩, ⟨2, 2, 0⟩]⟩,
        ⟨"hole", false, [⟨1.0 / 0.0, 1, 0⟩]⟩] }

theorem finish_failure_crumbling :
    let cut := (crumbling.finish ⟨true, true⟩ worn none).value
    crumbling.isFinished = false ∧
      cut.outcome = .error (.tessellation (.nonFinite 2)) ∧
      cut.polygon.rings.length = 4 ∧
      cut.polygon.diagnostics =
        { Diagnostics.empty with
          ringCount := 4
          removedDuplicateCount := 3
          tessellated := true
          inputVertexCount := 11 } := by
  have isOpen : crumbling.isFinished = false := rfl
  have first : FirstNonFinite (crumbling.rings.map (·.vertices)) 2 :=
    firstNonFinite?_eq_some_iff.mp (by decide +kernel)
  have removed : crumbling.removedCount true = 3 := by decide +kernel
  have handedOver : (crumbling.gathered true).length = 11 := by decide +kernel
  rcases finish_failure isOpen true worn none with ⟨_, names, _, _, abandons⟩
  have failed := (names 2).mpr first
  have abandoned := abandons _ failed
  have diagnostics := abandoned.diagnostics
  rw [removed, handedOver] at diagnostics
  refine ⟨isOpen, failed, ?_, diagnostics⟩
  rw [abandoned.emptied, List.length_map]
  rfl

end PlanarMesh.Polygon

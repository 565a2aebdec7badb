import PlanarMesh.Proofs.Diagnostics.Total
import PlanarMesh.Proofs.Polygon.Outcome
import PlanarMesh.Proofs.Tessellation.Tally

/-! # Diagnostics and buffers

The diagnostics of a polygon count its rings before their vertices are moved, the
tessellator counts what it was handed, and the buffers have lengths of their own. After
a first finish that succeeds all of them agree.
-/

namespace PlanarMesh.Polygon

/-! ## Filled buffers -/

structure Matches (polygon : Polygon) (optimize : Bool) (indices : List UInt32)
    (statistics : TessellationStatistics) : Prop where
  inputVertexCount : statistics.inputVertexCount = (polygon.gathered optimize).length
  contourCount : statistics.contourCount = polygon.rings.length
  outputTriangleCount : statistics.outputTriangleCount = indices.length / 3
  skipped : statistics.skippedContourCount ≤ polygon.rings.length

theorem length_contours_loaded (polygon : Polygon) (optimize : Bool)
    (tolerance : Tolerance) :
    (polygon.loaded optimize tolerance).contours.length = polygon.rings.length := by
  rw [loaded, List.length_map, rings_cleaned, List.length_map]

theorem matches_compute (polygon : Polygon) (optimize : Bool) (tolerance : Tolerance) :
    let computed :=
      ((polygon.loaded optimize tolerance).computeBy EarClip.triangulate).value.2
    polygon.Matches optimize computed.indices computed.statistics := by
  have tallied := (polygon.loaded optimize tolerance).tallied_computeBy EarClip.triangulate
  have contours := (polygon.loaded optimize tolerance).computeBy_contours EarClip.triangulate
  have count := polygon.length_contours_loaded optimize tolerance
  dsimp only
  exact
    { inputVertexCount := by
        rw [tallied.inputVertexCount, EarClipTessellator.vertices, contours,
          ← polygon.vertices_loaded optimize tolerance, EarClipTessellator.vertices]
      contourCount := by rw [tallied.contourCount, contours, count]
      outputTriangleCount := by
        rw [tallied.triangles, Nat.mul_div_cancel_left _ (Nat.zero_lt_succ 2)]
      skipped := by
        rw [← count, ← contours]
        exact tallied.skipped }

theorem fanIndices_of_few {vertexCount : Nat} (few : vertexCount < 3) :
    fanIndices vertexCount = [] := by
  apply List.eq_nil_of_length_eq_zero
  rw [length_fanIndices]
  omega

/-- What a first finish that succeeds leaves: the statistics are there if a tessellator
was asked for, they match, and few vertices make no triangle. -/
theorem exists_of_isOk {polygon : Polygon} (isOpen : polygon.isFinished = false)
    (options : BuildOptions) (tessellator : EarClipTessellator)
    (logger : Option Listener)
    (succeeded :
      (polygon.finish options tessellator logger).value.outcome.isOk = true) :
    ∃ indices statistics,
      (polygon.finish options tessellator logger).value.polygon =
        (polygon.cleaned options.optimize).sealed
          ⟨(polygon.cleaned options.optimize).ringNormal,
            polygon.gathered options.optimize, indices,
            polygon.concluded options indices statistics⟩ ∧
      statistics.isSome = options.tessellate ∧
      (∀ counted, statistics = some counted →
        polygon.Matches options.optimize indices counted) ∧
      ((polygon.gathered options.optimize).length < 3 → indices = []) := by
  rw [finish_value_of_open isOpen] at succeeded ⊢
  cases tessellate : options.tessellate with
  | false =>
      rw [polygon.filling_of_fan tessellate, Logged.value_pure, closing_value_gathered,
        tessellate]
      exact ⟨_, _, rfl, rfl, nofun, fanIndices_of_few⟩
  | true =>
      have agree := polygon.matches_compute options.optimize tessellator.tolerance
      have few := (polygon.loaded options.optimize
        tessellator.tolerance).indices_computeBy_of_few EarClip.triangulate
      rw [vertices_loaded] at few
      have filled := congrArg Logged.value
        (polygon.filling_of_tessellate tessellate tessellator)
      rw [Logged.value_bind, Logged.value_pure] at filled
      rcases (polygon.loaded options.optimize tessellator.tolerance).computeBy_cases
          EarClip.triangulate with
        ⟨cause, statistics, equal⟩ | ⟨_, indices, statistics, equal, _⟩
      · rw [filled, equal] at succeeded
        cases succeeded
      · rw [equal] at agree few filled
        have buffers : (polygon.filling options tessellator).value =
            (.ok ⟨polygon.gathered options.optimize, indices⟩,
              { (polygon.loaded options.optimize tessellator.tolerance).begun with
                indices, statistics }) := by
          rw [filled, ← polygon.vertices_loaded options.optimize tessellator.tolerance]
          rfl
        rw [buffers, closing_value_gathered, if_pos tessellate]
        refine ⟨indices, some statistics, rfl, rfl, ?_, few⟩
        intro counted same
        cases same
        exact agree

/-! ## Agreement -/

/-- The diagnostics of a finished polygon agree with its buffers, with the rings that it
was finished from, and with the statistics of its tessellation. -/
structure CountsAgree (polygon : Polygon) (options : BuildOptions) (finished : Polygon) :
    Prop where
  ringCount : finished.diagnostics.ringCount = finished.rings.length
  total : finished.diagnostics.inputVertexCount +
    finished.diagnostics.removedDuplicateCount =
      (polygon.rings.flatMap (·.vertices)).length
  inputVertexCount : finished.diagnostics.inputVertexCount = finished.vertices.length
  vertexCount : finished.diagnostics.vertexCount = finished.vertices.length
  triangleCount : finished.diagnostics.triangleCount = finished.indices.length / 3
  degenerate : finished.diagnostics.degenerate = true ↔ finished.vertices.length < 3
  few : finished.diagnostics.degenerate = true →
    finished.indices = [] ∧ finished.diagnostics.warnings.length = 1
  enough : finished.diagnostics.degenerate = false → finished.diagnostics.warnings = []
  tessellation : finished.diagnostics.tessellation.isSome = options.tessellate
  statistics : ∀ counted, finished.diagnostics.tessellation = some counted →
    counted.inputVertexCount = finished.diagnostics.vertexCount ∧
    counted.contourCount = finished.diagnostics.ringCount ∧
    counted.outputTriangleCount = finished.diagnostics.triangleCount ∧
    counted.skippedContourCount ≤ finished.diagnostics.ringCount
  clean : finished.diagnostics.isClean = true ↔ finished.diagnostics.degenerate = false

theorem isClean_concluded_iff (polygon : Polygon) (options : BuildOptions)
    (indices : List UInt32) (statistics : Option TessellationStatistics) :
    (polygon.concluded options indices statistics).isClean = true ↔
      (polygon.concluded options indices statistics).degenerate = false := by
  rw [Diagnostics.isClean_iff]
  constructor
  · intro clean
    exact clean.1
  · intro enough
    have notFew : ¬(polygon.gathered options.optimize).length < 3 :=
      of_decide_eq_false enough
    exact ⟨enough, polygon.concluded_no_drift options indices statistics,
      if_neg notFew⟩

theorem counts_finish {polygon : Polygon} (isOpen : polygon.isFinished = false)
    (options : BuildOptions) (tessellator : EarClipTessellator)
    (logger : Option Listener)
    (succeeded :
      (polygon.finish options tessellator logger).value.outcome.isOk = true) :
    CountsAgree polygon options
      (polygon.finish options tessellator logger).value.polygon := by
  rcases exists_of_isOk isOpen options tessellator logger succeeded with
    ⟨indices, statistics, equal, present, agree, noTriangles⟩
  have gathered := polygon.inputVertexCount_begun options
  have total := polygon.length_gathered options.optimize
  rw [totalSize_eq_length] at total
  rw [equal]
  exact
    { ringCount := by
        rw [rings_sealed, List.length_map, rings_cleaned, List.length_map]
        rfl
      total := by
        rw [← total, ← gathered]
        rfl
      inputVertexCount := gathered
      vertexCount := rfl
      triangleCount := rfl
      degenerate := decide_eq_true_iff
      few := by
        intro degenerate
        have isFew : (polygon.gathered options.optimize).length < 3 :=
          of_decide_eq_true degenerate
        refine ⟨noTriangles isFew, ?_⟩
        rw [diagnostics_sealed, concluded, if_pos isFew, List.length_singleton]
      enough := fun enough => if_neg (of_decide_eq_false enough)
      tessellation := present
      statistics := by
        intro counted same
        have matching := agree counted same
        exact ⟨matching.inputVertexCount, matching.contourCount,
          matching.outputTriangleCount, matching.skipped⟩
      clean := polygon.isClean_concluded_iff options indices statistics }

theorem counts_finish_courtyard :
    let finished := (courtyard.finish ⟨true, true⟩ worn none).value.polygon
    CountsAgree courtyard ⟨true, true⟩ finished ∧ finished.indices ≠ [] :=
  ⟨counts_finish rfl ⟨true, true⟩ worn none courtyard_isOk, by decide +kernel⟩

end PlanarMesh.Polygon

import PlanarMesh.Proofs.Diagnostics.Total
import PlanarMesh.Proofs.Polygon.Batch

/-! # Summaries of finished polygons

The diagnostics of polygons that were finished for the first time account for every
vertex: a fan and a successful tessellation keep them all, a failed one loses at least
one. So a total over any number of polygons hides no problem of a single one.
-/

namespace PlanarMesh

namespace Polygon

/-! ## Failures -/

theorem gathered_ne_nil_of_failure {polygon : Polygon}
    (isOpen : polygon.isFinished = false) {options : BuildOptions}
    {tessellator : EarClipTessellator} {logger : Option Listener}
    (failed : (polygon.finish options tessellator logger).value.outcome.isOk = false) :
    polygon.gathered options.optimize ≠ [] := by
  intro empty
  rcases filling_of_no_vertices empty tessellator with ⟨buffers, computed, equal⟩
  rw [finish_value_of_open isOpen, equal] at failed
  cases failed

theorem accounted_finish {polygon : Polygon} (isOpen : polygon.isFinished = false)
    (options : BuildOptions) (tessellator : EarClipTessellator)
    (logger : Option Listener) :
    (polygon.finish options tessellator logger).value.polygon.diagnostics.Accounted := by
  rcases finish_cases isOpen options tessellator logger with
    ⟨_, _, tessellate, equal⟩ | ⟨indices, statistics, _, equal, _, _⟩
  · rw [equal]
    constructor
    · exact Nat.zero_le _
    · intro fan
      rw [diagnostics_sealed, begun, tessellate] at fan
      cases fan
  · have same : (polygon.concluded options indices statistics).vertexCount =
        (polygon.concluded options indices statistics).inputVertexCount :=
      (polygon.inputVertexCount_begun options).symm
    rw [equal]
    exact ⟨Nat.le_of_eq same, fun _ => same⟩

/-- The diagnostics of a failure carry neither the degenerate flag nor a warning. The
lost vertices are what makes them unclean. -/
theorem isClean_of_failure {polygon : Polygon} (isOpen : polygon.isFinished = false)
    {options : BuildOptions} {tessellator : EarClipTessellator} {logger : Option Listener}
    (failed : (polygon.finish options tessellator logger).value.outcome.isOk = false) :
    (polygon.finish options tessellator logger).value.polygon.diagnostics.isClean =
      false := by
  have lost : 0 < (polygon.begun options).inputVertexCount := by
    rw [inputVertexCount_begun]
    exact List.length_pos_iff.mpr (gathered_ne_nil_of_failure isOpen failed)
  have accounted := accounted_finish isOpen options tessellator logger
  rcases finish_cases isOpen options tessellator logger with
    ⟨_, _, _, equal⟩ | ⟨_, _, _, equal, _, _⟩
  · rw [equal, diagnostics_sealed] at accounted ⊢
    apply Bool.eq_false_iff.mpr
    intro clean
    have noDrift := (Diagnostics.isClean_iff.mp clean).2.1
    have kept : (polygon.begun options).vertexCount =
        (polygon.begun options).inputVertexCount :=
      accounted.hasVertexCountDrift_eq_false_iff.mp noDrift
    exact Nat.ne_of_lt lost kept
  · rw [equal] at failed
    cases failed

/-! ## Documents -/

/-- A polygon that is finished for the first time. -/
structure FirstFinish where
  polygon : Polygon
  isOpen : polygon.isFinished = false
  options : BuildOptions
  tessellator : EarClipTessellator
  logger : Option Listener

namespace FirstFinish

def result (first : FirstFinish) : Finished EarClipTessellator :=
  (first.polygon.finish first.options first.tessellator first.logger).value

def diagnostics (first : FirstFinish) : Diagnostics :=
  first.result.polygon.diagnostics

end FirstFinish

/-- The total over a document counts every polygon, keeps all warnings in order, and is
clean exactly when every polygon is. One failure makes it unclean, and the grouping of
the polygons does not matter. -/
theorem total_of_first_finishes (document : List FirstFinish) :
    let items := document.map FirstFinish.diagnostics
    let total := Diagnostics.total items
    total =
        { ringCount := (items.map (·.ringCount)).sum
          removedDuplicateCount := (items.map (·.removedDuplicateCount)).sum
          tessellated := items.any (·.tessellated)
          inputVertexCount := (items.map (·.inputVertexCount)).sum
          vertexCount := (items.map (·.vertexCount)).sum
          triangleCount := (items.map (·.triangleCount)).sum
          degenerate := items.any (·.degenerate)
          tessellation := none
          warnings := items.flatMap (·.warnings) } ∧
      (total.isClean = true ↔ ∀ first ∈ document, first.diagnostics.isClean = true) ∧
      (∀ first ∈ document, first.result.outcome.isOk = false → total.isClean = false) ∧
      ∀ grouping : Diagnostics.Grouping, grouping.members = items →
        Diagnostics.empty.merge grouping.merged = total := by
  have accounted : ∀ item ∈ document.map FirstFinish.diagnostics, item.Accounted := by
    intro item member
    rcases List.mem_map.mp member with ⟨first, _, rfl⟩
    exact accounted_finish first.isOpen first.options first.tessellator first.logger
  have clean : (Diagnostics.total (document.map FirstFinish.diagnostics)).isClean = true ↔
      ∀ first ∈ document, first.diagnostics.isClean = true := by
    rw [Diagnostics.isClean_total_iff accounted, List.forall_mem_map]
  refine ⟨Diagnostics.total_eq _, clean, ?_, ?_⟩
  · intro first member failed
    apply Bool.eq_false_iff.mpr
    intro totalClean
    have unclean : first.diagnostics.isClean = false := isClean_of_failure first.isOpen failed
    rw [clean.mp totalClean first member] at unclean
    cases unclean
  · intro grouping same
    rw [Diagnostics.Grouping.merge_merged, same, Diagnostics.total]

theorem total_of_first_finishes_spike :
    let fan : FirstFinish := ⟨courtyard, rfl, ⟨false, true⟩, worn, none⟩
    let failing : FirstFinish := ⟨spike, rfl, ⟨true, true⟩, worn, none⟩
    let total := Diagnostics.total [fan.diagnostics, failing.diagnostics]
    total.isClean = false ∧ failing.diagnostics.warnings = [] ∧
      Diagnostics.empty.merge (failing.diagnostics.merge fan.diagnostics) =
        Diagnostics.total [failing.diagnostics, fan.diagnostics] := by
  let fan : FirstFinish := ⟨courtyard, rfl, ⟨false, true⟩, worn, none⟩
  let failing : FirstFinish := ⟨spike, rfl, ⟨true, true⟩, worn, none⟩
  have fails : failing.result.outcome.isOk = false := by decide +kernel
  have quiet : failing.diagnostics.warnings = [] := by decide +kernel
  rcases total_of_first_finishes [fan, failing] with ⟨_, _, unclean, _⟩
  rcases total_of_first_finishes [failing, fan] with ⟨_, _, _, grouped⟩
  exact ⟨unclean failing (List.mem_cons_of_mem _ List.mem_cons_self) fails, quiet,
    grouped (.join (.single failing.diagnostics) (.single fan.diagnostics)) rfl⟩

end Polygon

end PlanarMesh

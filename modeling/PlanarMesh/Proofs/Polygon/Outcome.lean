import PlanarMesh.Proofs.Polygon.Filling

/-! # What a first finish leaves

Finishing an open polygon with the built-in tessellator or with a fan either fails in
the tessellator and seals the cleaned polygon with empty buffers, or succeeds and
seals it with its gathered vertices. Both ways the rings are empty and the polygon
is finished.
-/

namespace PlanarMesh.Polygon

/-! ## Open polygons -/

theorem shown_of_open {polygon : Polygon} (isOpen : polygon.isFinished = false) :
    polygon.shown = .blank := by
  have noSurface : polygon.surface = none := by simpa [isFinished] using isOpen
  rw [shown, noSurface]
  rfl

theorem vertices_of_open {polygon : Polygon} (isOpen : polygon.isFinished = false) :
    polygon.vertices = [] := by
  rw [vertices, shown_of_open isOpen]
  rfl

theorem indices_of_open {polygon : Polygon} (isOpen : polygon.isFinished = false) :
    polygon.indices = [] := by
  rw [indices, shown_of_open isOpen]
  rfl

/-! ## Sealed polygons -/

section Sealed

variable (polygon : Polygon) (surface : Surface)

@[simp] theorem isFinished_sealed : (polygon.sealed surface).isFinished = true := rfl

@[simp] theorem vertices_sealed : (polygon.sealed surface).vertices = surface.vertices := rfl

@[simp] theorem indices_sealed : (polygon.sealed surface).indices = surface.indices := rfl

@[simp] theorem normal_sealed : (polygon.sealed surface).normal = surface.normal := rfl

@[simp] theorem diagnostics_sealed :
    (polygon.sealed surface).diagnostics = surface.diagnostics := rfl

@[simp] theorem appearance_sealed :
    (polygon.sealed surface).appearance = polygon.appearance := rfl

@[simp] theorem rings_sealed :
    (polygon.sealed surface).rings = polygon.rings.map Ring.emptied := by
  cases equal : polygon.exterior with
  | none => simp [rings, sealed, equal]
  | some ring => simp [rings, sealed, equal]

end Sealed

/-! ## Closing -/

def concluded (polygon : Polygon) (options : BuildOptions) (indices : List UInt32)
    (statistics : Option TessellationStatistics) : Diagnostics :=
  { polygon.begun options with
    vertexCount := (polygon.gathered options.optimize).length
    triangleCount := indices.length / 3
    degenerate := decide ((polygon.gathered options.optimize).length < 3)
    tessellation := statistics
    warnings :=
      if (polygon.gathered options.optimize).length < 3 then
        [degenerateText polygon.id]
      else
        [] }

theorem inputVertexCount_begun (polygon : Polygon) (options : BuildOptions) :
    (polygon.begun options).inputVertexCount =
      (polygon.gathered options.optimize).length := by
  rw [← flatMap_rings_cleaned, ← totalSize_eq_length]
  rfl

theorem concluded_no_drift (polygon : Polygon) (options : BuildOptions)
    (indices : List UInt32) (statistics : Option TessellationStatistics) :
    (polygon.concluded options indices statistics).hasVertexCountDrift = false := by
  have equal := polygon.inputVertexCount_begun options
  simp [Diagnostics.hasVertexCountDrift, concluded, equal]

theorem counted_no_drift {τ : Type} [Tessellator τ] (polygon : Polygon)
    (options : BuildOptions) (indices : List UInt32) (computed : τ) :
    (polygon.counted options ⟨polygon.gathered options.optimize, indices⟩
      computed).hasVertexCountDrift = false := by
  have equal := polygon.inputVertexCount_begun options
  simp [Diagnostics.hasVertexCountDrift, counted, equal]

/-- There is nothing to report about the gathered vertices but that they are few. -/
theorem inspect_gathered {τ : Type} [Tessellator τ] (polygon : Polygon)
    (options : BuildOptions) (logger : Option Listener) (indices : List UInt32)
    (computed : τ) :
    inspect polygon.id logger ⟨polygon.gathered options.optimize, indices⟩
        (polygon.counted options ⟨polygon.gathered options.optimize, indices⟩ computed) =
      ((if (polygon.gathered options.optimize).length < 3 then
          Logged.tell logger .warning (degenerateText polygon.id)
        else
          pure ()) >>= fun _ =>
        pure (polygon.concluded options indices
          (if options.tessellate then Tessellator.statistics? computed else none))) := by
  rw [inspect_of_no_drift (polygon.counted_no_drift options indices computed)]
  by_cases few : (polygon.gathered options.optimize).length < 3
  · simp only [if_pos few, reportProblem, concluded, decide_eq_true few]
    rfl
  · simp only [if_neg few, concluded, decide_eq_false few]
    rfl

theorem closing_value_gathered {τ : Type} [Tessellator τ] (polygon : Polygon)
    (options : BuildOptions) (logger : Option Listener) (indices : List UInt32)
    (computed : τ) :
    (polygon.closing options logger
        (.ok ⟨polygon.gathered options.optimize, indices⟩, computed)).value =
      ⟨.ok (),
        (polygon.cleaned options.optimize).sealed
          ⟨(polygon.cleaned options.optimize).ringNormal,
            polygon.gathered options.optimize, indices,
            polygon.concluded options indices
              (if options.tessellate then Tessellator.statistics? computed else none)⟩,
        computed⟩ := by
  rw [closing, inspect_gathered]
  rfl

/-! ## The two ends -/

theorem finish_value_of_fan {τ : Type} [Tessellator τ] {polygon : Polygon}
    (isOpen : polygon.isFinished = false) (optimize : Bool) (tessellator : τ)
    (logger : Option Listener) :
    let indices := fanIndices (polygon.gathered optimize).length
    (polygon.finish ⟨false, optimize⟩ tessellator logger).value =
      ⟨.ok (),
        (polygon.cleaned optimize).sealed
          ⟨(polygon.cleaned optimize).ringNormal, polygon.gathered optimize, indices,
            polygon.concluded ⟨false, optimize⟩ indices none⟩,
        tessellator⟩ := by
  rw [finish_value_of_open isOpen, polygon.filling_of_fan rfl]
  exact polygon.closing_value_gathered ⟨false, optimize⟩ logger _ tessellator

theorem finish_cases {polygon : Polygon} (isOpen : polygon.isFinished = false)
    (options : BuildOptions) (tessellator : EarClipTessellator)
    (logger : Option Listener) :
    (∃ cause computed, options.tessellate = true ∧
      (polygon.finish options tessellator logger).value =
        ⟨.error (.tessellation cause),
          (polygon.cleaned options.optimize).sealed
            ⟨(polygon.cleaned options.optimize).ringNormal, [], [],
              polygon.begun options⟩,
          computed⟩) ∨
    (∃ indices statistics computed,
      (polygon.finish options tessellator logger).value =
        ⟨.ok (),
          (polygon.cleaned options.optimize).sealed
            ⟨(polygon.cleaned options.optimize).ringNormal,
              polygon.gathered options.optimize, indices,
              polygon.concluded options indices statistics⟩,
          computed⟩ ∧
      (options.tessellate = true →
        ∀ vertex ∈ polygon.gathered options.optimize, vertex.isFinite = true) ∧
      ((polygon.gathered options.optimize).length ≤ UInt32.size →
        TriangleList indices (polygon.gathered options.optimize).length)) := by
  rw [finish_value_of_open isOpen]
  rcases polygon.filling_cases options tessellator with
    ⟨cause, computed, tessellate, equal⟩ | ⟨indices, computed, equal, finite, triangles⟩
  · rw [equal]
    exact .inl ⟨cause, computed, tessellate, rfl⟩
  · rw [equal, closing_value_gathered]
    exact .inr ⟨indices, _, computed, rfl, finite, triangles⟩

theorem polygon_of_isOk {polygon : Polygon} (isOpen : polygon.isFinished = false)
    (options : BuildOptions) (tessellator : EarClipTessellator)
    (logger : Option Listener)
    (succeeded :
      (polygon.finish options tessellator logger).value.outcome.isOk = true) :
    ∃ indices statistics,
      (polygon.finish options tessellator logger).value.polygon =
        (polygon.cleaned options.optimize).sealed
          ⟨(polygon.cleaned options.optimize).ringNormal,
            polygon.gathered options.optimize, indices,
            polygon.concluded options indices statistics⟩ := by
  rcases finish_cases isOpen options tessellator logger with
    ⟨_, _, _, equal⟩ | ⟨indices, statistics, _, equal, _, _⟩
  · rw [equal] at succeeded
    cases succeeded
  · rw [equal]
    exact ⟨indices, statistics, rfl⟩

theorem courtyard_isOk :
    (courtyard.finish ⟨true, true⟩ worn none).value.outcome.isOk = true := by
  decide +kernel

theorem isOk_of_fan {polygon : Polygon} (isOpen : polygon.isFinished = false)
    {options : BuildOptions} (fan : options.tessellate = false)
    (tessellator : EarClipTessellator) (logger : Option Listener) :
    (polygon.finish options tessellator logger).value.outcome.isOk = true := by
  rcases options with ⟨_, optimize⟩
  cases fan
  rw [finish_value_of_fan isOpen]
  rfl

/-! ## Any tessellator -/

section AnyTessellator

variable {τ : Type} [Tessellator τ]

theorem exists_sealed_of_finish {polygon : Polygon} (isOpen : polygon.isFinished = false)
    (options : BuildOptions) (tessellator : τ) (logger : Option Listener) :
    ∃ surface, (polygon.finish options tessellator logger).value.polygon =
      (polygon.cleaned options.optimize).sealed surface := by
  rw [finish_value_of_open isOpen]
  rcases (polygon.filling options tessellator).value with ⟨cause | buffers, computed⟩
  · exact ⟨_, rfl⟩
  · exact ⟨_, rfl⟩

theorem id_finish (polygon : Polygon) (options : BuildOptions)
    (tessellator : τ) (logger : Option Listener) :
    (polygon.finish options tessellator logger).value.polygon.id = polygon.id := by
  cases state : polygon.isFinished with
  | true => rw [finish_of_finished state, Logged.value_pure]
  | false =>
      rcases exists_sealed_of_finish state options tessellator logger with ⟨_, equal⟩
      rw [equal]
      rfl

theorem logger_finish (polygon : Polygon) (options : BuildOptions)
    (tessellator : τ) (logger : Option Listener) :
    (polygon.finish options tessellator logger).value.polygon.logger = polygon.logger := by
  cases state : polygon.isFinished with
  | true => rw [finish_of_finished state, Logged.value_pure]
  | false =>
      rcases exists_sealed_of_finish state options tessellator logger with ⟨_, equal⟩
      rw [equal]
      rfl

theorem isFinished_finish (polygon : Polygon) (options : BuildOptions)
    (tessellator : τ) (logger : Option Listener) :
    (polygon.finish options tessellator logger).value.polygon.isFinished = true := by
  cases state : polygon.isFinished with
  | true =>
      rw [finish_of_finished state]
      exact state
  | false =>
      rcases exists_sealed_of_finish state options tessellator logger with ⟨_, equal⟩
      rw [equal, isFinished_sealed]

end AnyTessellator

end PlanarMesh.Polygon

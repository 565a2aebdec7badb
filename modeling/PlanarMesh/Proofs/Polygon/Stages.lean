import PlanarMesh.Proofs.Polygon.Cleaning
import PlanarMesh.Proofs.Tessellation.Compute

/-! # The stages of finishing

Finishing an open polygon cleans it, fills the buffers and closes it. With the
built-in tessellator the second stage depends on the rings, the normal and the
tolerance; what the tessellator did before does not matter.
-/

namespace PlanarMesh.Polygon

variable {τ : Type} [Tessellator τ]

/-! ## Stages -/

def cleaning (polygon : Polygon) (optimize : Bool) (logger : Option Listener) :
    Logged (Nat × Polygon) :=
  if optimize then polygon.removeDuplicates logger else pure (0, polygon)

def filling (polygon : Polygon) (options : BuildOptions) (tessellator : τ) :
    Logged (Except TessellationError Buffers × τ) :=
  let cleaned := polygon.cleaned options.optimize
  if options.tessellate then
    tessellatedBuffers tessellator cleaned.ringNormal cleaned.rings
  else
    pure (.ok (fanBuffers cleaned.rings), tessellator)

def begun (polygon : Polygon) (options : BuildOptions) : Diagnostics :=
  { Diagnostics.empty with
    ringCount := polygon.rings.length
    removedDuplicateCount := polygon.removedCount options.optimize
    tessellated := options.tessellate
    inputVertexCount := Ring.totalSize (polygon.cleaned options.optimize).rings }

def counted (polygon : Polygon) (options : BuildOptions) (buffers : Buffers)
    (computed : τ) : Diagnostics :=
  { polygon.begun options with
    vertexCount := buffers.vertices.length
    triangleCount := buffers.indices.length / 3
    tessellation :=
      if options.tessellate then Tessellator.statistics? computed else none }

def closing (polygon : Polygon) (options : BuildOptions) (logger : Option Listener)
    (filled : Except TessellationError Buffers × τ) : Logged (Finished τ) :=
  let cleaned := polygon.cleaned options.optimize
  match filled with
  | (.error cause, computed) =>
      pure ⟨.error (.tessellation cause),
        cleaned.sealed ⟨cleaned.ringNormal, [], [], polygon.begun options⟩, computed⟩
  | (.ok buffers, computed) => do
      let diagnostics ← inspect polygon.id logger buffers
        (polygon.counted options buffers computed)
      Logged.note .debug (finishedText polygon.id diagnostics)
      pure ⟨.ok (),
        cleaned.sealed
          ⟨cleaned.ringNormal, buffers.vertices, buffers.indices, diagnostics⟩,
        computed⟩

theorem cleaning_value (polygon : Polygon) (optimize : Bool) (logger : Option Listener) :
    (polygon.cleaning optimize logger).value =
      (polygon.removedCount optimize, polygon.cleaned optimize) := by
  cases optimize with
  | false =>
      rw [removedCount_false, cleaned_false]
      rfl
  | true => exact removeDuplicates_value polygon logger

theorem finish_of_finished {polygon : Polygon} (finished : polygon.isFinished = true)
    (options : BuildOptions) (tessellator : τ) (logger : Option Listener) :
    polygon.finish options tessellator logger = pure ⟨.ok (), polygon, tessellator⟩ := by
  rw [finish, if_pos finished]

theorem finish_of_open {polygon : Polygon} (isOpen : polygon.isFinished = false)
    (options : BuildOptions) (tessellator : τ) (logger : Option Listener) :
    polygon.finish options tessellator logger =
      polygon.cleaning options.optimize logger >>= fun _ =>
        polygon.filling options tessellator >>= polygon.closing options logger := by
  have notFinished : ¬polygon.isFinished = true := by simp [isOpen]
  rw [finish, if_neg notFinished]
  obtain ⟨tessellate, optimize⟩ := options
  have prepared := polygon.cleaning_value optimize logger
  -- With the options known, both sides run through the same binds.
  cases optimize
  all_goals
    refine (Logged.bind_of_value prepared _).trans (bind_congr fun _ => ?_)
    cases tessellate with
    | false => rfl
    | true =>
        refine bind_congr fun filled => ?_
        rcases filled with ⟨_ | _, _⟩ <;> rfl

theorem finish_value_of_open {polygon : Polygon} (isOpen : polygon.isFinished = false)
    (options : BuildOptions) (tessellator : τ) (logger : Option Listener) :
    (polygon.finish options tessellator logger).value =
      (polygon.closing options logger (polygon.filling options tessellator).value).value := by
  rw [finish_of_open isOpen]
  rfl

/-! ## Inspecting -/

theorem inspect_of_no_drift {diagnostics : Diagnostics}
    (noDrift : diagnostics.hasVertexCountDrift = false) (polygonId : String)
    (logger : Option Listener) (buffers : Buffers) :
    inspect polygonId logger buffers diagnostics =
      if buffers.vertices.length < 3 then
        reportProblem logger .warning (degenerateText polygonId)
          { diagnostics with degenerate := true }
      else
        pure diagnostics := by
  rw [inspect, if_neg (by simp [noDrift])]
  rfl

end PlanarMesh.Polygon

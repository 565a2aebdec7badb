import PlanarMesh.Polygon.Batch
import PlanarMesh.Proofs.Polygon.Coordinates
import PlanarMesh.Proofs.Polygon.LifeCycle

/-! # Results without listeners

A polygon is told its own logger when it is made and another one with every finish. No
result depends on either. Each operation on a polygon whose logger was taken away, with
no other logger either, answers the same and leaves the same polygon without its logger.
-/

namespace PlanarMesh

def Polygon.silenced (polygon : Polygon) : Polygon :=
  { polygon with logger := none }

def Finished.silenced {τ : Type} (finished : Finished τ) : Finished τ :=
  { finished with polygon := finished.polygon.silenced }

def FinishedBatch.silenced (batch : FinishedBatch) : FinishedBatch :=
  { batch with polygons := batch.polygons.map Polygon.silenced }

def BuildContext.silenced (context : BuildContext) : BuildContext :=
  { context with logger := none }

theorem BuildContext.eq_of_silenced {left right : BuildContext}
    (same : left.silenced = right.silenced) (logger : left.logger = right.logger) :
    left = right := by
  cases left
  cases right
  simp only [silenced, mk.injEq, and_true] at same logger ⊢
  exact ⟨same.1, same.2, logger⟩

namespace Polygon

variable (polygon : Polygon)

theorem eq_of_silenced {left right : Polygon} (same : left.silenced = right.silenced)
    (logger : left.logger = right.logger) : left = right := by
  cases left
  cases right
  simp only [silenced, mk.injEq, true_and] at same logger ⊢
  exact ⟨same.1, logger, same.2⟩

/-! ## Single polygons -/

theorem addRing_silenced (ring : Ring) :
    (polygon.silenced.addRing ring).value =
      ((polygon.addRing ring).value.1, (polygon.addRing ring).value.2.silenced) := by
  cases state : polygon.isFinished with
  | true =>
      have silent : polygon.silenced.isFinished = true := state
      rw [addRing_of_finished state, addRing_of_finished silent]
      rfl
  | false =>
      have silent : polygon.silenced.isFinished = false := state
      cases kind : ring.isExterior with
      | false =>
          rw [addRing_of_interior state kind, addRing_of_interior silent kind]
          rfl
      | true =>
          cases present : polygon.exterior with
          | none =>
              rw [addRing_of_first state present kind, addRing_of_first silent present kind]
              rfl
          | some kept =>
              rw [addRing_of_second state present kind,
                addRing_of_second silent present kind]

section Finishing

variable {τ : Type} [Tessellator τ] (options : BuildOptions)

theorem filling_silenced (tessellator : τ) :
    polygon.silenced.filling options tessellator = polygon.filling options tessellator :=
  rfl

theorem inspect_value (polygonId : String) (logger : Option Listener)
    (buffers : Buffers) (diagnostics : Diagnostics) :
    (inspect polygonId none buffers diagnostics).value =
      (inspect polygonId logger buffers diagnostics).value := by
  rw [inspect, inspect]
  split
  · split
    · rfl
    · rfl
  · split
    · rfl
    · rfl

theorem closing_silenced (logger : Option Listener)
    (filled : Except TessellationError Buffers × τ) :
    (polygon.silenced.closing options none filled).value =
      (polygon.closing options logger filled).value.silenced := by
  rcases filled with ⟨cause | buffers, computed⟩
  · rfl
  · have inspected := inspect_value polygon.id logger buffers
      (polygon.counted options buffers computed)
    rw [closing, closing]
    simp only [Logged.value_bind, Logged.value_pure]
    rw [← inspected]
    rfl

theorem finish_silenced (tessellator : τ) (logger : Option Listener) :
    (polygon.silenced.finish options tessellator none).value =
      (polygon.finish options tessellator logger).value.silenced := by
  cases state : polygon.isFinished with
  | true =>
      have silent : polygon.silenced.isFinished = true := state
      rw [finish_of_finished state, finish_of_finished silent]
      rfl
  | false =>
      have silent : polygon.silenced.isFinished = false := state
      rw [finish_value_of_open state, finish_value_of_open silent, filling_silenced,
        closing_silenced]

end Finishing

theorem texCoords_silenced (theme : String) (front : Bool) :
    (polygon.silenced.texCoords theme front).value =
      (polygon.texCoords theme front).value := by
  have same : polygon.silenced.appearance = polygon.appearance := rfl
  cases bound : polygon.appearance.textureTarget? theme front with
  | none => rw [texCoords, texCoords, same, bound]
  | some target =>
      have silent := bound
      rw [← same] at silent
      rw [value_texCoords bound, value_texCoords silent]
      rfl

/-! ## Batches -/

theorem finishFrom_silenced (options : BuildOptions) (logger : Option Listener)
    (position : Nat) (tessellator : EarClipTessellator) (polygons : List Polygon) :
    (finishFrom options none position tessellator (polygons.map silenced)).value =
      (finishFrom options logger position tessellator polygons).value.silenced := by
  induction polygons generalizing position tessellator with
  | nil => rfl
  | cons polygon rest induction =>
      simp only [List.map_cons, finishFrom, Logged.value_bind, Logged.value_pure,
        polygon.finish_silenced options tessellator logger]
      rw [show (polygon.finish options tessellator logger).value.silenced.tessellator =
        (polygon.finish options tessellator logger).value.tessellator from rfl, induction]
      rfl

theorem finishAll_silenced (polygons : List Polygon) (context : BuildContext) :
    (finishAll (polygons.map silenced) context.silenced).value =
      (finishAll polygons context).value.silenced :=
  finishFrom_silenced context.options context.logger 0 context.tessellator polygons

end Polygon

end PlanarMesh

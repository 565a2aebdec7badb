import PlanarMesh.Polygon.Finish

/-! # Finishing many polygons

All polygons of a batch share one tessellator. One that fails does not stop the
others.
-/

namespace PlanarMesh

structure FinishedBatch where
  failures : List (Nat × PolygonError)
  polygons : List Polygon
  tessellator : EarClipTessellator

namespace Polygon

def finishFrom (options : BuildOptions) (logger : Option Listener) :
    (position : Nat) → EarClipTessellator → List Polygon → Logged FinishedBatch
  | _, tessellator, [] => pure ⟨[], [], tessellator⟩
  | position, tessellator, polygon :: rest => do
      let first ← polygon.finish options tessellator logger
      let others ← finishFrom options logger (position + 1) first.tessellator rest
      let failures :=
        match first.outcome with
        | .ok () => others.failures
        | .error error => (position, error) :: others.failures
      pure ⟨failures, first.polygon :: others.polygons, others.tessellator⟩

def failureText (polygon : Polygon) (error : PolygonError) : String :=
  let polygonId := polygon.id
  let cause := error.message
  s!"Failed to finish Polygon with id '{polygonId}': {cause}"

def startText (count : Nat) : String :=
  s!"finishing {count} polygons"

/-- Finishes every polygon with the settings of a context, then tells the
context's logger about the failures. -/
def finishAll (polygons : List Polygon) (context : BuildContext) : Logged FinishedBatch := do
  Logged.note .debug (startText polygons.length)
  let batch ← finishFrom context.options context.logger 0 context.tessellator polygons
  batch.failures.forM fun (position, error) =>
    (batch.polygons[position]?).toList.forM fun polygon =>
      Logged.tell context.logger .error (.formatted fun _ => polygon.failureText error)
  pure batch

end Polygon

end PlanarMesh

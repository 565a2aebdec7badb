import PlanarMesh.Tessellation.Basic

/-! # Diagnostics of finished polygons

What is found while a polygon is finished is kept with it, so that callers can
inspect it or add it up over a whole document.
-/

namespace PlanarMesh

structure Diagnostics where
  ringCount : Nat
  removedDuplicateCount : Nat
  tessellated : Bool
  /-- Ring vertices handed over for cutting. -/
  inputVertexCount : Nat
  vertexCount : Nat
  triangleCount : Nat
  degenerate : Bool
  tessellation : Option TessellationStatistics
  warnings : List String
deriving DecidableEq, Repr

namespace Diagnostics

def empty : Diagnostics := ⟨0, 0, false, 0, 0, 0, false, none, []⟩

instance : Inhabited Diagnostics := ⟨empty⟩

/-- Whether a tessellator changed the number of vertices, so that texture
coordinates counted along the rings no longer fit. -/
def hasVertexCountDrift (diagnostics : Diagnostics) : Bool :=
  diagnostics.tessellated && diagnostics.inputVertexCount != diagnostics.vertexCount

def hasWarnings (diagnostics : Diagnostics) : Bool :=
  !diagnostics.warnings.isEmpty

def isClean (diagnostics : Diagnostics) : Bool :=
  !diagnostics.degenerate && !diagnostics.hasVertexCountDrift && !diagnostics.hasWarnings

def addWarning (diagnostics : Diagnostics) (warning : String) : Diagnostics :=
  { diagnostics with warnings := diagnostics.warnings ++ [warning] }

/-- Adds another polygon's diagnostics. Counts add up, a flag holds if it holds of
one, and warnings follow one another. The statistics of single tessellations are
not added. -/
def merge (total other : Diagnostics) : Diagnostics where
  ringCount := total.ringCount + other.ringCount
  removedDuplicateCount := total.removedDuplicateCount + other.removedDuplicateCount
  tessellated := total.tessellated || other.tessellated
  inputVertexCount := total.inputVertexCount + other.inputVertexCount
  vertexCount := total.vertexCount + other.vertexCount
  triangleCount := total.triangleCount + other.triangleCount
  degenerate := total.degenerate || other.degenerate
  tessellation := total.tessellation
  warnings := total.warnings ++ other.warnings

end Diagnostics

end PlanarMesh

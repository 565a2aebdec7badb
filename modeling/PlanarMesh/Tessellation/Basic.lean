import PlanarMesh.Geometry.Space
import PlanarMesh.Json.Document
import PlanarMesh.Log.Emission

/-! # Tessellators

A tessellator takes the contours of one polygon, the outline first, and a reference
normal. It answers with a vertex buffer and the corners of triangles in it. It may
add or drop vertices; so callers read the vertex buffer back.
-/

namespace PlanarMesh

inductive TessellationError where
  | nonFinite (contour : Nat)
  | failed (vertexCount : Nat)
deriving DecidableEq, Repr

namespace TessellationError

def message : TessellationError → String
  | .nonFinite contour => s!"contour {contour} contains non-finite coordinates"
  | .failed vertexCount =>
      s!"failed to triangulate polygon with {vertexCount} contour vertices"

end TessellationError

structure TessellationStatistics where
  inputVertexCount : Nat
  contourCount : Nat
  /-- Contours left out: fewer than three points, or a hole outside the outline. -/
  skippedContourCount : Nat
  outputTriangleCount : Nat
  culledTriangleCount : Nat
deriving DecidableEq, Repr

namespace TessellationStatistics

def zero : TessellationStatistics := ⟨0, 0, 0, 0, 0⟩

instance : Inhabited TessellationStatistics := ⟨zero⟩

def document (statistics : TessellationStatistics) : Json.Document :=
  .object
    [("input_vertex_count", .natural statistics.inputVertexCount),
      ("contour_count", .natural statistics.contourCount),
      ("skipped_contour_count", .natural statistics.skippedContourCount),
      ("output_triangle_count", .natural statistics.outputTriangleCount),
      ("culled_degenerate_triangles", .natural statistics.culledTriangleCount)]

end TessellationStatistics

class Tessellator (τ : Type) where
  init : τ → (expectedVertexCount : Nat) → (normal : Vec3) → τ
  /-- Appends a closed contour. The first one is the outline. -/
  addContour : τ → List Point3 → τ
  compute : τ → Logged (Except TessellationError Unit × τ)
  vertices : τ → List Point3
  indices : τ → List UInt32
  statistics? : τ → Option TessellationStatistics

end PlanarMesh

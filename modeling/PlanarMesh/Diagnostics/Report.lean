import PlanarMesh.Diagnostics.Basic

/-! # Written diagnostics

A `summary` fits on one line, a `report` has one line for each finding, and the
`document` is their JSON form.
-/

namespace PlanarMesh.Diagnostics

def sayIf (condition : Bool) (text : String) : List String :=
  if condition then [text] else []

def summary (diagnostics : Diagnostics) : String :=
  let vertices := diagnostics.vertexCount
  let triangles := diagnostics.triangleCount
  let removed := diagnostics.removedDuplicateCount
  let input := diagnostics.inputVertexCount
  " ".intercalate <|
    [s!"V:{vertices} T:{triangles}"] ++
    sayIf (decide (0 < removed)) s!"dedup:{removed}" ++
    sayIf diagnostics.hasVertexCountDrift s!"drift:{input}->{vertices}" ++
    sayIf diagnostics.degenerate "degenerate"

def mode (diagnostics : Diagnostics) : String :=
  if diagnostics.tessellated then "tesselated" else "fan"

def status (diagnostics : Diagnostics) : String :=
  if diagnostics.isClean then "CLEAN"
  else if diagnostics.degenerate then "DEGENERATE"
  else "ISSUES DETECTED"

def reportLines (diagnostics : Diagnostics) : List String :=
  let rings := diagnostics.ringCount
  let vertices := diagnostics.vertexCount
  let triangles := diagnostics.triangleCount
  let removed := diagnostics.removedDuplicateCount
  let input := diagnostics.inputVertexCount
  let mode := diagnostics.mode
  let status := diagnostics.status
  [ "Polygon Diagnostics:",
    s!"  Rings: {rings}",
    s!"  Vertices: {vertices}",
    s!"  Triangles: {triangles}",
    s!"  Mode: {mode}" ] ++
  sayIf (decide (0 < removed)) s!"  Duplicate vertices removed: {removed}" ++
  sayIf diagnostics.hasVertexCountDrift s!"  Vertex count drift: {input} -> {vertices}" ++
  sayIf diagnostics.hasWarnings "  Warnings:" ++
  diagnostics.warnings.map (fun warning => s!"    - {warning}") ++
  [s!"  Status: {status}"]

def report (diagnostics : Diagnostics) : String :=
  String.join (diagnostics.reportLines.map (· ++ "\n"))

def document (diagnostics : Diagnostics) : Json.Document :=
  .object
    [("ring_count", .natural diagnostics.ringCount),
      ("removed_duplicate_vertex_count", .natural diagnostics.removedDuplicateCount),
      ("tesselated", .flag diagnostics.tessellated),
      ("input_vertex_count", .natural diagnostics.inputVertexCount),
      ("vertex_count", .natural diagnostics.vertexCount),
      ("triangle_count", .natural diagnostics.triangleCount),
      ("degenerate", .flag diagnostics.degenerate),
      ("tesselation",
        (diagnostics.tessellation.map TessellationStatistics.document).getD .null),
      ("warnings", .array (diagnostics.warnings.map .text))]

end PlanarMesh.Diagnostics

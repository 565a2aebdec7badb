import PlanarMesh.Appearance.Target
import PlanarMesh.Geometry.Space
import PlanarMesh.Json.Document

/-! # Meshes

A mesh holds flat buffers for rendering: positions, the corners of triangles by
position, and optionally one texture coordinate and one normal for each position.
-/

namespace PlanarMesh

structure Mesh where
  positions : List Point3
  indices : List UInt32
  uvs : Option (List TexCoord)
  normals : Option (List Vec3)

inductive MeshFault where
  | notTriangles
  | nonFinitePosition
  | indexOutOfBounds
  | attributeLength
deriving DecidableEq, Repr

namespace MeshFault

def message : MeshFault → String
  | .notTriangles => "mesh indices are not a triangle list (len % 3 != 0)"
  | .nonFinitePosition => "mesh has invalid vertex coordinates (NaN/Inf)"
  | .indexOutOfBounds => "mesh has out-of-bounds vertex indices"
  | .attributeLength => "mesh attribute buffers do not match vertex count"

end MeshFault

namespace Mesh

def vertexCount (mesh : Mesh) : Nat :=
  mesh.positions.length

def triangleCount (mesh : Mesh) : Nat :=
  mesh.indices.length / 3

/-! ## Validity -/

def hasInvalidVertices (mesh : Mesh) : Bool :=
  mesh.positions.any fun position => !position.isFinite

def hasValidIndices (mesh : Mesh) : Bool :=
  mesh.indices.all fun index => decide (index.toNat < mesh.vertexCount)

def hasTriangleIndices (mesh : Mesh) : Bool :=
  mesh.indices.length % 3 == 0

def hasValidAttributeLengths (mesh : Mesh) : Bool :=
  (mesh.uvs.all fun uvs => uvs.length == mesh.vertexCount) &&
  (mesh.normals.all fun normals => normals.length == mesh.vertexCount)

def validate (mesh : Mesh) : Except MeshFault Unit :=
  if !mesh.hasTriangleIndices then .error .notTriangles
  else if mesh.hasInvalidVertices then .error .nonFinitePosition
  else if !mesh.hasValidIndices then .error .indexOutOfBounds
  else if !mesh.hasValidAttributeLengths then .error .attributeLength
  else .ok ()

/-! ## Flat views -/

def flatPositions (mesh : Mesh) : List Float :=
  mesh.positions.flatMap Point3.toList

def flatUvs (mesh : Mesh) : Option (List Float) :=
  mesh.uvs.map fun uvs => uvs.flatMap TexCoord.toList

def flatNormals (mesh : Mesh) : Option (List Float) :=
  mesh.normals.map fun normals => normals.flatMap Vec3.toList

/-! ## JSON -/

def numberArray (values : List Float) : Json.Document :=
  .array (values.map .number)

def document (mesh : Mesh) : Json.Document :=
  .object
    [("positions", .array (mesh.positions.map fun position => numberArray position.toList)),
      ("indices", .array (mesh.indices.map fun index => .natural index.toNat)),
      ("uvs",
        (mesh.uvs.map fun uvs => .array (uvs.map fun uv => numberArray uv.toList)).getD .null),
      ("normals",
        (mesh.normals.map fun normals =>
          .array (normals.map fun normal => numberArray normal.toList)).getD .null)]

end Mesh

end PlanarMesh

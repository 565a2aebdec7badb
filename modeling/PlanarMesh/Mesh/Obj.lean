import PlanarMesh.Mesh.Basic

/-! # Wavefront OBJ text of a mesh

One line for each position, texture coordinate and normal, then one for each
triangle. Vertex numbers begin at one. A corner names a texture coordinate and a
normal by the number of its vertex where the mesh has them.
-/

namespace PlanarMesh.Mesh

def objLayout : Decimal.Layout := ⟨none, []⟩

def objNumber (value : Float) : String :=
  if value.isFinite then
    String.ofList ((Decimal.shortest value).render objLayout)
  else if value.isNaN then
    "NaN"
  else if Decimal.isNegative value then
    "-inf"
  else
    "inf"

def objNumbers (keyword : String) (values : List Float) : String :=
  " ".intercalate (keyword :: values.map objNumber)

/-- The number of a vertex, counted from one within 32 bits. -/
def vertexNumber (index : UInt32) : UInt32 := index + 1

def objCorner (hasUvs hasNormals : Bool) (index : UInt32) : String :=
  let number := (vertexNumber index).toNat
  match hasUvs, hasNormals with
  | true, true => s!"{number}/{number}/{number}"
  | true, false => s!"{number}/{number}"
  | false, true => s!"{number}//{number}"
  | false, false => s!"{number}"

/-- Three indices at a time; one or two left over are no triangle. -/
def faces : List UInt32 → List (UInt32 × UInt32 × UInt32)
  | first :: second :: third :: rest => (first, second, third) :: faces rest
  | _ => []

def objFace (hasUvs hasNormals : Bool) (face : UInt32 × UInt32 × UInt32) : String :=
  let corner := objCorner hasUvs hasNormals
  " ".intercalate ["f", corner face.1, corner face.2.1, corner face.2.2]

def objLines (name : String) (mesh : Mesh) : List String :=
  ["# citygml-polygon polygon_cli", s!"o {name}"] ++
  mesh.positions.map (fun position => objNumbers "v" position.toList) ++
  (mesh.uvs.getD []).map (fun uv => objNumbers "vt" uv.toList) ++
  (mesh.normals.getD []).map (fun normal => objNumbers "vn" normal.toList) ++
  (faces mesh.indices).map (objFace mesh.uvs.isSome mesh.normals.isSome)

def objText (name : String) (mesh : Mesh) : String :=
  String.join ((mesh.objLines name).map (· ++ "\n"))

end PlanarMesh.Mesh

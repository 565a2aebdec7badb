import PlanarMesh.Proofs.CommandLine.Outputs
import PlanarMesh.Proofs.Decimal.ReadBack
import PlanarMesh.Proofs.Mesh.ObjReading
import PlanarMesh.Proofs.Mesh.WellFormed

/-! # Meshes in OBJ text

The OBJ text of a valid mesh reads back as the mesh: the buffers line by line, and the
corners of the faces as the indices counted from one, each with the numbers of a texture
coordinate and a normal exactly where the mesh has them.
-/

namespace PlanarMesh.Mesh

open Wavefront

/-! ## Words -/

theorem isWord_of_number {word : List Char}
    (characters : ∀ character ∈ word,
      Json.isDigit character = true ∨ character ∈ ['-', '+', '.', 'e', 'E']) :
    IsWord word := by
  constructor
  · intro member
    exact absurd (characters ' ' member) (by decide)
  · intro member
    exact absurd (characters '\n' member) (by decide)

theorem isWord_objNumber (value : Float) : IsWord (objNumber value).toList := by
  rw [objNumber]
  split
  · rw [String.toList_ofList]
    have normal := Decimal.isNormal_shortest value
    rcases normal.exists_numberText (show objLayout.wholeEnding = [] ∨ _ from .inl rfl)
      with ⟨number, written, _⟩
    rw [← written]
    exact isWord_of_number fun _ => number.mem_text
  · split
    · exact ⟨by decide, by decide⟩
    · split
      · exact ⟨by decide, by decide⟩
      · exact ⟨by decide, by decide⟩

def coordinateWords (values : List Float) : List (List Char) :=
  values.map fun value => (objNumber value).toList

theorem areWords_coordinateWords (values : List Float) :
    ∀ word ∈ coordinateWords values, IsWord word := by
  intro word member
  rcases List.mem_map.mp member with ⟨value, _, rfl⟩
  exact isWord_objNumber value

def readCoordinate? (word : List Char) : Option Float :=
  match Json.readNumber Decimal.toFloat word with
  | .ok (value, []) => some value
  | _ => none

/-- Finite coordinates read back bit for bit. -/
theorem readCoordinates (values : List Float)
    (finite : ∀ value ∈ values, value.isFinite = true) :
    (coordinateWords values).mapM readCoordinate? = some values := by
  conv_rhs => rw [← List.map_id values]
  apply mapM_map_eq_some
  intro value member
  have ends : Json.EndsNumber [] := nofun
  have read := Decimal.readNumber_render (finite value member)
    (show objLayout.wholeEnding = [] ∨ _ from .inl rfl) ends
  rw [List.append_nil] at read
  rw [objNumber, if_pos (finite value member), String.toList_ofList, readCoordinate?, read]
  rfl

theorem toList_objNumbers (keyword : String) (values : List Float) :
    (objNumbers keyword values).toList =
      [' '].intercalate (keyword.toList :: coordinateWords values) := by
  simp [objNumbers, coordinateWords, Function.comp_def]

/-! ## Corners and faces -/

def cornerOf (hasUvs hasNormals : Bool) (index : UInt32) : Corner where
  vertex := index.toNat + 1
  texture := if hasUvs then some (index.toNat + 1) else none
  normal := if hasNormals then some (index.toNat + 1) else none

def cornersOf (hasUvs hasNormals : Bool) (face : UInt32 × UInt32 × UInt32) : List Corner :=
  [face.1, face.2.1, face.2.2].map (cornerOf hasUvs hasNormals)

theorem toNat_vertexNumber {index : UInt32} (few : index.toNat < 2 ^ 32 - 1) :
    (vertexNumber index).toNat = index.toNat + 1 := by
  rw [vertexNumber, UInt32.toNat_add]
  exact Nat.mod_eq_of_lt (by change index.toNat + 1 < _; omega)

section Corners

variable (hasUvs hasNormals : Bool) {index : UInt32} (few : index.toNat < 2 ^ 32 - 1)

theorem toList_objCorner (index : UInt32) :
    (objCorner hasUvs hasNormals index).toList =
      let number := Nat.toDigits 10 (vertexNumber index).toNat
      match hasUvs, hasNormals with
      | true, true => number ++ '/' :: (number ++ '/' :: number)
      | true, false => number ++ '/' :: number
      | false, true => number ++ '/' :: ([] ++ '/' :: number)
      | false, false => number := by
  cases hasUvs <;> cases hasNormals <;> simp [objCorner, toString]

include few

theorem readCorner?_objCorner :
    readCorner? (objCorner hasUvs hasNormals index).toList =
      some (cornerOf hasUvs hasNormals index) := by
  rw [toList_objCorner, toNat_vertexNumber few]
  cases hasUvs with
  | true =>
      cases hasNormals with
      | true => exact readCorner?_both _ _ _
      | false => exact readCorner?_texture _ _
  | false =>
      cases hasNormals with
      | true => exact readCorner?_normal _ _
      | false => exact readCorner?_vertex _

omit few in
theorem isWord_objCorner : IsWord (objCorner hasUvs hasNormals index).toList := by
  have isWord := isWord_toDigits (vertexNumber index).toNat
  rw [toList_objCorner]
  cases hasUvs with
  | true =>
      cases hasNormals with
      | true => exact isWord.append (isWord.append isWord.slash).slash
      | false => exact isWord.append isWord.slash
  | false =>
      cases hasNormals with
      | true => exact isWord.append isWord.slash.slash
      | false => exact isWord

end Corners

section Faces

variable {indices : List UInt32}

theorem mem_of_mem_faces {face : UInt32 × UInt32 × UInt32} (member : face ∈ faces indices) :
    face.1 ∈ indices ∧ face.2.1 ∈ indices ∧ face.2.2 ∈ indices := by
  induction indices using faces.induct with
  | case1 first second third rest induction =>
      rw [faces, List.mem_cons] at member
      rcases member with rfl | member
      · simp
      · rcases induction member with ⟨inFirst, inSecond, inThird⟩
        simp [inFirst, inSecond, inThird]
  | case2 indices short =>
      rw [faces] at member
      · cases member
      · exact short

theorem flatMap_faces (triples : indices.length % 3 = 0) :
    (faces indices).flatMap (fun face => [face.1, face.2.1, face.2.2]) = indices := by
  induction indices using faces.induct with
  | case1 first second third rest induction =>
      rw [faces, List.flatMap_cons, induction]
      · rfl
      · simp only [List.length_cons] at triples
        omega
  | case2 indices short =>
      rcases indices with _ | ⟨first, _ | ⟨second, _ | ⟨third, rest⟩⟩⟩
      · rfl
      · cases triples
      · cases triples
      · exact absurd rfl (short first second third rest)

theorem length_faces (indices : List UInt32) : (faces indices).length = indices.length / 3 := by
  induction indices using faces.induct with
  | case1 first second third rest induction =>
      rw [faces, List.length_cons, induction]
      simp only [List.length_cons]
      omega
  | case2 indices short =>
      rw [faces]
      · rcases indices with _ | ⟨first, _ | ⟨second, _ | ⟨third, rest⟩⟩⟩
        · rfl
        · simp
        · simp
        · exact absurd rfl (short first second third rest)
      · exact short

variable (hasUvs hasNormals : Bool) {face : UInt32 × UInt32 × UInt32}

theorem toList_objFace :
    (objFace hasUvs hasNormals face).toList =
      [' '].intercalate (['f'] ::
        [face.1, face.2.1, face.2.2].map fun index =>
          (objCorner hasUvs hasNormals index).toList) := by
  simp [objFace]

theorem means_objFace
    (few : ∀ index ∈ [face.1, face.2.1, face.2.2], index.toNat < 2 ^ 32 - 1) :
    Means (objFace hasUvs hasNormals face).toList (.face (cornersOf hasUvs hasNormals face)) := by
  have read : ([face.1, face.2.1, face.2.2].map fun index =>
      (objCorner hasUvs hasNormals index).toList).mapM readCorner? =
        some (cornersOf hasUvs hasNormals face) :=
    mapM_map_eq_some fun index member => readCorner?_objCorner hasUvs hasNormals (few index member)
  rw [toList_objFace]
  apply means_words
  · rw [List.forall_mem_cons]
    refine ⟨by decide, fun word member => ?_⟩
    rcases List.mem_map.mp member with ⟨index, _, rfl⟩
    exact isWord_objCorner hasUvs hasNormals
  · exact List.cons_ne_nil _ _
  · exact congrArg (Option.map Line.face) read

end Faces

/-! ## Whole texts -/

/-- One line for each entry of each buffer, in the order of the buffers, and one for each
triangle. -/
def wavefrontLines (name : String) (mesh : Mesh) (triangles : List (List Corner)) : List Line :=
  [Line.comment "citygml-polygon polygon_cli".toList, Line.name name.toList] ++
  mesh.positions.map (fun position => Line.position (coordinateWords position.toList)) ++
  (mesh.uvs.getD []).map (fun uv => Line.texture (coordinateWords uv.toList)) ++
  (mesh.normals.getD []).map (fun normal => Line.normal (coordinateWords normal.toList)) ++
  triangles.map Line.face

def cornersOfTriangles (mesh : Mesh) : List (List Corner) :=
  (faces mesh.indices).map (cornersOf mesh.uvs.isSome mesh.normals.isSome)

theorem toList_objText (name : String) (mesh : Mesh) :
    (mesh.objText name).toList =
      ((mesh.objLines name).map String.toList).flatMap (· ++ ['\n']) := by
  simp [objText, List.flatMap_map]

theorem means_objNumbers {keyword : String} (isWord : IsWord keyword.toList)
    (values : List Float) {meaning : Line}
    (reads : readWords? (keyword.toList :: coordinateWords values) = some meaning) :
    Means (objNumbers keyword values).toList meaning := by
  rw [toList_objNumbers]
  exact means_words (List.forall_mem_cons.mpr ⟨isWord, areWords_coordinateWords values⟩)
    (List.cons_ne_nil _ _) reads

/-- The text says line by line what the mesh holds. -/
theorem readLines?_objText {name : String} (oneLine : '\n' ∉ name.toList) {mesh : Mesh}
    (few : ∀ index ∈ mesh.indices, index.toNat < 2 ^ 32 - 1) :
    readLines? (mesh.objText name).toList =
      some (mesh.wavefrontLines name mesh.cornersOfTriangles) := by
  have comment : Means "# citygml-polygon polygon_cli".toList
      (.comment "citygml-polygon polygon_cli".toList) := means_comment (by decide)
  have named : Means (s!"o {name}").toList (.name name.toList) := by
    simpa [toString] using means_name oneLine
  rw [toList_objText]
  apply readLines?_of_means
  rw [List.forall₂_map_left_iff, objLines, wavefrontLines, cornersOfTriangles, List.map_map]
  refine List.rel_append (List.rel_append (List.rel_append (List.rel_append ?_ ?_) ?_) ?_) ?_
  · exact .cons comment (.cons named .nil)
  · rw [List.forall₂_map_left_iff, List.forall₂_map_right_iff, List.forall₂_same]
    exact fun position _ => means_objNumbers (by decide) _ rfl
  · rw [List.forall₂_map_left_iff, List.forall₂_map_right_iff, List.forall₂_same]
    exact fun uv _ => means_objNumbers (by decide) _ rfl
  · rw [List.forall₂_map_left_iff, List.forall₂_map_right_iff, List.forall₂_same]
    exact fun normal _ => means_objNumbers (by decide) _ rfl
  · rw [List.forall₂_map_left_iff, List.forall₂_map_right_iff, List.forall₂_same]
    intro face member
    rcases mem_of_mem_faces member with ⟨inFirst, inSecond, inThird⟩
    apply means_objFace
    intro index inFace
    simp only [List.mem_cons, List.not_mem_nil, or_false] at inFace
    rcases inFace with rfl | rfl | rfl
    · exact few _ inFirst
    · exact few _ inSecond
    · exact few _ inThird

/-! ## Valid meshes -/

/-- What the lines of an OBJ text say about the mesh that they were written for. -/
structure Describes (lines : List Line) (name : String) (mesh : Mesh)
    (triangles : List (List Corner)) : Prop where
  buffers : lines = mesh.wavefrontLines name triangles
  count : triangles.length = mesh.triangleCount
  corners : ∀ triangle ∈ triangles, triangle.length = 3
  indices : triangles.flatten.map (fun corner => corner.vertex - 1) =
    mesh.indices.map UInt32.toNat
  vertices : ∀ corner ∈ triangles.flatten,
    1 ≤ corner.vertex ∧ corner.vertex ≤ lines.countP Line.isPosition
  textures : ∀ corner ∈ triangles.flatten,
    corner.texture = if mesh.uvs.isSome then some corner.vertex else none
  texturesExist : ∀ corner ∈ triangles.flatten, ∀ texture ∈ corner.texture,
    texture ≤ lines.countP Line.isTexture
  normals : ∀ corner ∈ triangles.flatten,
    corner.normal = if mesh.normals.isSome then some corner.vertex else none
  normalsExist : ∀ corner ∈ triangles.flatten, ∀ normal ∈ corner.normal,
    normal ≤ lines.countP Line.isNormal

theorem flatten_cornersOfTriangles {mesh : Mesh} (fits : mesh.WellFormed) :
    mesh.cornersOfTriangles.flatten =
      mesh.indices.map (cornerOf mesh.uvs.isSome mesh.normals.isSome) := by
  conv_rhs => rw [← flatMap_faces fits.triangles.triples]
  rw [List.map_flatMap]
  rfl

theorem le_length_of_named {α : Type} {entries : Option (List α)} {count vertex number : Nat}
    (aligned : ∀ list, entries = some list → list.length = count) (below : vertex ≤ count)
    (named : number ∈ if entries.isSome then some vertex else none) :
    number ≤ (entries.getD []).length := by
  cases entries with
  | none => cases named
  | some list =>
      cases named
      rw [Option.getD_some, aligned list rfl]
      exact below

theorem describes_wavefrontLines (name : String) {mesh : Mesh} (fits : mesh.WellFormed) :
    Describes (mesh.wavefrontLines name mesh.cornersOfTriangles) name mesh
      mesh.cornersOfTriangles := by
  have flattened := flatten_cornersOfTriangles fits
  have positionLines : (mesh.wavefrontLines name mesh.cornersOfTriangles).countP Line.isPosition =
      mesh.vertexCount := by
    simp [wavefrontLines, List.countP_append, List.countP_map, Line.isPosition, vertexCount,
      Function.comp_def]
  have textureLines : (mesh.wavefrontLines name mesh.cornersOfTriangles).countP Line.isTexture =
      (mesh.uvs.getD []).length := by
    simp [wavefrontLines, List.countP_append, List.countP_map, Line.isTexture,
      Function.comp_def]
  have normalLines : (mesh.wavefrontLines name mesh.cornersOfTriangles).countP Line.isNormal =
      (mesh.normals.getD []).length := by
    simp [wavefrontLines, List.countP_append, List.countP_map, Line.isNormal,
      Function.comp_def]
  have corners : ∀ corner ∈ mesh.cornersOfTriangles.flatten,
      ∃ index ∈ mesh.indices, cornerOf mesh.uvs.isSome mesh.normals.isSome index = corner := by
    intro corner member
    rw [flattened] at member
    exact List.mem_map.mp member
  refine ⟨?_, ?_, ?_, ?_, ?_, ?_, ?_, ?_, ?_⟩
  · rfl
  · rw [cornersOfTriangles, List.length_map, length_faces, triangleCount]
  · intro triangle member
    rcases List.mem_map.mp member with ⟨face, _, rfl⟩
    rfl
  · rw [flattened, List.map_map]
    rfl
  · rw [positionLines]
    intro corner member
    rcases corners corner member with ⟨index, inMesh, rfl⟩
    have below := fits.triangles.below index inMesh
    exact ⟨Nat.succ_pos _, below⟩
  · intro corner member
    rcases corners corner member with ⟨index, _, rfl⟩
    rfl
  · rw [textureLines]
    intro corner member texture named
    rcases corners corner member with ⟨index, inMesh, rfl⟩
    exact le_length_of_named fits.uvs (fits.triangles.below index inMesh) named
  · intro corner member
    rcases corners corner member with ⟨index, _, rfl⟩
    rfl
  · rw [normalLines]
    intro corner member normal named
    rcases corners corner member with ⟨index, inMesh, rfl⟩
    exact le_length_of_named fits.normals (fits.triangles.below index inMesh) named

end PlanarMesh.Mesh

namespace PlanarMesh.CommandLine

open Mesh Wavefront

theorem oneLine_name (scenario : Scenario) : '\n' ∉ scenario.name.toList := by
  cases scenario <;> decide

/-- For an invalid mesh nothing is done. For a valid one a file is written whose text
describes the mesh; its positions read back bit for bit, and no vertex number leaves 32
bits. -/
theorem writeObj_faithful (scenario : Scenario) (mesh : Mesh) (diagnostics : Diagnostics)
    (log : List Record) (few : mesh.vertexCount < 2 ^ 32 - 1) (path : String) (overwrite : Bool)
    (terminal : Terminal) :
    (∀ fault, mesh.validate = .error fault →
      (writeObj path ⟨scenario.name, mesh, diagnostics, log⟩ overwrite).run terminal =
        (.error (.invalidMesh fault), terminal)) ∧
    (mesh.validate = .ok () →
      ∃ text lines triangles,
        writeObj path ⟨scenario.name, mesh, diagnostics, log⟩ overwrite =
          writeOutput path text overwrite ∧
        (∀ ending, (writeObj path ⟨scenario.name, mesh, diagnostics, log⟩ overwrite).run terminal =
          (.ok (), ending) → ending.tree.find? path = some (.file text)) ∧
        readLines? text.toList = some lines ∧
        Describes lines scenario.name mesh triangles ∧
        (∀ position ∈ mesh.positions,
          (coordinateWords position.toList).mapM readCoordinate? = some position.toList) ∧
        ∀ index ∈ mesh.indices, (vertexNumber index).toNat = index.toNat + 1) := by
  constructor
  · intro fault invalid
    simp only [writeObj, invalid]
    rfl
  · intro valid
    have fits := wellFormed_of_validate valid
    have small : ∀ index ∈ mesh.indices, index.toNat < 2 ^ 32 - 1 := fun index member =>
      Nat.lt_trans (fits.triangles.below index member) few
    have written : writeObj path ⟨scenario.name, mesh, diagnostics, log⟩ overwrite =
        writeOutput path (mesh.objText scenario.name) overwrite := by
      simp only [writeObj, valid]
    refine ⟨_, _, _, written, ?_, readLines?_objText (oneLine_name scenario) small,
      describes_wavefrontLines scenario.name fits, ?_, ?_⟩
    · intro ending wrote
      rw [written] at wrote
      exact find?_of_run_writeOutput wrote
    · intro position member
      apply readCoordinates
      have finite := isFinite_of_validate valid position member
      simpa [Point3.isFinite, Point3.toList, and_assoc] using finite
    · intro index member
      exact toNat_vertexNumber (small index member)

def leaf : Mesh where
  positions := [⟨0.0, 0.0, 0.0⟩, ⟨1.5, 0.0, 0.0⟩, ⟨0.0, -0.25, 0.0⟩]
  indices := [2, 0, 1]
  uvs := some [⟨0.0, 0.0⟩, ⟨1.0, 0.0⟩, ⟨0.0, 1.0⟩]
  normals := none

theorem writeObj_faithful_leaf : leaf.vertexCount < 2 ^ 32 - 1 ∧ leaf.validate = .ok () ∧
    ∃ text lines triangles, readLines? (text : String).toList = some lines ∧
      Describes lines Scenario.unitSquare.name leaf triangles ∧
      ((writeObj "leaf.obj" ⟨Scenario.unitSquare.name, leaf, default, []⟩ false).run
        ⟨.empty, "", ""⟩).2.tree.find? "leaf.obj" = some (.file text) := by
  have few : leaf.vertexCount < 2 ^ 32 - 1 := by decide
  have valid : leaf.validate = .ok () := by rfl
  rcases (writeObj_faithful .unitSquare leaf default [] few "leaf.obj" false
    ⟨.empty, "", ""⟩).2 valid with ⟨text, lines, triangles, equal, found, read, describes, _⟩
  refine ⟨few, valid, text, lines, triangles, read, describes, found _ ?_⟩
  rw [equal, run_writeOutput]
  rfl

end PlanarMesh.CommandLine

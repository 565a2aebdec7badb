import PlanarMesh.Mesh.Basic
import PlanarMesh.Proofs.Tessellation.Corners

/-! # Well-formed meshes

The buffers of a mesh fit together when its indices are triangles over the positions
and the optional buffers have one entry for each position. Then a position that is not
finite is the only thing that validation can find.
-/

namespace PlanarMesh.Mesh

structure WellFormed (mesh : Mesh) : Prop where
  triangles : TriangleList mesh.indices mesh.vertexCount
  uvs : ∀ uvs, mesh.uvs = some uvs → uvs.length = mesh.vertexCount
  normals : ∀ normals, mesh.normals = some normals → normals.length = mesh.vertexCount

variable {mesh : Mesh}

theorem hasInvalidVertices_iff :
    mesh.hasInvalidVertices = true ↔
      ∃ position ∈ mesh.positions, position.isFinite = false := by
  simp [hasInvalidVertices]

namespace WellFormed

theorem hasTriangleIndices (fits : mesh.WellFormed) : mesh.hasTriangleIndices = true := by
  rw [Mesh.hasTriangleIndices, fits.triangles.triples]
  rfl

theorem hasValidIndices (fits : mesh.WellFormed) : mesh.hasValidIndices = true := by
  rw [Mesh.hasValidIndices, List.all_eq_true]
  intro index member
  exact decide_eq_true (fits.triangles.below index member)

theorem hasValidAttributeLengths (fits : mesh.WellFormed) :
    mesh.hasValidAttributeLengths = true := by
  rw [Mesh.hasValidAttributeLengths, Bool.and_eq_true, Option.all_eq_true,
    Option.all_eq_true]
  constructor
  · intro uvs present
    exact beq_iff_eq.mpr (fits.uvs uvs present)
  · intro normals present
    exact beq_iff_eq.mpr (fits.normals normals present)

theorem validate_eq (fits : mesh.WellFormed) :
    mesh.validate =
      if mesh.hasInvalidVertices then .error .nonFinitePosition else .ok () := by
  simp [validate, fits.hasTriangleIndices, fits.hasValidIndices,
    fits.hasValidAttributeLengths]

theorem validate_eq_ok_iff (fits : mesh.WellFormed) :
    mesh.validate = .ok () ↔
      ∀ position ∈ mesh.positions, position.isFinite = true := by
  rw [fits.validate_eq]
  cases invalid : mesh.hasInvalidVertices with
  | false => simpa [hasInvalidVertices] using invalid
  | true => simpa [hasInvalidVertices] using invalid

theorem fault_of_validate_eq_error (fits : mesh.WellFormed) {fault : MeshFault}
    (failed : mesh.validate = .error fault) :
    fault = .nonFinitePosition ∧
      ∃ position ∈ mesh.positions, position.isFinite = false := by
  rw [fits.validate_eq] at failed
  cases invalid : mesh.hasInvalidVertices with
  | false =>
      rw [invalid] at failed
      cases failed
  | true =>
      rw [invalid] at failed
      cases failed
      exact ⟨rfl, hasInvalidVertices_iff.mp invalid⟩

end WellFormed

/-- A mesh passes validation when each of the four checks does. -/
theorem checks_of_validate (valid : mesh.validate = .ok ()) :
    mesh.hasTriangleIndices = true ∧ mesh.hasInvalidVertices = false ∧
      mesh.hasValidIndices = true ∧ mesh.hasValidAttributeLengths = true := by
  rw [validate] at valid
  split at valid
  · cases valid
  · split at valid
    · cases valid
    · split at valid
      · cases valid
      · split at valid
        · cases valid
        · simp_all

theorem wellFormed_of_validate (valid : mesh.validate = .ok ()) : mesh.WellFormed := by
  rcases checks_of_validate valid with ⟨triples, _, inside, lengths⟩
  simp only [hasTriangleIndices, beq_iff_eq] at triples
  simp only [hasValidIndices, List.all_eq_true, decide_eq_true_eq] at inside
  simp only [hasValidAttributeLengths, Bool.and_eq_true, Option.all_eq_true,
    beq_iff_eq] at lengths
  exact ⟨⟨triples, inside⟩, lengths.1, lengths.2⟩

theorem isFinite_of_validate (valid : mesh.validate = .ok ()) :
    ∀ position ∈ mesh.positions, position.isFinite = true :=
  (wellFormed_of_validate valid).validate_eq_ok_iff.mp valid

end PlanarMesh.Mesh

import PlanarMesh.Proofs.Mesh.WellFormed
import PlanarMesh.Proofs.Polygon.Coordinates
import PlanarMesh.Proofs.Polygon.History

/-! # Meshes of polygons with a history

Whatever was done with a polygon, its buffers are those of its first finish, or empty.
So a mesh of it is well-formed, and validation depends on how the polygon was
finished and on the vertices that it had then.
-/

namespace PlanarMesh.Polygon

/-! ## Meshes from buffers -/

theorem length_texCoords {polygon : Polygon} {theme : String} {front : Bool}
    (bound : (polygon.appearance.textureTarget? theme front).isSome = true) :
    (polygon.texCoords theme front).value.length = polygon.vertices.length := by
  rcases Option.isSome_iff_exists.mp bound with ⟨target, found⟩
  rw [value_texCoords found, length_fitted]

theorem uvs_toMesh (polygon : Polygon) (theme : Option String) (front : Bool) :
    (polygon.toMesh theme front).value.uvs =
      (theme.filter fun theme =>
        (polygon.appearance.textureTarget? theme front).isSome).map fun theme =>
          (polygon.texCoords theme front).value := by
  rw [toMesh, Logged.value_bind, Logged.value_mapM_option]
  rfl

theorem toMesh_wellFormed {polygon : Polygon}
    (triangles : TriangleList polygon.indices polygon.vertices.length)
    (theme : Option String) (front : Bool) :
    (polygon.toMesh theme front).value.WellFormed where
  triangles := triangles
  uvs := by
    intro uvs present
    rw [uvs_toMesh] at present
    rcases Option.map_eq_some_iff.mp present with ⟨name, filtered, rfl⟩
    exact length_texCoords (Option.filter_eq_some_iff.mp filtered).2
  normals := by
    intro normals present
    change (if polygon.normal != Vec3.zero then _ else _) = some normals at present
    split at present
    · cases present
      exact List.length_map _
    · cases present

/-! ## Buffers of a first finish -/

section Finish

variable {polygon : Polygon} (isOpen : polygon.isFinished = false)
  (options : BuildOptions) (tessellator : EarClipTessellator) (logger : Option Listener)

include isOpen

theorem finish_triangleList (small : Ring.totalSize polygon.rings < UInt32.size) :
    TriangleList (polygon.finish options tessellator logger).value.polygon.indices
      (polygon.finish options tessellator logger).value.polygon.vertices.length := by
  have total := polygon.length_gathered options.optimize
  rcases finish_cases isOpen options tessellator logger with
    ⟨_, _, _, equal⟩ | ⟨indices, _, _, equal, _, triangles⟩
  · rw [equal]
    exact TriangleList.empty 0
  · rw [equal]
    exact triangles (by omega)

/-- Cutting refuses vertices that are not finite, and a failure keeps none. Only a fan
lets them into the buffer. -/
theorem finish_vertices_finite_iff :
    (∀ vertex ∈ (polygon.finish options tessellator logger).value.polygon.vertices,
        vertex.isFinite = true) ↔
      options.tessellate = true ∨
        ∀ vertex ∈ polygon.gathered options.optimize, vertex.isFinite = true := by
  rcases finish_cases isOpen options tessellator logger with
    ⟨_, _, tessellate, equal⟩ | ⟨_, _, _, equal, finite, _⟩
  · rw [equal]
    constructor
    · intro _
      exact .inl tessellate
    · intro _ vertex member
      cases member
  · rw [equal]
    constructor
    · exact .inr
    · rintro (tessellate | allFinite)
      · exact finite tessellate
      · exact allFinite

end Finish

/-! ## Buffers after a history -/

section Run

variable {polygon : Polygon} (isOpen : polygon.isFinished = false)

include isOpen

/-- Only the first `finish` needs its rings to be small. -/
theorem run_triangleList {actions : List Action}
    (small : ∀ unfinished options,
      polygon.firstFinish? actions = some (unfinished, options) →
        Ring.totalSize unfinished.rings < UInt32.size) :
    TriangleList (polygon.run actions).value.indices
      (polygon.run actions).value.vertices.length := by
  rcases run_cases isOpen actions with
    ⟨_, stillOpen⟩ |
    ⟨unfinished, options, tessellator, logger, appearance, first, wasOpen, afterwards⟩
  · rw [indices_of_open stillOpen]
    exact TriangleList.empty _
  · rw [afterwards]
    exact finish_triangleList wasOpen options tessellator logger (small _ _ first)

theorem run_vertices_finite_iff (actions : List Action) :
    (∀ vertex ∈ (polygon.run actions).value.vertices, vertex.isFinite = true) ↔
      ∀ unfinished options,
        polygon.firstFinish? actions = some (unfinished, options) →
          options.tessellate = true ∨
            ∀ vertex ∈ unfinished.gathered options.optimize, vertex.isFinite = true := by
  rcases run_cases isOpen actions with
    ⟨never, stillOpen⟩ |
    ⟨unfinished, options, tessellator, logger, appearance, first, wasOpen, afterwards⟩
  · simp [never, vertices_of_open stillOpen]
  · rw [afterwards]
    refine (finish_vertices_finite_iff wasOpen options tessellator logger).trans ?_
    simp [first]

end Run

/-! ## Meshes after a history -/

/-- The mesh of a polygon with any history is well-formed. It is valid unless the
polygon was first finished with a fan over vertices that are not all finite. -/
theorem toMesh_run (id : String) (logger : Option Listener) (actions : List Action)
    (small : ∀ unfinished options,
      (named id logger).firstFinish? actions = some (unfinished, options) →
        Ring.totalSize unfinished.rings < UInt32.size)
    (theme : Option String) (front : Bool) :
    let mesh := (((named id logger).run actions).value.toMesh theme front).value
    mesh.WellFormed ∧
      (∀ fault, mesh.validate = .error fault →
        fault = .nonFinitePosition ∧
          ∃ position ∈ mesh.positions, position.isFinite = false) ∧
      match (named id logger).firstFinish? actions with
      | none => mesh.validate = .ok ()
      | some (unfinished, options) =>
          mesh.validate = .ok () ↔
            options.tessellate = true ∨
              ∀ vertex ∈ unfinished.gathered options.optimize, vertex.isFinite = true := by
  have isOpen : (named id logger).isFinished = false := rfl
  have fits := toMesh_wellFormed (run_triangleList isOpen small) theme front
  have valid := fits.validate_eq_ok_iff.trans (run_vertices_finite_iff isOpen actions)
  refine ⟨fits, fun fault failed => fits.fault_of_validate_eq_error failed, ?_⟩
  cases first : (named id logger).firstFinish? actions with
  | none =>
      apply valid.mpr
      intro unfinished options found
      rw [first] at found
      cases found
  | some found =>
      rcases found with ⟨unfinished, options⟩
      refine valid.trans ?_
      simp [first]

theorem toMesh_run_courtyard :
    let actions := courtyard.rings.map Action.addRing ++
      [.finish .standard worn none, .setNegNormal true]
    let mesh := (((named "courtyard" none).run actions).value.toMesh none true).value
    mesh.WellFormed ∧ mesh.validate = .ok () := by
  have small : ∀ unfinished options,
      (named "courtyard" none).firstFinish? (courtyard.rings.map Action.addRing ++
        [.finish .standard worn none, .setNegNormal true]) = some (unfinished, options) →
      Ring.totalSize unfinished.rings < UInt32.size := by
    intro unfinished options first
    cases first
    decide
  rcases toMesh_run "courtyard" none _ small none true with ⟨fits, _, valid⟩
  exact ⟨fits, valid.mpr (.inl rfl)⟩

end PlanarMesh.Polygon

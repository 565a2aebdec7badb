import PlanarMesh.Proofs.Polygon.Stages

/-! # Filled buffers

Whether triangles come from a fan or from the built-in tessellator, the vertex buffer
is the cleaned rings one behind the other, and the index buffer lists triangles over
it.
-/

namespace PlanarMesh.Polygon

/-- The vertices of the cleaned rings, one ring behind the other. -/
def gathered (polygon : Polygon) (optimize : Bool) : List Point3 :=
  polygon.rings.flatMap fun ring => (ring.cleaned optimize).vertices

theorem flatMap_rings_cleaned (polygon : Polygon) (optimize : Bool) :
    (polygon.cleaned optimize).rings.flatMap (·.vertices) =
      polygon.gathered optimize := by
  rw [rings_cleaned, List.flatMap_map]
  rfl

theorem length_gathered (polygon : Polygon) (optimize : Bool) :
    (polygon.gathered optimize).length + polygon.removedCount optimize =
      Ring.totalSize polygon.rings := by
  rw [← flatMap_rings_cleaned, ← totalSize_eq_length, rings_cleaned]
  exact totalSize_cleaned polygon.rings optimize

/-! ## Fans -/

theorem length_fanIndices (vertexCount : Nat) :
    (fanIndices vertexCount).length = 3 * (vertexCount - 2) := by
  simp [fanIndices, Nat.mul_comm]

theorem toNat_fanCorners {vertexCount position : Nat} (small : vertexCount ≤ UInt32.size)
    (inRange : position < vertexCount - 2) :
    (UInt32.ofNat position).toNat = position ∧
      (UInt32.ofNat position + 1).toNat = position + 1 ∧
      (UInt32.ofNat position + 2).toNat = position + 2 := by
  have first : (UInt32.ofNat position).toNat = position :=
    UInt32.toNat_ofNat_of_lt' (by omega)
  refine ⟨first, ?_, ?_⟩
  · rw [UInt32.toNat_add, first]
    exact Nat.mod_eq_of_lt (show position + 1 < UInt32.size by omega)
  · rw [UInt32.toNat_add, first]
    exact Nat.mod_eq_of_lt (show position + 2 < UInt32.size by omega)

theorem fanIndices_triangleList {vertexCount : Nat} (small : vertexCount ≤ UInt32.size) :
    TriangleList (fanIndices vertexCount) vertexCount where
  triples := by
    rw [length_fanIndices]
    exact Nat.mul_mod_right 3 _
  below := by
    intro index member
    rcases List.mem_flatMap.mp member with ⟨position, inRange, inTriangle⟩
    have bound := List.mem_range.mp inRange
    rcases toNat_fanCorners small bound with ⟨first, second, third⟩
    simp only [List.mem_cons, List.not_mem_nil, or_false] at inTriangle
    rcases inTriangle with rfl | rfl | rfl <;> omega

theorem filling_of_fan {τ : Type} [Tessellator τ] (polygon : Polygon)
    {options : BuildOptions} (fan : options.tessellate = false) (tessellator : τ) :
    polygon.filling options tessellator =
      pure
        (.ok ⟨polygon.gathered options.optimize,
          fanIndices (polygon.gathered options.optimize).length⟩, tessellator) := by
  rw [filling, fan, ← flatMap_rings_cleaned]
  rfl

/-! ## The built-in tessellator -/

def worn : EarClipTessellator :=
  ⟨.general, ⟨1, 0, 0⟩, [[⟨9, 9, 9⟩]], [7], .zero⟩

/-- Filling a tessellator for a new polygon leaves nothing of the earlier ones but the
tolerance. -/
theorem foldl_addContour (tessellator : EarClipTessellator) (expected : Nat)
    (normal : Vec3) (rings : List Ring) :
    rings.foldl (fun tessellator ring => Tessellator.addContour tessellator ring.vertices)
        (Tessellator.init tessellator expected normal) =
      { EarClipTessellator.withTolerance tessellator.tolerance with
        normal
        contours := rings.map (·.vertices) } := by
  suffices loaded : ∀ filled : EarClipTessellator,
      rings.foldl
          (fun tessellator ring => Tessellator.addContour tessellator ring.vertices) filled =
        { filled with contours := filled.contours ++ rings.map (·.vertices) } by
    exact loaded _
  induction rings with
  | nil =>
      intro filled
      simp
  | cons ring rest induction =>
      intro filled
      rw [List.foldl_cons, induction]
      simp [Tessellator.addContour, EarClipTessellator.addContour]

/-- Only the tolerance of the tessellator has a say in the buffers. -/
theorem tessellatedBuffers_congr {left right : EarClipTessellator}
    (equal : left.tolerance = right.tolerance) (normal : Vec3) (rings : List Ring) :
    tessellatedBuffers left normal rings = tessellatedBuffers right normal rings := by
  simp only [tessellatedBuffers, foldl_addContour, equal]

def loaded (polygon : Polygon) (optimize : Bool) (tolerance : Tolerance) :
    EarClipTessellator :=
  { EarClipTessellator.withTolerance tolerance with
    normal := (polygon.cleaned optimize).ringNormal
    contours := (polygon.cleaned optimize).rings.map (·.vertices) }

theorem vertices_loaded (polygon : Polygon) (optimize : Bool) (tolerance : Tolerance) :
    (polygon.loaded optimize tolerance).vertices = polygon.gathered optimize := by
  rw [← flatMap_rings_cleaned, List.flatMap_def]
  rfl

def readBuffers : Except TessellationError Unit × EarClipTessellator →
    Except TessellationError Buffers × EarClipTessellator
  | (.error cause, computed) => (.error cause, computed)
  | (.ok (), computed) => (.ok ⟨computed.vertices, computed.indices⟩, computed)

@[simp] theorem readBuffers_tessellator
    (result : Except TessellationError Unit × EarClipTessellator) :
    (readBuffers result).2 = result.2 := by
  rcases result with ⟨_ | _, computed⟩
  · rfl
  · rfl

theorem filling_of_tessellate (polygon : Polygon) {options : BuildOptions}
    (tessellate : options.tessellate = true) (tessellator : EarClipTessellator) :
    polygon.filling options tessellator =
      (polygon.loaded options.optimize tessellator.tolerance).computeBy EarClip.triangulate >>=
        fun result => pure (readBuffers result) := by
  rw [filling, if_pos tessellate, tessellatedBuffers, foldl_addContour]
  refine bind_congr fun result => ?_
  rcases result with ⟨_ | _, computed⟩
  · rfl
  · rfl

theorem filling_avoids {level : Level} (other : .debug ≠ level) (polygon : Polygon)
    (options : BuildOptions) (tessellator : EarClipTessellator) :
    (polygon.filling options tessellator).Avoids level := by
  cases tessellate : options.tessellate with
  | false =>
      rw [polygon.filling_of_fan tessellate]
      exact Logged.avoids_pure _ _
  | true =>
      rw [polygon.filling_of_tessellate tessellate]
      exact (EarClipTessellator.computeBy_avoids other _ _).bind (Logged.avoids_pure _ _)

/-- Filling fails only in the tessellator, and then with its error. Else the vertices
are the gathered ones, finite if they were cut, and the indices fit them. -/
theorem filling_cases (polygon : Polygon) (options : BuildOptions)
    (tessellator : EarClipTessellator) :
    (∃ cause computed, options.tessellate = true ∧
      (polygon.filling options tessellator).value = (.error cause, computed)) ∨
    (∃ indices computed,
      (polygon.filling options tessellator).value =
        (.ok ⟨polygon.gathered options.optimize, indices⟩, computed) ∧
      (options.tessellate = true →
        ∀ vertex ∈ polygon.gathered options.optimize, vertex.isFinite = true) ∧
      ((polygon.gathered options.optimize).length ≤ UInt32.size →
        TriangleList indices (polygon.gathered options.optimize).length)) := by
  cases tessellate : options.tessellate with
  | false =>
      rw [polygon.filling_of_fan tessellate]
      refine .inr ⟨_, tessellator, rfl, ?_, fanIndices_triangleList⟩
      intro isTrue
      cases isTrue
  | true =>
      rw [polygon.filling_of_tessellate tessellate, Logged.value_bind, Logged.value_pure,
        ← polygon.vertices_loaded options.optimize tessellator.tolerance]
      rcases (polygon.loaded options.optimize tessellator.tolerance).computeBy_cases
        EarClip.triangulate with
        ⟨cause, statistics, equal⟩ | ⟨finite, indices, statistics, equal, triangles⟩
      · rw [equal]
        exact .inl ⟨cause, _, rfl, rfl⟩
      · rw [equal]
        refine .inr ⟨indices, _, rfl, ?_, fun _ => triangles⟩
        intro _ vertex member
        exact EarClipTessellator.finite_of_firstNonFinite?_eq_none finite member

theorem filling_of_no_vertices {polygon : Polygon} {options : BuildOptions}
    (empty : polygon.gathered options.optimize = []) (tessellator : EarClipTessellator) :
    ∃ buffers computed,
      (polygon.filling options tessellator).value = (.ok buffers, computed) := by
  cases tessellate : options.tessellate with
  | false =>
      rw [polygon.filling_of_fan tessellate]
      exact ⟨_, _, rfl⟩
  | true =>
      have noVertices :
          (polygon.loaded options.optimize tessellator.tolerance).vertices = [] := by
        rw [vertices_loaded, empty]
      have computes := EarClipTessellator.computeBy_of_no_vertices EarClip.triangulate noVertices
      rw [polygon.filling_of_tessellate tessellate, Logged.value_bind, Logged.value_pure]
      rcases result : ((polygon.loaded options.optimize
        tessellator.tolerance).computeBy EarClip.triangulate).value with ⟨outcome, computed⟩
      rw [result] at computes
      cases computes
      exact ⟨_, _, rfl⟩

end PlanarMesh.Polygon

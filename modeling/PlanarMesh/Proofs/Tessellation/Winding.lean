import PlanarMesh.Proofs.Tessellation.Culling

/-! # The winding of emitted triangles

The area of a triangle is measured as it was cut, and the triangle is turned round if
that area is negative. Measured once more as it is emitted, over the vertices that its
indices name, it is positive and above the tolerance.
-/

namespace PlanarMesh

/-! ## Triangles in a list of corners -/

namespace Triangle

variable {α : Type}

theorem getElem?_cornerList (triangles : List (Triangle α)) (place : Nat) :
    (cornerList triangles)[3 * place]? = triangles[place]?.map first ∧
      (cornerList triangles)[3 * place + 1]? = triangles[place]?.map second ∧
      (cornerList triangles)[3 * place + 2]? = triangles[place]?.map third := by
  induction triangles generalizing place with
  | nil => exact ⟨rfl, rfl, rfl⟩
  | cons triangle rest induction =>
      cases place with
      | zero => exact ⟨rfl, rfl, rfl⟩
      | succ place => exact induction place

end Triangle

namespace EarClipTessellator

theorem exists_triangle_of_indexBuffer {triangles : List (Triangle Nat)} {place : Nat}
    {i j k : UInt32} (first : (indexBuffer triangles)[3 * place]? = some i)
    (second : (indexBuffer triangles)[3 * place + 1]? = some j)
    (third : (indexBuffer triangles)[3 * place + 2]? = some k) :
    ∃ triangle ∈ triangles, i = .ofNat triangle.first ∧ j = .ofNat triangle.second ∧
      k = .ofNat triangle.third := by
  rcases Triangle.getElem?_cornerList triangles place with ⟨atFirst, atSecond, atThird⟩
  rw [indexBuffer, List.getElem?_map] at first second third
  rw [atFirst] at first
  rw [atSecond] at second
  rw [atThird] at third
  cases found : triangles[place]? with
  | none =>
      rw [found] at first
      cases first
  | some triangle =>
      rw [found] at first second third
      cases first
      cases second
      cases third
      exact ⟨triangle, List.mem_of_getElem? found, rfl, rfl, rfl⟩

/-! ## One triangle -/

/-- An emitted triangle is the one that was cut, or that one the other way round, and
runs counter-clockwise. -/
theorem counterClockwise_of_emit? {tolerance : Tolerance}
    (isNumber : tolerance.eps.isNaN = false) {triangle : Triangle (Nat × Point2)}
    {emitted : Triangle Nat} (emits : emit? tolerance triangle = some emitted) :
    ∃ oriented, triangle.SameUpToTurn oriented ∧ emitted = oriented.map (·.1) ∧
      CounterClockwise tolerance oriented.first.2 oriented.second.2 oriented.third.2 := by
  rw [emit?_eq] at emits
  split at emits
  · rename_i large
    rcases isLarge_iff.mp large with ⟨finite, above⟩
    have turned :
        if 0.0 < (triangle.map (·.2)).doubledArea then
          CounterClockwise tolerance triangle.first.2 triangle.second.2 triangle.third.2
        else
          CounterClockwise tolerance triangle.first.2 triangle.third.2 triangle.second.2 :=
      counterClockwise_or_swapped isNumber finite above
    split at emits
    · rename_i positive
      cases emits
      rw [if_pos positive] at turned
      exact ⟨triangle, .inl rfl, rfl, turned⟩
    · rename_i notPositive
      cases emits
      rw [if_neg notPositive] at turned
      exact ⟨triangle.reversed, .inr rfl, rfl, turned⟩
  · cases emits

/-! ## Computations -/

theorem indices_computeBy_cases (cut : Cutter) (tessellator : EarClipTessellator) :
    (tessellator.computeBy cut).value.2.indices = [] ∨
      ∃ outline holes triangles,
        tessellator.contours = outline :: holes ∧
        (tessellator.computeBy cut).value.2.indices =
          indexBuffer (List.filterMap (fun triangle =>
            emit? tessellator.tolerance
              (Triangle.map (storedChoice tessellator.normal outline holes) triangle))
            triangles) := by
  cases finite : firstNonFinite? tessellator.contours with
  | some contour => exact .inl (by rw [computeBy_of_nonFinite finite]; rfl)
  | none =>
      by_cases short : (tessellator.contours.headD []).length < 3
      · exact .inl (by rw [computeBy_of_short finite short]; rfl)
      · rcases exists_outline short with ⟨outline, holes, contours, long⟩
        rw [computeBy_of_outline finite contours long]
        cases answer : cut (chosen tessellator.begun.normal outline holes).points
            (chosen tessellator.begun.normal outline holes).holeStarts with
        | none => exact .inl (by rw [cutContours_of_failure _ answer]; rfl)
        | some triangles =>
            refine .inr ⟨outline, holes, triangles, contours, ?_⟩
            rw [cutContours_of_success _ answer]
            exact congrArg indexBuffer List.filterMap_map

/-- An index names the vertex whose projection was measured. A position that did not
fit was measured where it wrapped around to, so this holds of any number of vertices. -/
theorem exists_vertex_storedChoice (normal : Vec3) (outline : List Point3)
    (holes : List (List Point3))
    (position : Fin (chosen normal outline holes).points.length) :
    ∃ vertex,
      (outline :: holes).flatten[
          (UInt32.ofNat (storedChoice normal outline holes position).1).toNat]? =
        some vertex ∧
      (storedChoice normal outline holes position).2 =
        (Plane.through normal outline).project vertex := by
  have whole : (UInt32.ofNat (storedChoice normal outline holes position).1).toNat =
      (storedChoice normal outline holes position).1 := by
    rw [storedChoice, Selection.storedCorner, UInt32.ofNat_toNat]
  have found := getElem?_storedChoice normal outline holes position
  rw [projectedAll, List.getElem?_map] at found
  rw [whole]
  rcases Option.map_eq_some_iff.mp found with ⟨vertex, read, projected⟩
  exact ⟨vertex, read, projected.symm⟩

theorem exists_vertex_of_mem_corners {normal : Vec3} {outline : List Point3}
    {holes : List (List Point3)}
    {cut : Triangle (Fin (chosen normal outline holes).points.length)}
    {oriented : Triangle (Nat × Point2)}
    (same : (cut.map (storedChoice normal outline holes)).SameUpToTurn oriented)
    {corner : Nat × Point2} (member : corner ∈ oriented.corners) :
    ∃ vertex,
      (outline :: holes).flatten[(UInt32.ofNat corner.1).toNat]? = some vertex ∧
      corner.2 = (Plane.through normal outline).project vertex := by
  have inCut := same.mem_corners member
  rw [Triangle.corners_map] at inCut
  rcases List.mem_map.mp inCut with ⟨position, _, rfl⟩
  exact exists_vertex_storedChoice normal outline holes position

theorem ne_of_project_ne {plane : Plane} {vertices : List Point3} {left right : UInt32}
    {a b : Point3} (readA : vertices[left.toNat]? = some a)
    (readB : vertices[right.toNat]? = some b)
    (different : plane.project a ≠ plane.project b) : left ≠ right := by
  intro same
  rw [same, readB] at readA
  cases readA
  exact different rfl

/-- However points are cut, every triangle of the index buffer, in the order in which it
is emitted, runs counter-clockwise on the plane of the outline around an area that is
finite and above the tolerance. So no two of its corners are one. -/
theorem compute_counterClockwise (cut : Cutter) (tessellator : EarClipTessellator)
    (isNumber : tessellator.tolerance.eps.isNaN = false) :
    let computed := (tessellator.computeBy cut).value.2
    let plane := Plane.through computed.normal (computed.contours.headD [])
    computed.indices.length % 3 = 0 ∧
      ∀ (place : Nat) (i j k : UInt32),
        computed.indices[3 * place]? = some i →
        computed.indices[3 * place + 1]? = some j →
        computed.indices[3 * place + 2]? = some k →
        (∃ a b c : Point3,
          computed.vertices[i.toNat]? = some a ∧
          computed.vertices[j.toNat]? = some b ∧
          computed.vertices[k.toNat]? = some c ∧
          CounterClockwise computed.tolerance (plane.project a) (plane.project b)
            (plane.project c)) ∧
        i ≠ j ∧ j ≠ k ∧ i ≠ k := by
  dsimp only
  rw [computeBy_normal, computeBy_contours, computeBy_tolerance, vertices, computeBy_contours]
  rcases tessellator.indices_computeBy_cases cut with
    empty | ⟨outline, holes, triangles, contours, emitted⟩
  · rw [empty]
    refine ⟨rfl, fun place i j k first => ?_⟩
    cases first
  · rw [emitted, contours]
    refine ⟨by rw [length_indexBuffer, Nat.mul_mod_right], ?_⟩
    intro place i j k first second third
    rcases exists_triangle_of_indexBuffer first second third with
      ⟨triangle, member, rfl, rfl, rfl⟩
    rcases List.mem_filterMap.mp member with ⟨cut, _, emits⟩
    rcases counterClockwise_of_emit? isNumber emits with ⟨oriented, same, rfl, turned⟩
    have read : ∀ corner ∈ oriented.corners, ∃ vertex,
        (outline :: holes).flatten[(UInt32.ofNat corner.1).toNat]? = some vertex ∧
        corner.2 = (Plane.through tessellator.normal outline).project vertex :=
      fun _ => exists_vertex_of_mem_corners same
    rcases read oriented.first (by simp [Triangle.corners]) with ⟨a, readA, projectedA⟩
    rcases read oriented.second (by simp [Triangle.corners]) with ⟨b, readB, projectedB⟩
    rcases read oriented.third (by simp [Triangle.corners]) with ⟨c, readC, projectedC⟩
    rw [projectedA, projectedB, projectedC] at turned
    refine ⟨⟨a, b, c, readA, readB, readC, turned⟩, ?_⟩
    rcases distinct_of_orientation_pos turned.positive with ⟨ab, bc, ac⟩
    exact ⟨ne_of_project_ne readA readB ab, ne_of_project_ne readB readC bc,
      ne_of_project_ne readA readC ac⟩

def wedge : EarClipTessellator :=
  ((withTolerance .general).init ⟨0, 0, -1⟩).addContour
    [⟨0, 0, 0⟩, ⟨4, 0, 0⟩, ⟨0, 3, 0⟩]

theorem compute_counterClockwise_wedge :
    let computed := (wedge.computeBy EarClip.triangulate).value.2
    let plane := Plane.through computed.normal (computed.contours.headD [])
    wedge.tolerance.eps.isNaN = false ∧ computed.indices = [1, 0, 2] ∧
      ∃ a b c : Point3,
        computed.vertices[1]? = some a ∧ computed.vertices[0]? = some b ∧
        computed.vertices[2]? = some c ∧
        CounterClockwise computed.tolerance (plane.project a) (plane.project b)
          (plane.project c) := by
  have isNumber : wedge.tolerance.eps.isNaN = false := by decide +kernel
  have indices : (wedge.computeBy EarClip.triangulate).value.2.indices = [1, 0, 2] := by
    decide +kernel
  rcases (compute_counterClockwise EarClip.triangulate wedge isNumber).2 0 1 0 2
      (by rw [indices]; rfl) (by rw [indices]; rfl) (by rw [indices]; rfl) with
    ⟨turned, _⟩
  exact ⟨isNumber, indices, turned⟩

end EarClipTessellator

end PlanarMesh

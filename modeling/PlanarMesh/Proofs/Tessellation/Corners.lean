import Mathlib.Data.List.Basic
import PlanarMesh.Tessellation.EarClip

/-! # Corners of emitted triangles

Every corner that is chosen for cutting carries a position of its own contour, and
cutting answers with positions in the choice. So an index that is emitted belongs to
the vertex buffer.
-/

namespace PlanarMesh

/-- Corners of triangles, three at a time, over so many vertices. -/
structure TriangleList (indices : List UInt32) (vertexCount : Nat) : Prop where
  triples : indices.length % 3 = 0
  below : ∀ index ∈ indices, index.toNat < vertexCount

theorem TriangleList.empty (vertexCount : Nat) : TriangleList [] vertexCount where
  triples := rfl
  below := by
    intro index member
    cases member

theorem map_toNat_ofNat {positions : List Nat}
    (fits : ∀ position ∈ positions, position < UInt32.size) :
    (positions.map UInt32.ofNat).map UInt32.toNat = positions := by
  rw [List.map_map]
  refine (List.map_congr_left ?_).trans (List.map_id positions)
  intro position member
  exact UInt32.toNat_ofNat_of_lt' (fits position member)

/-! ## Contours in place -/

namespace PlacedContour

@[simp] theorem length_corners (contour : PlacedContour) :
    contour.corners.length = contour.points.length := by
  rw [corners, List.length_map, List.length_zipIdx]

theorem getElem?_of_mem_corners (front : List Point2) {middle back : List Point2}
    {corner : Nat × Point2} (member : corner ∈ (mk front.length middle).corners) :
    (front ++ (middle ++ back))[corner.1]? = some corner.2 := by
  rcases List.mem_map.mp member with ⟨⟨point, position⟩, entry, rfl⟩
  rcases List.mk_mem_zipIdx_iff_le_and_getElem?_sub.mp entry with ⟨behind, found⟩
  have inRange := (List.getElem?_eq_some_iff.mp found).1
  rw [List.getElem?_append_right behind, List.getElem?_append_left inRange]
  exact found

theorem length_place (start : Nat) (contours : List (List Point2)) :
    (place start contours).length = contours.length := by
  induction contours generalizing start with
  | nil => rfl
  | cons points rest induction => rw [place, List.length_cons, induction, List.length_cons]

theorem map_points_place (start : Nat) (contours : List (List Point2)) :
    (place start contours).map (·.points) = contours := by
  induction contours generalizing start with
  | nil => rfl
  | cons points rest induction => rw [place, List.map_cons, induction]

/-- A corner of one of the contours that follow `front` is where it says. -/
theorem getElem?_of_mem_place {front : List Point2} {contours : List (List Point2)}
    {contour : PlacedContour} (placed : contour ∈ place front.length contours)
    {corner : Nat × Point2} (member : corner ∈ contour.corners) :
    (front ++ contours.flatten)[corner.1]? = some corner.2 := by
  induction contours generalizing front with
  | nil => cases placed
  | cons points rest induction =>
      rw [List.flatten_cons]
      rcases List.mem_cons.mp placed with rfl | later
      · exact getElem?_of_mem_corners front member
      · rw [← List.append_assoc]
        apply induction
        rwa [List.length_append]

end PlacedContour

/-! ## Stored corners -/

namespace Selection

section Stored

variable {selection : Selection} {all : List Point2}
  (backed : ∀ corner ∈ selection.corners, all[corner.1]? = some corner.2)

include backed

theorem getElem?_corner (position : Fin selection.points.length) :
    all[(selection.corner position).1]? = some (selection.corner position).2 :=
  backed _ (List.get_mem _ _)

/-- A position that is too large for its index wraps around to a smaller one, where
there is a point as well. -/
theorem getElem?_storedCorner (position : Fin selection.points.length) :
    all[(selection.storedCorner all position).1]? =
      some (selection.storedCorner all position).2 := by
  have inRange := (List.getElem?_eq_some_iff.mp (getElem?_corner backed position)).1
  have wraps : (UInt32.ofNat (selection.corner position).1).toNat ≤
      (selection.corner position).1 := by
    rw [UInt32.toNat_ofNat']
    exact Nat.mod_le _ _
  have keptInRange := Nat.lt_of_le_of_lt wraps inRange
  rw [storedCorner, List.getElem?_eq_getElem keptInRange, Option.getD_some]

theorem storedCorner_of_small (small : all.length ≤ UInt32.size)
    (position : Fin selection.points.length) :
    selection.storedCorner all position = selection.corner position := by
  have found := getElem?_corner backed position
  have fits : (selection.corner position).1 < UInt32.size :=
    Nat.lt_of_lt_of_le (List.getElem?_eq_some_iff.mp found).1 small
  rw [storedCorner, UInt32.toNat_ofNat_of_lt' fits, found, Option.getD_some]

end Stored

end Selection

/-! ## The choice -/

namespace EarClipTessellator

def projectedAll (normal : Vec3) (outline : List Point3) (holes : List (List Point3)) :
    List Point2 :=
  (outline :: holes).flatten.map (Plane.through normal outline).project

/-- The corners that are cut, given an outline and holes in space. -/
def chosen (normal : Vec3) (outline : List Point3) (holes : List (List Point3)) :
    Selection :=
  let plane := Plane.through normal outline
  let projected := outline.map plane.project
  let placedHoles := PlacedContour.place projected.length
    (holes.map fun hole => hole.map plane.project)
  Selection.ofContours ⟨0, projected⟩
    (placedHoles.filter fun hole => judgeHole projected hole.points = .accepted)

def verdicts (normal : Vec3) (outline : List Point3) (holes : List (List Point3)) :
    List HoleVerdict :=
  let plane := Plane.through normal outline
  let projected := outline.map plane.project
  let placedHoles := PlacedContour.place projected.length
    (holes.map fun hole => hole.map plane.project)
  placedHoles.map fun hole => judgeHole projected hole.points

theorem length_verdicts (normal : Vec3) (outline : List Point3)
    (holes : List (List Point3)) :
    (verdicts normal outline holes).length = holes.length := by
  rw [verdicts, List.length_map, PlacedContour.length_place, List.length_map]

theorem getElem?_of_mem_chosen {normal : Vec3} {outline : List Point3}
    {holes : List (List Point3)} {corner : Nat × Point2}
    (member : corner ∈ (chosen normal outline holes).corners) :
    (projectedAll normal outline holes)[corner.1]? = some corner.2 := by
  rw [projectedAll, List.map_flatten, List.map_cons, List.flatten_cons]
  rcases List.mem_append.mp member with ofOutline | ofHole
  · exact PlacedContour.getElem?_of_mem_corners [] ofOutline
  · rcases List.mem_flatMap.mp ofHole with ⟨contour, accepted, inContour⟩
    exact PlacedContour.getElem?_of_mem_place (List.mem_of_mem_filter accepted) inContour

theorem length_projectedAll (normal : Vec3) (outline : List Point3)
    (holes : List (List Point3)) :
    (projectedAll normal outline holes).length = (outline :: holes).flatten.length :=
  List.length_map _

/-- A corner of the choice, as it is read back from all points. -/
def storedChoice (normal : Vec3) (outline : List Point3) (holes : List (List Point3))
    (position : Fin (chosen normal outline holes).points.length) : Nat × Point2 :=
  (chosen normal outline holes).storedCorner (projectedAll normal outline holes) position

theorem getElem?_storedChoice (normal : Vec3) (outline : List Point3)
    (holes : List (List Point3))
    (position : Fin (chosen normal outline holes).points.length) :
    (projectedAll normal outline holes)[(storedChoice normal outline holes position).1]? =
      some (storedChoice normal outline holes position).2 :=
  Selection.getElem?_storedCorner (fun _ => getElem?_of_mem_chosen) position

theorem storedChoice_lt (normal : Vec3) (outline : List Point3)
    (holes : List (List Point3))
    (position : Fin (chosen normal outline holes).points.length) :
    (storedChoice normal outline holes position).1 < (outline :: holes).flatten.length := by
  rw [← length_projectedAll normal outline holes]
  exact (List.getElem?_eq_some_iff.mp
    (getElem?_storedChoice normal outline holes position)).1

theorem storedChoice_of_small {normal : Vec3} {outline : List Point3}
    {holes : List (List Point3)}
    (small : (outline :: holes).flatten.length ≤ UInt32.size)
    (position : Fin (chosen normal outline holes).points.length) :
    storedChoice normal outline holes position =
      (chosen normal outline holes).corner position := by
  apply Selection.storedCorner_of_small (fun _ => getElem?_of_mem_chosen)
  rwa [length_projectedAll]

/-! ## Emission -/

/-- An emitted triangle has the positions of the triangle that was cut. -/
theorem mem_corners_of_emit? {tolerance : Tolerance}
    {triangle : Triangle (Nat × Point2)} {emitted : Triangle Nat}
    (emits : emit? tolerance triangle = some emitted) {position : Nat}
    (member : position ∈ emitted.corners) :
    ∃ corner ∈ triangle.corners, corner.1 = position := by
  dsimp only [emit?] at emits
  split at emits
  · cases emits
  · split at emits
    · cases emits
      simpa [Triangle.corners, Triangle.map, eq_comm] using member
    · cases emits
      simp only [Triangle.corners, Triangle.map, Triangle.reversed, List.mem_cons,
        List.not_mem_nil, or_false] at member ⊢
      rcases member with equal | equal | equal
      · exact ⟨triangle.first, .inl rfl, equal.symm⟩
      · exact ⟨triangle.third, .inr (.inr rfl), equal.symm⟩
      · exact ⟨triangle.second, .inr (.inl rfl), equal.symm⟩

theorem length_indexBuffer (triangles : List (Triangle Nat)) :
    (indexBuffer triangles).length = 3 * triangles.length := by
  induction triangles with
  | nil => rfl
  | cons triangle rest induction =>
      have first : (indexBuffer (triangle :: rest)).length =
          3 + (indexBuffer rest).length := by
        simp [indexBuffer, Triangle.cornerList, Triangle.corners]
        omega
      rw [first, induction, List.length_cons]
      omega

theorem length_indexBuffer_div (triangles : List (Triangle Nat)) :
    (indexBuffer triangles).length / 3 = triangles.length := by
  rw [length_indexBuffer, Nat.mul_div_cancel_left _ (Nat.zero_lt_succ 2)]

theorem length_indexBuffer_eq (triangles : List (Triangle Nat)) :
    (indexBuffer triangles).length = 3 * ((indexBuffer triangles).length / 3) := by
  rw [length_indexBuffer_div, length_indexBuffer]

theorem indexBuffer_triangleList {triangles : List (Triangle Nat)} {vertexCount : Nat}
    (below : ∀ triangle ∈ triangles, ∀ position ∈ triangle.corners,
      position < vertexCount) :
    TriangleList (indexBuffer triangles) vertexCount where
  triples := by
    rw [length_indexBuffer]
    exact Nat.mul_mod_right 3 _
  below := by
    intro index member
    rcases List.mem_map.mp member with ⟨position, inCorners, rfl⟩
    rcases List.mem_flatMap.mp inCorners with ⟨triangle, inTriangles, inTriangle⟩
    have bound := below triangle inTriangles position inTriangle
    have wraps : (UInt32.ofNat position).toNat ≤ position := by
      rw [UInt32.toNat_ofNat']
      exact Nat.mod_le _ _
    exact Nat.lt_of_le_of_lt wraps bound

/-- What is emitted of triangles cut from a choice lies within the vertices that the
choice was made from. -/
theorem emitted_triangleList (tolerance : Tolerance) (normal : Vec3)
    (outline : List Point3) (holes : List (List Point3))
    (triangles : List (Triangle (Fin (chosen normal outline holes).points.length))) :
    TriangleList
      (indexBuffer (triangles.filterMap fun triangle =>
        emit? tolerance (triangle.map (storedChoice normal outline holes))))
      (outline :: holes).flatten.length := by
  apply indexBuffer_triangleList
  intro emitted member position inEmitted
  rcases List.mem_filterMap.mp member with ⟨triangle, _, emits⟩
  rcases mem_corners_of_emit? emits inEmitted with ⟨corner, inTriangle, equal⟩
  rw [← equal]
  simp only [Triangle.corners, Triangle.map, List.mem_cons, List.not_mem_nil,
    or_false] at inTriangle
  rcases inTriangle with rfl | rfl | rfl
  all_goals exact storedChoice_lt normal outline holes _

end EarClipTessellator

end PlanarMesh

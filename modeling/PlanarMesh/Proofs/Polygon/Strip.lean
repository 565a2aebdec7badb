import Mathlib.Data.List.Count
import Mathlib.Tactic.MkIffOfInductiveProp
import PlanarMesh.Geometry.Plane
import PlanarMesh.Proofs.Polygon.Outcome

/-! # The triangles of a fan

Triangles over a loop cover it once if each edge of the loop belongs to one triangle and
every other edge is shared by two, which run through it in opposite directions. The
triangles that a polygon gets without a tessellator lie one behind the other like those
of a strip, each on the last two corners of the one before. They do not come back to
the first corner. So they cover a loop of three vertices and no longer one.
-/

namespace PlanarMesh

namespace Triangle

variable {α : Type}

def edges (triangle : Triangle α) : List (α × α) :=
  [(triangle.first, triangle.second), (triangle.second, triangle.third),
    (triangle.third, triangle.first)]

def edgeList (triangles : List (Triangle α)) : List (α × α) :=
  triangles.flatMap edges

theorem cornerList_injective : Function.Injective (cornerList (α := α)) := by
  intro left right equal
  induction left generalizing right with
  | nil =>
      cases right with
      | nil => rfl
      | cons triangle rest => cases equal
  | cons triangle rest induction =>
      cases right with
      | nil => cases equal
      | cons other others =>
          cases triangle
          cases other
          injection equal with first equal
          injection equal with second equal
          injection equal with third equal
          cases first
          cases second
          cases third
          rw [induction equal]

end Triangle

/-! ## Covering a loop -/

/-- Triangles over the places of a loop cover it once. An edge from a place to the next
one, or from the last place to the first, belongs to one triangle; any other edge is
shared by two. -/
@[mk_iff] structure Triangulates (size : Nat) (triangles : List (Triangle Nat)) : Prop where
  total : triangles.length = size - 2
  below : ∀ triangle ∈ triangles, ∀ corner ∈ triangle.corners, corner < size
  boundary : ∀ place < size,
    (Triangle.edgeList triangles).count (place, (place + 1) % size) = 1
  inner : ∀ edge ∈ Triangle.edgeList triangles, edge.2 ≠ (edge.1 + 1) % size →
    (Triangle.edgeList triangles).count edge = 1 ∧
      (Triangle.edgeList triangles).count edge.swap = 1
  shared : ∀ triangle ∈ triangles, ∀ edge ∈ triangle.edges, edge.swap ∉ triangle.edges

instance (size : Nat) (triangles : List (Triangle Nat)) :
    Decidable (Triangulates size triangles) :=
  decidable_of_iff' _ (triangulates_iff size triangles)

def Triangulated (size : Nat) (indices : List UInt32) : Prop :=
  ∃ triangles, indices.map UInt32.toNat = Triangle.cornerList triangles ∧
    Triangulates size triangles

/-! ## Strips -/

/-- Triangles over consecutive places, each on the last two of the one before. -/
def strip (size : Nat) : List (Triangle Nat) :=
  (List.range (size - 2)).map fun place => ⟨place, place + 1, place + 2⟩

theorem strip_of_few {size : Nat} (few : size ≤ 2) : strip size = [] := by
  rw [strip, Nat.sub_eq_zero_of_le few]
  rfl

theorem strip_succ (size : Nat) :
    strip (size + 2 + 1) = strip (size + 2) ++ [⟨size, size + 1, size + 2⟩] := by
  have range : size + 2 + 1 - 2 = size + 1 := by omega
  rw [strip, strip, range, Nat.add_sub_cancel, List.range_succ, List.map_append]
  rfl

theorem count_edgeList_strip (size start next : Nat) :
    (Triangle.edgeList (strip size)).count (start, next) =
      (if next = start + 1 ∧ next + 1 < size then 1 else 0) +
        (if next = start + 1 ∧ 0 < start ∧ next < size then 1 else 0) +
        (if start = next + 2 ∧ start < size then 1 else 0) := by
  induction size with
  | zero => simp [strip_of_few, Triangle.edgeList]
  | succ size induction =>
      rcases Nat.lt_or_ge size 2 with few | many
      · rw [strip_of_few few, Triangle.edgeList, List.flatMap_nil, List.count_nil]
        split_ifs <;> omega
      · rcases Nat.exists_eq_add_of_le' many with ⟨size, rfl⟩
        -- Each of the three sides of the last triangle adds to one of the summands.
        have first : (if next = start + 1 ∧ next + 1 < size + 2 + 1 then 1 else 0) =
            (if next = start + 1 ∧ next + 1 < size + 2 then 1 else 0) +
              (if size = start ∧ size + 1 = next then 1 else 0) := by
          split_ifs <;> omega
        have second : (if next = start + 1 ∧ 0 < start ∧ next < size + 2 + 1 then 1 else 0) =
            (if next = start + 1 ∧ 0 < start ∧ next < size + 2 then 1 else 0) +
              (if size + 1 = start ∧ size + 2 = next then 1 else 0) := by
          split_ifs <;> omega
        have third : (if start = next + 2 ∧ start < size + 2 + 1 then 1 else 0) =
            (if start = next + 2 ∧ start < size + 2 then 1 else 0) +
              (if size + 2 = start ∧ size = next then 1 else 0) := by
          split_ifs <;> omega
        rw [strip_succ, Triangle.edgeList, List.flatMap_append, List.count_append,
          ← Triangle.edgeList, induction, first, second, third]
        simp only [List.flatMap_cons, List.flatMap_nil, Triangle.edges, List.append_nil,
          List.count_cons, List.count_nil, beq_iff_eq, Prod.mk.injEq]
        omega

theorem count_strip_back {size place : Nat} (inRange : place + 2 < size) :
    (Triangle.edgeList (strip size)).count (place + 2, place) = 1 := by
  rw [count_edgeList_strip]
  split_ifs <;> omega

section Size

variable {size : Nat} (enough : 3 ≤ size)

include enough

theorem count_strip_forward {place : Nat} (inRange : place + 1 < size) :
    (Triangle.edgeList (strip size)).count (place, place + 1) =
      if 0 < place ∧ place + 2 < size then 2 else 1 := by
  rw [count_edgeList_strip]
  split_ifs <;> omega

/-- The edge from the last place to the first closes the one triangle of a strip or is
not there. -/
theorem count_strip_closing :
    (Triangle.edgeList (strip size)).count (size - 1, 0) = if size = 3 then 1 else 0 := by
  have notForward : 0 ≠ size - 1 + 1 := by omega
  rw [count_edgeList_strip, if_neg fun forward => notForward forward.1,
    if_neg fun forward => notForward forward.1]
  split_ifs <;> omega

theorem mem_edgeList_strip {edge : Nat × Nat} :
    edge ∈ Triangle.edgeList (strip size) ↔
      (edge.2 = edge.1 + 1 ∧ edge.2 < size) ∨ (edge.1 = edge.2 + 2 ∧ edge.1 < size) := by
  rcases edge with ⟨start, next⟩
  rw [← List.count_pos_iff, count_edgeList_strip]
  dsimp only
  split_ifs <;> omega

theorem triangulates_strip_iff : Triangulates size (strip size) ↔ size = 3 := by
  constructor
  · intro triangulates
    have closing := triangulates.boundary (size - 1) (by omega)
    have around : (size - 1 + 1) % size = 0 := by
      rw [Nat.sub_add_cancel (by omega), Nat.mod_self]
    rw [around, count_strip_closing enough] at closing
    by_contra longer
    rw [if_neg longer] at closing
    cases closing
  · rintro rfl
    decide

end Size

theorem triangulated_iff {size : Nat} {indices : List UInt32}
    {triangles : List (Triangle Nat)}
    (corners : indices.map UInt32.toNat = Triangle.cornerList triangles) :
    Triangulated size indices ↔ Triangulates size triangles := by
  constructor
  · rintro ⟨others, same, triangulates⟩
    rwa [Triangle.cornerList_injective (corners.symm.trans same)]
  · intro triangulates
    exact ⟨triangles, corners, triangulates⟩

/-! ## Fans -/

namespace Polygon

theorem map_toNat_fanIndices {vertexCount : Nat} (small : vertexCount ≤ UInt32.size) :
    (fanIndices vertexCount).map UInt32.toNat = Triangle.cornerList (strip vertexCount) := by
  rw [fanIndices, List.map_flatMap, Triangle.cornerList, strip, List.flatMap_map]
  apply List.flatMap_congr
  intro position member
  rcases toNat_fanCorners small (List.mem_range.mp member) with ⟨first, second, third⟩
  simp only [List.map_cons, List.map_nil, first, second, third, Triangle.corners]

/-- Finishing a polygon of one ring without a tessellator emits a strip over the ring's
vertices. Of its edges those along the ring belong to two triangles, except the first
and the last of them, and each edge back belongs to one. The strip covers the ring if
that has three vertices, and else leaves out the edge that closes it. -/
theorem triangulated_finish_iff {τ : Type} [Tessellator τ] {polygon : Polygon} {ring : Ring}
    (isOpen : polygon.isFinished = false) (outline : polygon.exterior = some ring)
    (alone : polygon.interior = []) (enough : 3 ≤ ring.size)
    (small : ring.size ≤ UInt32.size) (tessellator : τ) (logger : Option Listener) :
    let finished := (polygon.finish ⟨false, false⟩ tessellator logger).value
    let edges := Triangle.edgeList (strip ring.size)
    finished.outcome = .ok () ∧ finished.polygon.vertices = ring.vertices ∧
    finished.polygon.diagnostics.triangleCount = ring.size - 2 ∧
    finished.polygon.indices.map UInt32.toNat = Triangle.cornerList (strip ring.size) ∧
    (∀ place, place + 1 < ring.size →
      edges.count (place, place + 1) =
        if 0 < place ∧ place + 2 < ring.size then 2 else 1) ∧
    (∀ place, place + 2 < ring.size → edges.count (place + 2, place) = 1) ∧
    edges.count (ring.size - 1, 0) = (if ring.size = 3 then 1 else 0) ∧
    (∀ edge, edge ∈ edges ↔
      (edge.2 = edge.1 + 1 ∧ edge.2 < ring.size) ∨
        (edge.1 = edge.2 + 2 ∧ edge.1 < ring.size)) ∧
    (Triangulated ring.size finished.polygon.indices ↔ ring.size = 3) := by
  have vertices : polygon.gathered false = ring.vertices := by
    rw [gathered, rings, outline, alone]
    exact List.append_nil ring.vertices
  have corners := map_toNat_fanIndices small
  dsimp only
  rw [finish_value_of_fan isOpen, vertices, indices_sealed, vertices_sealed,
    diagnostics_sealed]
  refine ⟨rfl, rfl, ?_, corners, fun _ => count_strip_forward enough,
    fun _ => count_strip_back, count_strip_closing enough,
    fun _ => mem_edgeList_strip enough, ?_⟩
  · exact (congrArg (· / 3) (length_fanIndices ring.size)).trans
      (Nat.mul_div_cancel_left _ (by decide))
  · rw [← triangulates_strip_iff enough]
    exact triangulated_iff corners

def pane : Polygon :=
  { named "pane" none with
    exterior := some ⟨"frame", true, [⟨0, 0, 0⟩, ⟨4, 0, 0⟩, ⟨4, 3, 0⟩, ⟨0, 3, 0⟩]⟩ }

theorem triangulated_finish_iff_pane :
    let finished := (pane.finish ⟨false, false⟩ worn none).value
    pane.isFinished = false ∧ pane.interior = [] ∧
      finished.outcome = .ok () ∧
      finished.polygon.indices.map UInt32.toNat = [0, 1, 2, 1, 2, 3] ∧
      (Triangle.edgeList (strip 4)).count (1, 2) = 2 ∧
      (Triangle.edgeList (strip 4)).count (3, 0) = 0 ∧
      ¬Triangulated 4 finished.polygon.indices := by
  have isOpen : pane.isFinished = false := rfl
  rcases triangulated_finish_iff isOpen rfl rfl (by decide) (by decide) worn none with
    ⟨outcome, _, _, corners, forward, _, closing, _, covers⟩
  refine ⟨isOpen, rfl, outcome, corners, forward 1 (by decide), closing, ?_⟩
  exact fun triangulated => absurd (covers.mp triangulated) (by decide)

/-- The strip over a rectangle does not cover it, although two triangles can. -/
theorem pane_not_triangulated :
    let finished := (pane.finish ⟨false, false⟩ worn none).value.polygon
    pane.isFinished = false ∧ pane.exterior.map Ring.size = some 4 ∧ pane.interior = [] ∧
      finished.indices = [0, 1, 2, 1, 2, 3] ∧ ¬Triangulated 4 finished.indices ∧
      Triangulated 4 [0, 1, 2, 0, 2, 3] := by
  have indices :
      (pane.finish ⟨false, false⟩ worn none).value.polygon.indices = [0, 1, 2, 1, 2, 3] := by
    decide +kernel
  have emitted : [0, 1, 2, 1, 2, 3].map UInt32.toNat = Triangle.cornerList (strip 4) := by
    decide
  have fan : Triangulated 4 [0, 1, 2, 0, 2, 3] :=
    ⟨[⟨0, 1, 2⟩, ⟨0, 2, 3⟩], by decide, by decide⟩
  dsimp only
  rw [indices, triangulated_iff emitted]
  exact ⟨rfl, rfl, rfl, rfl, by decide, fan⟩

end Polygon

end PlanarMesh

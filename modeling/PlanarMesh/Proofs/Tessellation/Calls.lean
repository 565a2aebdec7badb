import Mathlib.Data.List.DropRight
import Mathlib.Data.List.Infix
import PlanarMesh.Proofs.Tessellation.Checked

/-! # Calls in any order

A tessellator may be asked to compute before it has a contour, twice in a row, or
between contours, and it may begin anew at any time. Its vertices are always those of
the contours added since it last began, and its index buffer, even one computed earlier,
stays within them. Over one buffer no such order of calls leads to an access that is out
of range.
-/

namespace PlanarMesh

inductive Call where
  | init (expectedVertexCount : Nat) (normal : Vec3)
  | addContour (contour : List Point3)
  | compute

namespace Call

def begins : Call → Bool
  | .init _ _ => true
  | _ => false

def contour? : Call → Option (List Point3)
  | .addContour contour => some contour
  | _ => none

end Call

/-- The contours added after the last call that begins anew. -/
def addedContours (calls : List Call) : List (List Point3) :=
  (calls.rtakeWhile fun call => !call.begins).filterMap Call.contour?

theorem addedContours_append_init (calls : List Call) (expectedVertexCount : Nat)
    (normal : Vec3) : addedContours (calls ++ [.init expectedVertexCount normal]) = [] := by
  rw [addedContours, List.rtakeWhile_concat]
  rfl

theorem addedContours_append_addContour (calls : List Call) (contour : List Point3) :
    addedContours (calls ++ [.addContour contour]) = addedContours calls ++ [contour] := by
  rw [addedContours, List.rtakeWhile_concat]
  exact List.filterMap_append

theorem addedContours_append_compute (calls : List Call) :
    addedContours (calls ++ [.compute]) = addedContours calls := by
  rw [addedContours, List.rtakeWhile_concat]
  change ((calls.rtakeWhile fun call => !call.begins) ++ [Call.compute]).filterMap
    Call.contour? = _
  rw [List.filterMap_append]
  exact List.append_nil _

theorem TriangleList.mono {indices : List UInt32} {vertexCount larger : Nat}
    (triangles : TriangleList indices vertexCount) (atMost : vertexCount ≤ larger) :
    TriangleList indices larger where
  triples := triangles.triples
  below := by
    intro index member
    exact Nat.lt_of_lt_of_le (triangles.below index member) atMost

/-! ## Over contours -/

namespace EarClipTessellator

def after (cut : Cutter) (tessellator : EarClipTessellator) : Call → EarClipTessellator
  | .init _ normal => tessellator.init normal
  | .addContour contour => tessellator.addContour contour
  | .compute => (tessellator.computeBy cut).value.2

def afterAll (cut : Cutter) (tessellator : EarClipTessellator) (calls : List Call) :
    EarClipTessellator :=
  calls.foldl (after cut) tessellator

variable (cut : Cutter)

theorem contours_afterAll (tolerance : Tolerance) (calls : List Call) :
    ((withTolerance tolerance).afterAll cut calls).contours = addedContours calls := by
  induction calls using List.reverseRecOn with
  | nil => rfl
  | append_singleton calls call induction =>
      rw [afterAll, List.foldl_concat, ← afterAll]
      cases call with
      | init expectedVertexCount normal =>
          rw [addedContours_append_init]
          rfl
      | addContour contour =>
          rw [addedContours_append_addContour, ← induction]
          rfl
      | compute => rw [addedContours_append_compute, after, computeBy_contours, induction]

theorem vertices_afterAll (tolerance : Tolerance) (calls : List Call) :
    ((withTolerance tolerance).afterAll cut calls).vertices = (addedContours calls).flatten := by
  rw [vertices, contours_afterAll]

theorem triangleList_after {tessellator : EarClipTessellator}
    (triangles : TriangleList tessellator.indices tessellator.vertices.length) (call : Call) :
    TriangleList (tessellator.after cut call).indices
      (tessellator.after cut call).vertices.length := by
  cases call with
  | init expectedVertexCount normal => exact .empty _
  | addContour contour =>
      apply triangles.mono
      rw [after, vertices, vertices, addContour, List.flatten_append, List.length_append]
      exact Nat.le_add_right _ _
  | compute =>
      rw [after]
      rcases tessellator.computeBy_cases cut with ⟨_, _, equal⟩ | ⟨_, _, _, equal, computed⟩
      · rw [equal]
        exact .empty _
      · rw [equal]
        exact computed

theorem triangleList_afterAll {tessellator : EarClipTessellator}
    (triangles : TriangleList tessellator.indices tessellator.vertices.length)
    (calls : List Call) :
    TriangleList (tessellator.afterAll cut calls).indices
      (tessellator.afterAll cut calls).vertices.length := by
  induction calls generalizing tessellator with
  | nil => exact triangles
  | cons call rest induction => exact induction (triangleList_after cut triangles call)

end EarClipTessellator

/-! ## Over one buffer -/

namespace RangedTessellator

def after? (cut : EarClipTessellator.Cutter) (tessellator : RangedTessellator) :
    Call → Option RangedTessellator
  | .init _ normal => some (tessellator.init normal)
  | .addContour contour => some (tessellator.addContour contour)
  | .compute => (tessellator.computeBy? cut).map (·.value.2)

def afterAll? (cut : EarClipTessellator.Cutter) (tessellator : RangedTessellator)
    (calls : List Call) : Option RangedTessellator :=
  calls.foldlM (after? cut) tessellator

theorem addContour_ranged (tessellator : EarClipTessellator) (contour : List Point3) :
    tessellator.ranged.addContour contour = (tessellator.addContour contour).ranged := by
  have vertices : (tessellator.addContour contour).vertices =
      tessellator.vertices ++ contour := by
    simp only [EarClipTessellator.vertices, EarClipTessellator.addContour,
      List.flatten_append, List.flatten_singleton]
  have ranges : spansFrom 0 (tessellator.addContour contour).contours =
      spansFrom 0 tessellator.contours ++
        [⟨tessellator.vertices.length, (tessellator.vertices ++ contour).length⟩] := by
    rw [EarClipTessellator.addContour, spansFrom_append_singleton, Nat.zero_add,
      List.length_append]
    rfl
  rw [EarClipTessellator.ranged.eq_def (tessellator.addContour contour), vertices, ranges]
  rfl

variable {cut : EarClipTessellator.Cutter}

theorem after?_ranged {tessellator : EarClipTessellator}
    (small : tessellator.vertices.length ≤ UInt32.size) (call : Call) :
    tessellator.ranged.after? cut call = some (tessellator.after cut call).ranged := by
  cases call with
  | init expectedVertexCount normal => rfl
  | addContour contour => exact congrArg some (addContour_ranged tessellator contour)
  | compute =>
      rw [after?, computeBy?_ranged cut tessellator small]
      rfl

theorem afterAll?_ranged {tessellator : EarClipTessellator} {calls : List Call}
    (small : ∀ earlier, earlier <+: calls →
      (tessellator.afterAll cut earlier).vertices.length ≤ UInt32.size) :
    tessellator.ranged.afterAll? cut calls = some (tessellator.afterAll cut calls).ranged := by
  induction calls generalizing tessellator with
  | nil => rfl
  | cons call rest induction =>
      have smallFirst : tessellator.vertices.length ≤ UInt32.size :=
        small [] List.nil_prefix
      have smallRest : ∀ earlier, earlier <+: rest →
          ((tessellator.after cut call).afterAll cut earlier).vertices.length ≤ UInt32.size := by
        intro earlier before
        exact small (call :: earlier) (List.cons_prefix_cons.mpr ⟨rfl, before⟩)
      rw [afterAll?, List.foldlM_cons, after?_ranged smallFirst]
      exact induction smallRest

end RangedTessellator

/-- However points are cut, no call reads out of range. After any calls the ranges follow
one another up to the end of the vertex buffer and hold the contours added since the
tessellator last began, and the index buffer has triangles over that vertex buffer.
Computing once more stays in range as well. -/
theorem EarClipTessellator.afterAll_inRange (cut : Cutter) (tolerance : Tolerance)
    (calls : List Call)
    (small : ∀ earlier, earlier <+: calls →
      ((withTolerance tolerance).afterAll cut earlier).vertices.length ≤ UInt32.size) :
    let tessellator := (withTolerance tolerance).afterAll cut calls
    tessellator.vertices = (addedContours calls).flatten ∧
      TriangleList tessellator.indices tessellator.vertices.length ∧
      ∃ ranged, (RangedTessellator.withTolerance tolerance).afterAll? cut calls = some ranged ∧
        ranged.vertices = tessellator.vertices ∧
        ranged.indices = tessellator.indices ∧
        ranged.statistics = tessellator.statistics ∧
        Consecutive 0 ranged.vertices.length ranged.ranges ∧
        ranged.ranges.map (·.slice? ranged.vertices) = (addedContours calls).map some ∧
        ∃ answer, ranged.computeBy? cut = some answer ∧
          answer.value.1 = (tessellator.computeBy cut).value.1 ∧
          answer.emissions = (tessellator.computeBy cut).emissions := by
  intro tessellator
  have contours : tessellator.contours = addedContours calls :=
    contours_afterAll cut tolerance calls
  have smallNow : tessellator.vertices.length ≤ UInt32.size := small calls List.prefix_rfl
  have consecutive : Consecutive 0 tessellator.vertices.length
      (spansFrom 0 tessellator.contours) := by
    have follow := consecutive_spansFrom 0 tessellator.contours
    rwa [Nat.zero_add] at follow
  have slices : (spansFrom 0 tessellator.contours).map (·.slice? tessellator.vertices) =
      (addedContours calls).map some := by
    rw [← contours]
    exact map_slice?_spansFrom [] tessellator.contours
  have computed := RangedTessellator.computeBy?_ranged cut tessellator smallNow
  refine ⟨vertices_afterAll cut tolerance calls, triangleList_afterAll cut (.empty _) calls,
    tessellator.ranged, RangedTessellator.afterAll?_ranged small, rfl, rfl, rfl, consecutive,
    slices, _, computed, rfl, ?_⟩
  exact Logged.emissions_map _ _

def lateHole : List Call :=
  [.compute,
    .init 4 Vec3.unitZ,
    .addContour [⟨0, 0, 0⟩, ⟨4, 0, 0⟩, ⟨4, 4, 0⟩, ⟨0, 4, 0⟩],
    .compute,
    .addContour [⟨1, 1, 0⟩, ⟨1, 2, 0⟩, ⟨2, 1, 0⟩]]

theorem EarClipTessellator.afterAll_inRange_lateHole :
    ∃ ranged,
      (RangedTessellator.withTolerance .general).afterAll? EarClip.triangulate lateHole =
        some ranged ∧
      ranged.vertices.length = 7 ∧ ranged.indices.length = 6 ∧
      Consecutive 0 7 ranged.ranges ∧
      ∃ answer, ranged.computeBy? EarClip.triangulate = some answer := by
  have small : ∀ earlier, earlier <+: lateHole →
      ((withTolerance .general).afterAll EarClip.triangulate earlier).vertices.length ≤
        UInt32.size := by
    have short : ∀ earlier ∈ lateHole.inits,
        (addedContours earlier).flatten.length ≤ UInt32.size := by
      decide +kernel
    intro earlier before
    rw [vertices_afterAll]
    exact short earlier ((List.mem_inits _ _).mpr before)
  have vertexCount :
      ((withTolerance .general).afterAll EarClip.triangulate lateHole).vertices.length = 7 := by
    decide +kernel
  have indexCount :
      ((withTolerance .general).afterAll EarClip.triangulate lateHole).indices.length = 6 := by
    decide +kernel
  rcases afterAll_inRange EarClip.triangulate .general lateHole small with
    ⟨_, _, ranged, inRange, vertices, indices, _, consecutive, _, answer, answers, _⟩
  rw [vertices, vertexCount] at consecutive
  rw [← vertices] at vertexCount
  rw [← indices] at indexCount
  exact ⟨ranged, inRange, vertexCount, indexCount, consecutive, answer, answers⟩

end PlanarMesh

import PlanarMesh.Proofs.Tessellation.Calls

/-! # Failed computations

A computation fails for one of two reasons: a contour has a vertex that is not finite, and
the first such contour is named, or finite contours cannot be cut. Nothing of an earlier
computation is left then. What is computed follows from the tolerance, the last call that
began anew and the contours since.
-/

namespace PlanarMesh

/-! ## The first contour that is not finite -/

/-- The contour of this number has a vertex that is not finite, and none before it has. -/
structure FirstNonFinite (contours : List (List Point3)) (number : Nat) : Prop where
  here : ∃ contour, contours[number]? = some contour ∧
    ∃ vertex ∈ contour, vertex.isFinite = false
  before : ∀ earlier < number, ∀ contour, contours[earlier]? = some contour →
    ∀ vertex ∈ contour, vertex.isFinite = true

namespace EarClipTessellator

theorem any_nonFinite_iff (contour : List Point3) :
    (contour.any fun vertex => !vertex.isFinite) = true ↔
      ∃ vertex ∈ contour, vertex.isFinite = false := by
  simp only [List.any_eq_true, Bool.not_eq_true']

theorem firstNonFinite?_eq_some_iff {contours : List (List Point3)} {number : Nat} :
    firstNonFinite? contours = some number ↔ FirstNonFinite contours number := by
  rw [firstNonFinite?, List.findIdx?_eq_some_iff_getElem]
  constructor
  · rintro ⟨inside, found, finite⟩
    refine ⟨⟨contours[number], List.getElem?_eq_getElem inside,
      (any_nonFinite_iff _).mp found⟩, ?_⟩
    intro earlier before contour there vertex member
    rcases List.getElem?_eq_some_iff.mp there with ⟨_, rfl⟩
    cases isFinite : vertex.isFinite with
    | true => rfl
    | false =>
        have found := (any_nonFinite_iff _).mpr ⟨vertex, member, isFinite⟩
        exact absurd found (finite earlier before)
  · rintro ⟨⟨contour, there, nonFinite⟩, before⟩
    rcases List.getElem?_eq_some_iff.mp there with ⟨inside, rfl⟩
    refine ⟨inside, (any_nonFinite_iff _).mpr nonFinite, ?_⟩
    intro earlier smaller found
    rcases (any_nonFinite_iff _).mp found with ⟨vertex, member, isFinite⟩
    rw [before earlier smaller _ (List.getElem?_eq_getElem _) vertex member] at isFinite
    cases isFinite

theorem firstNonFinite?_eq_none_iff {contours : List (List Point3)} :
    firstNonFinite? contours = none ↔
      ∀ vertex ∈ contours.flatten, vertex.isFinite = true := by
  constructor
  · intro finite vertex member
    exact finite_of_firstNonFinite?_eq_none finite member
  · intro finite
    apply List.findIdx?_eq_none_iff.mpr
    intro contour member
    rw [List.any_eq_false]
    intro vertex inContour
    rw [finite vertex (List.mem_flatten_of_mem member inContour)]
    exact Bool.false_ne_true

theorem exists_firstNonFinite_iff {contours : List (List Point3)} :
    (∃ number, FirstNonFinite contours number) ↔
      ∃ contour ∈ contours, ∃ vertex ∈ contour, vertex.isFinite = false := by
  constructor
  · rintro ⟨number, first⟩
    rcases first.here with ⟨contour, there, nonFinite⟩
    exact ⟨contour, List.mem_of_getElem? there, nonFinite⟩
  · rintro ⟨contour, member, vertex, inContour, isFinite⟩
    cases found : firstNonFinite? contours with
    | some number => exact ⟨number, firstNonFinite?_eq_some_iff.mp found⟩
    | none =>
        rw [firstNonFinite?_eq_none_iff] at found
        rw [found vertex (List.mem_flatten_of_mem member inContour)] at isFinite
        cases isFinite

/-! ## Reasons for a failure -/

/-- Finite contours with an outline of at least three points that cannot be cut. This many
points were to be cut. -/
structure Uncuttable (cut : Cutter) (tessellator : EarClipTessellator) (pointCount : Nat) :
    Prop where
  finite : ∀ vertex ∈ tessellator.vertices, vertex.isFinite = true
  uncut : ∃ outline holes, tessellator.contours = outline :: holes ∧ 3 ≤ outline.length ∧
    cut (chosen tessellator.normal outline holes).points
      (chosen tessellator.normal outline holes).holeStarts = none ∧
    (chosen tessellator.normal outline holes).points.length = pointCount

section Reasons

variable {cut : Cutter} {tessellator : EarClipTessellator}

theorem computeBy_of_uncuttable {pointCount : Nat}
    (uncuttable : tessellator.Uncuttable cut pointCount) :
    ∃ skipped, (tessellator.computeBy cut).value =
      (.error (.failed pointCount),
        { tessellator.begun with
          statistics :=
            { tessellator.begun.statistics with skippedContourCount := skipped } }) := by
  rcases uncuttable.uncut with ⟨outline, holes, contours, long, uncut, rfl⟩
  have finite : firstNonFinite? tessellator.contours = none :=
    firstNonFinite?_eq_none_iff.mpr uncuttable.finite
  rw [computeBy_of_outline finite contours (Nat.not_lt.mpr long),
    tessellator.begun.cutContours_of_failure uncut, Selection.points, List.length_map]
  exact ⟨_, rfl⟩

theorem computeBy_of_firstNonFinite {number : Nat}
    (first : FirstNonFinite tessellator.contours number) :
    (tessellator.computeBy cut).value = (.error (.nonFinite number), tessellator.begun) :=
  computeBy_of_nonFinite (firstNonFinite?_eq_some_iff.mpr first)

theorem reason_of_error {cause : TessellationError}
    (failed : (tessellator.computeBy cut).value.1 = .error cause) :
    (∃ number, cause = .nonFinite number ∧ FirstNonFinite tessellator.contours number) ∨
      ∃ pointCount, cause = .failed pointCount ∧ tessellator.Uncuttable cut pointCount := by
  cases finite : firstNonFinite? tessellator.contours with
  | some number =>
      rw [computeBy_of_nonFinite finite] at failed
      cases failed
      exact .inl ⟨number, rfl, firstNonFinite?_eq_some_iff.mp finite⟩
  | none =>
      by_cases short : (tessellator.contours.headD []).length < 3
      · rw [computeBy_of_short finite short] at failed
        cases failed
      · rcases exists_outline short with ⟨outline, holes, contours, long⟩
        rw [computeBy_of_outline finite contours long] at failed
        cases answer : cut (chosen tessellator.normal outline holes).points
            (chosen tessellator.normal outline holes).holeStarts with
        | none =>
            rw [tessellator.begun.cutContours_of_failure answer] at failed
            cases failed
            exact .inr ⟨_, rfl, firstNonFinite?_eq_none_iff.mp finite, outline, holes,
              contours, Nat.not_lt.mp long, answer, List.length_map _⟩
        | some triangles =>
            rw [tessellator.begun.cutContours_of_success answer] at failed
            cases failed

theorem computeBy_nonFinite_iff {number : Nat} :
    (tessellator.computeBy cut).value.1 = .error (.nonFinite number) ↔
      FirstNonFinite tessellator.contours number := by
  constructor
  · intro failed
    rcases reason_of_error failed with ⟨own, same, first⟩ | ⟨own, same, _⟩
    · cases same
      exact first
    · cases same
  · intro first
    rw [computeBy_of_firstNonFinite first]

theorem computeBy_failed_iff {pointCount : Nat} :
    (tessellator.computeBy cut).value.1 = .error (.failed pointCount) ↔
      tessellator.Uncuttable cut pointCount := by
  constructor
  · intro failed
    rcases reason_of_error failed with ⟨own, same, _⟩ | ⟨own, same, uncuttable⟩
    · cases same
    · cases same
      exact uncuttable
  · intro uncuttable
    rcases computeBy_of_uncuttable uncuttable with ⟨_, equal⟩
    rw [equal]

/-- A failed computation leaves the tessellator as it was when the computation began, but
for the number of contours it had left out by then. -/
theorem computeBy_of_error {cause : TessellationError}
    (failed : (tessellator.computeBy cut).value.1 = .error cause) :
    ∃ skipped, (tessellator.computeBy cut).value.2 =
      { tessellator.begun with
        statistics :=
          { tessellator.begun.statistics with skippedContourCount := skipped } } := by
  rcases reason_of_error failed with ⟨number, _, first⟩ | ⟨pointCount, _, uncuttable⟩
  · rw [computeBy_of_firstNonFinite first]
    exact ⟨0, rfl⟩
  · rcases computeBy_of_uncuttable uncuttable with ⟨skipped, equal⟩
    rw [equal]
    exact ⟨skipped, rfl⟩

end Reasons

/-! ## Computing again -/

theorem computeBy_begun (cut : Cutter) (tessellator : EarClipTessellator) :
    tessellator.begun.computeBy cut = tessellator.computeBy cut := rfl

theorem computeBy_computeBy (cut : Cutter) (tessellator : EarClipTessellator) :
    (tessellator.computeBy cut).value.2.computeBy cut = tessellator.computeBy cut := by
  rw [← computeBy_begun cut (tessellator.computeBy cut).value.2, begun_computeBy, computeBy_begun]

/-! ## Only the last calls matter -/

/-- The last call that begins anew, and the contours after it. -/
def recentCalls (calls : List Call) : List Call :=
  (calls.filter Call.begins).getLast?.toList ++ (addedContours calls).map .addContour

theorem recentCalls_append_init (calls : List Call) (expectedVertexCount : Nat)
    (normal : Vec3) :
    recentCalls (calls ++ [.init expectedVertexCount normal]) =
      [.init expectedVertexCount normal] := by
  have last : (calls ++ [Call.init expectedVertexCount normal]).filter Call.begins =
      calls.filter Call.begins ++ [.init expectedVertexCount normal] :=
    List.filter_append ..
  rw [recentCalls, addedContours_append_init, last, List.getLast?_concat]
  rfl

theorem recentCalls_append_addContour (calls : List Call) (contour : List Point3) :
    recentCalls (calls ++ [.addContour contour]) =
      recentCalls calls ++ [.addContour contour] := by
  have others : (calls ++ [Call.addContour contour]).filter Call.begins =
      calls.filter Call.begins := by
    rw [List.filter_append]
    exact List.append_nil _
  rw [recentCalls, addedContours_append_addContour, others, List.map_append,
    ← List.append_assoc]
  rfl

theorem recentCalls_append_compute (calls : List Call) :
    recentCalls (calls ++ [.compute]) = recentCalls calls := by
  have others : (calls ++ [Call.compute]).filter Call.begins = calls.filter Call.begins := by
    rw [List.filter_append]
    exact List.append_nil _
  rw [recentCalls, addedContours_append_compute, others]
  rfl

theorem afterAll_append_singleton (cut : Cutter) (tessellator : EarClipTessellator)
    (calls : List Call) (call : Call) :
    tessellator.afterAll cut (calls ++ [call]) =
      (tessellator.afterAll cut calls).after cut call :=
  List.foldl_concat ..

theorem tolerance_afterAll (cut : Cutter) (tolerance : Tolerance) (calls : List Call) :
    ((withTolerance tolerance).afterAll cut calls).tolerance = tolerance := by
  induction calls using List.reverseRecOn with
  | nil => rfl
  | append_singleton calls call induction =>
      rw [afterAll_append_singleton]
      cases call with
      | init expectedVertexCount normal => exact induction
      | addContour contour => exact induction
      | compute =>
          rw [after, computeBy_tolerance]
          exact induction

theorem begun_after (cut : Cutter) (tessellator : EarClipTessellator) (call : Call) :
    (tessellator.after cut call).begun = (tessellator.begun.after cut call).begun := by
  cases call with
  | init expectedVertexCount normal => rfl
  | addContour contour => rfl
  | compute => rw [after, after, computeBy_begun]

-- The states themselves differ, in what an earlier computation left. So they are compared
-- by what a computation would begin with, which each call carries on.
/-- A computation begins as it would if only the recent calls had been made. -/
theorem begun_afterAll (cut : Cutter) (tolerance : Tolerance) (calls : List Call) :
    ((withTolerance tolerance).afterAll cut calls).begun =
      ((withTolerance tolerance).afterAll cut (recentCalls calls)).begun := by
  induction calls using List.reverseRecOn with
  | nil => rfl
  | append_singleton calls call induction =>
      rw [afterAll_append_singleton]
      cases call with
      | init expectedVertexCount normal =>
          rw [recentCalls_append_init, after, init, tolerance_afterAll]
          rfl
      | addContour contour =>
          rw [recentCalls_append_addContour, afterAll_append_singleton, begun_after,
            induction, ← begun_after]
      | compute => rw [recentCalls_append_compute, after, begun_computeBy, induction]

/-- After any calls a computation keeps the settings and the contours, and it names the
first contour that is not finite if there is one. Nothing of an earlier success is left
when it fails. Computing again computes the same, and so does a tessellator that was told
only to begin anew and then the contours since. -/
theorem compute_afterAll (cut : Cutter) (tolerance : Tolerance) (calls : List Call) :
    let tessellator := (withTolerance tolerance).afterAll cut calls
    let outcome := (tessellator.computeBy cut).value.1
    let computed := (tessellator.computeBy cut).value.2
    (computed.tolerance = tessellator.tolerance ∧ computed.normal = tessellator.normal ∧
      computed.vertices = tessellator.vertices ∧
      computed.contours = tessellator.contours) ∧
    (∀ number, outcome = .error (.nonFinite number) ↔
      FirstNonFinite tessellator.contours number) ∧
    (∀ cause, outcome = .error cause →
      computed.indices = [] ∧ computed.statistics.outputTriangleCount = 0 ∧
        computed.statistics.culledTriangleCount = 0) ∧
    computed.computeBy cut = tessellator.computeBy cut ∧
    tessellator.computeBy cut =
      ((withTolerance tolerance).afterAll cut (recentCalls calls)).computeBy cut := by
  intro tessellator outcome computed
  have contours : computed.contours = tessellator.contours := tessellator.computeBy_contours cut
  have vertices : computed.vertices = tessellator.vertices := congrArg List.flatten contours
  refine ⟨⟨tessellator.computeBy_tolerance cut, tessellator.computeBy_normal cut, vertices,
      contours⟩,
    fun _ => computeBy_nonFinite_iff, ?_, tessellator.computeBy_computeBy cut, ?_⟩
  · intro cause failed
    rcases computeBy_of_error failed with ⟨skipped, equal⟩
    rw [show computed = _ from equal]
    exact ⟨rfl, rfl, rfl⟩
  · rw [← computeBy_begun, begun_afterAll, computeBy_begun]

def chipped : List Call :=
  [.addContour [⟨5, 5, 5⟩],
    .init 4 Vec3.unitZ,
    .addContour [⟨0, 0, 0⟩, ⟨4, 0, 0⟩, ⟨4, 4, 0⟩, ⟨0, 4, 0⟩],
    .compute,
    .addContour [⟨0, 1.0 / 0.0, 0⟩],
    .addContour [⟨1, 1, 0⟩, ⟨0.0 / 0.0, 2, 0⟩]]

theorem compute_afterAll_chipped :
    let tessellator := (withTolerance .general).afterAll EarClip.triangulate chipped
    tessellator.indices.length = 6 ∧
      (tessellator.computeBy EarClip.triangulate).value.1 = .error (.nonFinite 1) ∧
      (tessellator.computeBy EarClip.triangulate).value.2.indices = [] ∧
      ((tessellator.computeBy EarClip.triangulate).value.2.computeBy
        EarClip.triangulate).value.1 = .error (.nonFinite 1) := by
  have six :
      ((withTolerance .general).afterAll EarClip.triangulate chipped).indices.length = 6 := by
    decide +kernel
  have first : FirstNonFinite
      ((withTolerance .general).afterAll EarClip.triangulate chipped).contours 1 := by
    rw [contours_afterAll, ← firstNonFinite?_eq_some_iff]
    decide +kernel
  rcases compute_afterAll EarClip.triangulate .general chipped with ⟨_, names, fails, again, _⟩
  have failed := (names 1).mpr first
  exact ⟨six, failed, (fails _ failed).1, (congrArg (·.value.1) again).trans failed⟩

end EarClipTessellator

end PlanarMesh

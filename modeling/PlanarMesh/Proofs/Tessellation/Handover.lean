import PlanarMesh.Proofs.Tessellation.Failure
import PlanarMesh.Proofs.Tessellation.Remap

/-! # What is handed over for cutting

Cutting is asked for once, over the outline and the holes that were accepted. Leaving a
hole out shifts the points and the starts of the holes behind it, but not the positions
in the vertex buffer. Whatever was left out, the points, their sources and the starts fit
together. A short outline is not handed over at all.
-/

namespace PlanarMesh

/-! ## Flat coordinates -/

def flatCoords (points : List Point2) : List Float :=
  points.flatMap fun point => [point.u, point.v]

theorem flatCoords_cons (point : Point2) (rest : List Point2) :
    flatCoords (point :: rest) = point.u :: point.v :: flatCoords rest := rfl

theorem length_flatCoords (points : List Point2) :
    (flatCoords points).length = 2 * points.length := by
  induction points with
  | nil => rfl
  | cons point rest induction =>
      rw [flatCoords_cons, List.length_cons, List.length_cons, induction, List.length_cons,
        Nat.mul_succ]

theorem getElem?_flatCoords (points : List Point2) (place : Nat) :
    (flatCoords points)[2 * place]? = points[place]?.map (·.u) ∧
      (flatCoords points)[2 * place + 1]? = points[place]?.map (·.v) := by
  induction points generalizing place with
  | nil => exact ⟨rfl, rfl⟩
  | cons point rest induction =>
      cases place with
      | zero => exact ⟨rfl, rfl⟩
      | succ place => exact induction place

/-! ## Starts of holes -/

namespace Selection

theorem head?_startsFrom (start : Nat) (contours : List PlacedContour) :
    (startsFrom start contours ++
      [start + (contours.flatMap PlacedContour.corners).length]).head? = some start := by
  cases contours with
  | nil => rfl
  | cons contour rest => rfl

theorem eq_of_head?_startsFrom {start first : Nat} {contours : List PlacedContour}
    (isFirst : (startsFrom start contours).head? = some first) : first = start := by
  cases contours with
  | nil => cases isFirst
  | cons contour rest =>
      cases isFirst
      rfl

/-- From each start to the next one, and from the last one to the end, there are the
points of one contour. -/
theorem isChain_startsFrom (start : Nat) {contours : List PlacedContour}
    (long : ∀ contour ∈ contours, 3 ≤ contour.points.length) :
    (startsFrom start contours ++
      [start + (contours.flatMap PlacedContour.corners).length]).IsChain
        fun earlier later => earlier + 3 ≤ later := by
  induction contours generalizing start with
  | nil => exact List.isChain_singleton _
  | cons contour rest induction =>
      have enough := long contour List.mem_cons_self
      have behind := induction (start + contour.points.length)
        fun other member => long other (List.mem_cons_of_mem contour member)
      rw [startsFrom, List.flatMap_cons, List.length_append, PlacedContour.length_corners,
        ← Nat.add_assoc, List.cons_append, List.isChain_cons, head?_startsFrom]
      refine ⟨?_, behind⟩
      intro next isNext
      cases isNext
      exact Nat.add_le_add_left enough start

theorem length_source_ofContours (outline : PlacedContour) (holes : List PlacedContour) :
    (ofContours outline holes).source.length =
      outline.points.length + (holes.flatMap PlacedContour.corners).length := by
  rw [source, List.length_map, ofContours, List.length_append, PlacedContour.length_corners]

theorem isChain_ofContours (outline : PlacedContour) {holes : List PlacedContour}
    (long : ∀ hole ∈ holes, 3 ≤ hole.points.length) :
    ((ofContours outline holes).holeStarts ++
      [(ofContours outline holes).source.length]).IsChain
        fun earlier later => earlier + 3 ≤ later := by
  rw [length_source_ofContours]
  exact isChain_startsFrom outline.points.length long

theorem length_points (selection : Selection) :
    selection.points.length = selection.source.length := by
  rw [points, source, List.length_map, List.length_map]

end Selection

namespace EarClipTessellator

/-! ## Any way of cutting -/

theorem isOk_concluded (tessellator : EarClipTessellator) {selection : Selection}
    (all : List Point2) (answer : Option (List (Triangle (Fin selection.points.length)))) :
    (tessellator.concluded selection all answer).1.isOk = answer.isSome := by
  cases answer <;> rfl

theorem contourCount_concluded (tessellator : EarClipTessellator) {selection : Selection}
    (all : List Point2) (answer : Option (List (Triangle (Fin selection.points.length)))) :
    (tessellator.concluded selection all answer).2.statistics.contourCount =
      tessellator.statistics.contourCount := by
  cases answer <;> rfl

theorem skippedContourCount_concluded (tessellator : EarClipTessellator)
    {selection : Selection} (all : List Point2)
    (answer : Option (List (Triangle (Fin selection.points.length)))) :
    (tessellator.concluded selection all answer).2.statistics.skippedContourCount =
      tessellator.statistics.skippedContourCount := by
  cases answer <;> rfl

section Outline

variable {tessellator : EarClipTessellator} {outline : List Point3}
  {holes : List (List Point3)}

theorem computeBy_of_finite (cut : Cutter)
    (finite : ∀ vertex ∈ tessellator.vertices, vertex.isFinite = true)
    (contours : tessellator.contours = outline :: holes) (long : 3 ≤ outline.length) :
    tessellator.computeBy cut = tessellator.begun.cutContours cut outline holes :=
  computeBy_of_outline (firstNonFinite?_eq_none_iff.mpr finite) contours (Nat.not_lt.mpr long)

theorem computeBy_eq_of_short (short : (tessellator.contours.headD []).length < 3)
    (cut other : Cutter) : tessellator.computeBy cut = tessellator.computeBy other := by
  rw [computeBy, computeBy]
  cases contours : tessellator.contours with
  | nil => rfl
  | cons outline holes =>
      rw [contours] at short
      simp only [if_pos (show outline.length < 3 from short)]

/-- A computation asks for these points to be cut, and for nothing else. -/
structure Asks (tessellator : EarClipTessellator) (points : List Point2)
    (holeStarts : List Nat) : Prop where
  answered : ∀ cut : Cutter,
    (tessellator.computeBy cut).value.1.isOk = (cut points holeStarts).isSome
  /-- Another answer to another question makes no difference. -/
  nothingElse : ∀ cut other : Cutter, cut points holeStarts = other points holeStarts →
    tessellator.computeBy cut = tessellator.computeBy other

theorem asks_chosen (finite : ∀ vertex ∈ tessellator.vertices, vertex.isFinite = true)
    (contours : tessellator.contours = outline :: holes) (long : 3 ≤ outline.length) :
    tessellator.Asks (chosen tessellator.normal outline holes).points
      (chosen tessellator.normal outline holes).holeStarts where
  answered := by
    intro cut
    rw [computeBy_of_finite cut finite contours long, value_cutContours, isOk_concluded]
    rfl
  nothingElse := by
    intro cut other same
    rw [computeBy_of_finite cut finite contours long,
      computeBy_of_finite other finite contours long]
    apply Logged.ext
    · rw [value_cutContours, value_cutContours]
      exact congrArg _ same
    · rfl

end Outline

/-! ## Sources -/

theorem acceptedSpans_sublist (spans : List Span) (verdicts : List HoleVerdict) :
    ((spans.zip verdicts).filterMap acceptedSpan?).Sublist spans := by
  induction spans generalizing verdicts with
  | nil => exact List.Sublist.slnil
  | cons span rest induction =>
      cases verdicts with
      | nil => exact List.nil_sublist _
      | cons verdict others =>
          rw [List.zip_cons_cons, List.filterMap_cons]
          by_cases accepted : verdict = .accepted
          · rw [acceptedSpan?, if_pos accepted]
            exact (induction others).cons_cons span
          · rw [acceptedSpan?, if_neg accepted]
            exact (induction others).cons span

/-- Positions ascend within each range and from range to range. -/
theorem pairwise_source_chosen (normal : Vec3) (outline : List Point3)
    (holes : List (List Point3)) :
    (chosen normal outline holes).source.Pairwise (· < ·) := by
  have ordered := (pairwise_spansFrom 0 (outline :: holes)).2.sublist
    (acceptedSpans_sublist _ (contourVerdicts normal outline holes))
  rw [source_chosen]
  apply List.pairwise_flatMap.mpr
  refine ⟨fun span _ => List.pairwise_lt_range', ordered.imp ?_⟩
  intro earlier later apart first inEarlier second inLater
  have firstBounds := Span.mem_positions inEarlier
  have secondBounds := Span.mem_positions inLater
  omega

section Sources

variable {normal : Vec3} {outline : List Point3} {holes : List (List Point3)}

theorem exists_vertex_of_source {place position : Nat}
    (found : (chosen normal outline holes).source[place]? = some position) :
    ∃ vertex, (outline :: holes).flatten[position]? = some vertex ∧
      (chosen normal outline holes).points[place]? =
        some ((Plane.through normal outline).project vertex) := by
  rw [Selection.source, List.getElem?_map] at found
  rcases Option.map_eq_some_iff.mp found with ⟨corner, there, rfl⟩
  have projected := getElem?_of_mem_chosen (List.mem_of_getElem? there)
  rw [projectedAll, List.getElem?_map] at projected
  rcases Option.map_eq_some_iff.mp projected with ⟨vertex, inBuffer, same⟩
  refine ⟨vertex, inBuffer, ?_⟩
  rw [Selection.points, List.getElem?_map, there, same]
  rfl

theorem toNat_source_chosen (small : (outline :: holes).flatten.length ≤ UInt32.size) :
    (ContourSet.ofSelection (chosen normal outline holes)).source.map UInt32.toNat =
      (chosen normal outline holes).source := by
  apply map_toNat_ofNat
  intro position member
  rcases List.mem_iff_getElem?.mp member with ⟨place, found⟩
  rcases exists_vertex_of_source found with ⟨vertex, inBuffer, _⟩
  exact Nat.lt_of_lt_of_le (List.getElem?_eq_some_iff.mp inBuffer).1 small

end Sources

section Choice

variable (normal : Vec3) (outline : List Point3) (holes : List (List Point3))

/-! ## Verdicts -/

theorem verdicts_eq_map :
    verdicts normal outline holes =
      holes.map fun hole =>
        judgeHole (outline.map (Plane.through normal outline).project)
          (hole.map (Plane.through normal outline).project) := by
  have judged := congrArg
    (List.map (judgeHole (outline.map (Plane.through normal outline).project)))
    (PlacedContour.map_points_place (outline.map (Plane.through normal outline).project).length
      (holes.map fun hole => hole.map (Plane.through normal outline).project))
  rw [List.map_map, List.map_map] at judged
  exact judged

theorem judgeHole_eq_accepted_iff {outline hole : List Point2} :
    judgeHole outline hole = .accepted ↔
      3 ≤ hole.length ∧ ∃ point ∈ hole, Loop.contains outline point = true := by
  rw [judgeHole, ← List.any_eq_true]
  split
  · rename_i short
    constructor
    · intro accepted
      cases accepted
    · intro accepted
      exact absurd short (Nat.not_lt.mpr accepted.1)
  · rename_i long
    split
    · rename_i inside
      exact iff_of_true rfl ⟨Nat.not_lt.mp long, inside⟩
    · rename_i outside
      constructor
      · intro accepted
        cases accepted
      · intro accepted
        exact absurd accepted.2 outside

/-! ## Starts -/

theorem isChain_holeStarts_chosen :
    ((chosen normal outline holes).holeStarts ++
      [(chosen normal outline holes).source.length]).IsChain
        fun earlier later => earlier + 3 ≤ later := by
  apply Selection.isChain_ofContours
  intro hole member
  have accepted := of_decide_eq_true (List.mem_filter.mp member).2
  exact (judgeHole_eq_accepted_iff.mp accepted).1

theorem head?_holeStarts_chosen {start : Nat}
    (first : (chosen normal outline holes).holeStarts.head? = some start) :
    start = outline.length :=
  (Selection.eq_of_head?_startsFrom first).trans (List.length_map _)

end Choice

/-! ## Whole computations -/

/-- What a computation over an outline of at least three points hands over for cutting. -/
structure HandedOver (tessellator : EarClipTessellator) (outline : List Point3)
    (holes : List (List Point3)) (selection : Selection) : Prop where
  asked : tessellator.Asks selection.points selection.holeStarts
  selected :
    ContourSet.select? (projectedAll tessellator.normal outline holes)
        (spansFrom 0 (outline :: holes)) =
      some (ContourSet.ofSelection selection, verdicts tessellator.normal outline holes)
  source : selection.source =
    (keptSpans tessellator.normal outline holes).flatMap Span.positions
  ascending : selection.source.Pairwise (· < ·)
  /-- No source wraps around when it is stored, if the vertices can be numbered at all. -/
  stored : tessellator.vertices.length ≤ UInt32.size →
    (ContourSet.ofSelection selection).source.map UInt32.toNat = selection.source
  twoEach : (flatCoords selection.points).length = 2 * selection.source.length
  projected : ∀ place position : Nat, selection.source[place]? = some position →
    ∃ vertex, tessellator.vertices[position]? = some vertex ∧
      let point := (Plane.through tessellator.normal outline).project vertex
      (flatCoords selection.points)[2 * place]? = some point.u ∧
        (flatCoords selection.points)[2 * place + 1]? = some point.v
  startsAscending : selection.holeStarts.Pairwise (· < ·)
  firstStart : ∀ start, selection.holeStarts.head? = some start → start = outline.length
  apart : (selection.holeStarts ++ [selection.source.length]).IsChain
    fun earlier later => earlier + 3 ≤ later
  accepted : ∀ number : Nat,
    (verdicts tessellator.normal outline holes)[number]? = some .accepted ↔
      ∃ hole, holes[number]? = some hole ∧ 3 ≤ hole.length ∧
        ∃ vertex ∈ hole,
          Loop.contains (outline.map (Plane.through tessellator.normal outline).project)
            ((Plane.through tessellator.normal outline).project vertex) = true
  oneStartEach : selection.holeStarts.length =
    (verdicts tessellator.normal outline holes).countP fun verdict => verdict = .accepted
  balanced : ∀ cut : Cutter,
    1 + selection.holeStarts.length +
        (tessellator.computeBy cut).value.2.statistics.skippedContourCount =
      (tessellator.computeBy cut).value.2.statistics.contourCount
  counted : ∀ cut : Cutter,
    (tessellator.computeBy cut).value.2.statistics.contourCount = tessellator.contours.length

section Whole

variable {tessellator : EarClipTessellator} {outline : List Point3}
  {holes : List (List Point3)}

theorem accepted_iff (normal : Vec3) (outline : List Point3) (holes : List (List Point3))
    (number : Nat) :
    (verdicts normal outline holes)[number]? = some .accepted ↔
      ∃ hole, holes[number]? = some hole ∧ 3 ≤ hole.length ∧
        ∃ vertex ∈ hole,
          Loop.contains (outline.map (Plane.through normal outline).project)
            ((Plane.through normal outline).project vertex) = true := by
  rw [verdicts_eq_map, List.getElem?_map, Option.map_eq_some_iff]
  apply exists_congr
  intro hole
  apply and_congr_right
  intro _
  rw [judgeHole_eq_accepted_iff, List.length_map]
  simp only [List.mem_map, exists_exists_and_eq_and]

theorem contourCount_computeBy (cut : Cutter)
    (finite : ∀ vertex ∈ tessellator.vertices, vertex.isFinite = true)
    (contours : tessellator.contours = outline :: holes) (long : 3 ≤ outline.length) :
    (tessellator.computeBy cut).value.2.statistics.contourCount =
      tessellator.contours.length := by
  rw [computeBy_of_finite cut finite contours long, value_cutContours, contourCount_concluded]
  rfl

/-- Every contour is the outline, an accepted hole or one that was left out. -/
theorem balanced_computeBy (cut : Cutter)
    (finite : ∀ vertex ∈ tessellator.vertices, vertex.isFinite = true)
    (contours : tessellator.contours = outline :: holes) (long : 3 ≤ outline.length) :
    1 + (chosen tessellator.normal outline holes).holeStarts.length +
        (tessellator.computeBy cut).value.2.statistics.skippedContourCount =
      (tessellator.computeBy cut).value.2.statistics.contourCount := by
  have split : (verdicts tessellator.normal outline holes).length =
      (verdicts tessellator.normal outline holes).countP (fun verdict => verdict = .accepted) +
        (verdicts tessellator.normal outline holes).countP fun verdict => verdict ≠ .accepted := by
    simpa only [decide_eq_true_eq] using List.length_eq_countP_add_countP
      (fun verdict : HoleVerdict => decide (verdict = .accepted))
  have skipped : (tessellator.computeBy cut).value.2.statistics.skippedContourCount =
      (verdicts tessellator.normal outline holes).countP fun verdict =>
        verdict ≠ .accepted := by
    rw [computeBy_of_finite cut finite contours long, value_cutContours,
      skippedContourCount_concluded]
    rfl
  rw [contourCount_computeBy cut finite contours long, skipped, contours, List.length_cons,
    length_holeStarts_chosen, ← length_verdicts tessellator.normal outline holes, split]
  omega

theorem handedOver_chosen
    (finite : ∀ vertex ∈ tessellator.vertices, vertex.isFinite = true)
    (contours : tessellator.contours = outline :: holes) (long : 3 ≤ outline.length) :
    HandedOver tessellator outline holes (chosen tessellator.normal outline holes) := by
  have vertices : tessellator.vertices = (outline :: holes).flatten := by
    rw [EarClipTessellator.vertices, contours]
  have nonempty : outline ≠ [] := List.ne_nil_of_length_pos (Nat.lt_of_lt_of_le (by decide) long)
  have apart := isChain_holeStarts_chosen tessellator.normal outline holes
  exact
    { asked := asks_chosen finite contours long
      selected := ContourSet.select?_chosen tessellator.normal nonempty holes
      source := source_chosen tessellator.normal outline holes
      ascending := pairwise_source_chosen tessellator.normal outline holes
      stored := by
        intro small
        rw [vertices] at small
        exact toNat_source_chosen small
      twoEach := by rw [length_flatCoords, Selection.length_points]
      projected := by
        intro place position found
        rcases exists_vertex_of_source found with ⟨vertex, inBuffer, point⟩
        have coords := getElem?_flatCoords (chosen tessellator.normal outline holes).points place
        rw [point] at coords
        refine ⟨vertex, ?_, coords⟩
        rw [vertices]
        exact inBuffer
      startsAscending := by
        have starts := (List.isChain_append.mp apart).1
        exact (starts.imp fun earlier later far => Nat.lt_of_lt_of_le (by omega) far).pairwise
      firstStart := fun _ => head?_holeStarts_chosen tessellator.normal outline holes
      apart
      accepted := accepted_iff tessellator.normal outline holes
      oneStartEach := length_holeStarts_chosen tessellator.normal outline holes
      balanced := fun cut => balanced_computeBy cut finite contours long
      counted := fun cut => contourCount_computeBy cut finite contours long }

end Whole

/-- Finite contours with an outline of at least three points are handed over in good
order, whatever cuts them. A shorter outline is not handed over: whatever cuts, there is no
triangle, and all contours count as left out if they are finite. -/
theorem compute_hands_over (tessellator : EarClipTessellator) :
    (∀ outline holes, tessellator.contours = outline :: holes → 3 ≤ outline.length →
      (∀ vertex ∈ tessellator.vertices, vertex.isFinite = true) →
      HandedOver tessellator outline holes (chosen tessellator.normal outline holes)) ∧
    ((tessellator.contours.headD []).length < 3 → ∀ cut : Cutter,
      let computed := (tessellator.computeBy cut).value.2
      (∀ other : Cutter, tessellator.computeBy cut = tessellator.computeBy other) ∧
        computed.indices = [] ∧ computed.statistics.outputTriangleCount = 0 ∧
        ((∀ vertex ∈ tessellator.vertices, vertex.isFinite = true) →
          (tessellator.computeBy cut).value.1 = .ok () ∧
            computed.statistics.skippedContourCount = tessellator.contours.length ∧
            computed.statistics.contourCount = tessellator.contours.length)) := by
  refine ⟨fun outline holes contours long finite => handedOver_chosen finite contours long, ?_⟩
  intro short cut
  refine ⟨computeBy_eq_of_short short cut, ?_⟩
  cases nonFinite : firstNonFinite? tessellator.contours with
  | some number =>
      rw [computeBy_of_nonFinite nonFinite]
      refine ⟨rfl, rfl, fun finite => ?_⟩
      rw [firstNonFinite?_eq_none_iff.mpr finite] at nonFinite
      cases nonFinite
  | none =>
      rw [computeBy_of_short nonFinite short]
      exact ⟨rfl, rfl, fun _ => ⟨rfl, rfl, rfl⟩⟩

theorem compute_hands_over_courtyards :
    let selection := chosen courtyards.normal (courtyards.contours.headD [])
      courtyards.contours.tail
    HandedOver courtyards (courtyards.contours.headD []) courtyards.contours.tail selection ∧
      selection.source = [0, 1, 2, 3, 7, 8, 9] ∧ selection.holeStarts = [4] ∧
      (courtyards.computeBy EarClip.triangulate).value.2.statistics.skippedContourCount = 2 := by
  have finite : ∀ vertex ∈ courtyards.vertices, vertex.isFinite = true :=
    firstNonFinite?_eq_none_iff.mp (by decide +kernel)
  have handedOver := (compute_hands_over courtyards).1 (courtyards.contours.headD [])
    courtyards.contours.tail rfl (by decide +kernel) finite
  have starts : (chosen courtyards.normal (courtyards.contours.headD [])
      courtyards.contours.tail).holeStarts = [4] := by
    decide +kernel
  have balanced := handedOver.balanced EarClip.triangulate
  rw [handedOver.counted, starts] at balanced
  have contourCount : courtyards.contours.length = 4 := rfl
  refine ⟨handedOver, by decide +kernel, starts, ?_⟩
  rw [List.length_singleton, contourCount] at balanced
  omega

end EarClipTessellator

end PlanarMesh

import PlanarMesh.Proofs.Tessellation.Choice
import PlanarMesh.Proofs.Tessellation.Culling

/-! # From positions of the cut to vertices

Cutting sees only the outline and the holes that were accepted, put one behind the
other. Every position in them stands for one vertex of the buffer, however many contours
were left out before it. So what is emitted are corners of contours that took part.
-/

namespace PlanarMesh

/-! ## Disjoint ranges -/

theorem pairwise_spansFrom {α : Type} (start : Nat) (lists : List (List α)) :
    (∀ span ∈ spansFrom start lists, start ≤ span.start) ∧
      (spansFrom start lists).Pairwise fun earlier later => earlier.stop ≤ later.start := by
  induction lists generalizing start with
  | nil => exact ⟨by simp [spansFrom], .nil⟩
  | cons items rest induction =>
      rcases induction (start + items.length) with ⟨behind, ordered⟩
      refine ⟨?_, .cons behind ordered⟩
      intro span member
      rcases List.mem_cons.mp member with rfl | later
      · exact Nat.le_refl start
      · exact Nat.le_trans (Nat.le_add_right start items.length) (behind span later)

theorem Span.mem_positions {span : Span} {position : Nat} (member : position ∈ span.positions) :
    span.start ≤ position ∧ position < span.stop := by
  rw [positions, List.mem_range'_1, size] at member
  omega

theorem spansFrom_disjoint {α : Type} {start : Nat} {lists : List (List α)}
    {left right : Nat} {first second : Span}
    (foundFirst : (spansFrom start lists)[left]? = some first)
    (foundSecond : (spansFrom start lists)[right]? = some second) {position : Nat}
    (inFirst : position ∈ first.positions) (inSecond : position ∈ second.positions) :
    left = right := by
  have ordered := List.pairwise_iff_getElem.mp (pairwise_spansFrom start lists).2
  rcases List.getElem?_eq_some_iff.mp foundFirst with ⟨leftInside, rfl⟩
  rcases List.getElem?_eq_some_iff.mp foundSecond with ⟨rightInside, rfl⟩
  have firstBounds := Span.mem_positions inFirst
  have secondBounds := Span.mem_positions inSecond
  rcases Nat.lt_trichotomy left right with before | same | after
  · have apart := ordered left right leftInside rightInside before
    omega
  · exact same
  · have apart := ordered right left rightInside leftInside after
    omega

namespace EarClipTessellator

/-! ## Contours that take part -/

def acceptedSpan? (contour : Span × HoleVerdict) : Option Span :=
  if contour.2 = .accepted then some contour.1 else none

/-- What becomes of the contours by their numbers; the outline always takes part. -/
def contourVerdicts (normal : Vec3) (outline : List Point3) (holes : List (List Point3)) :
    List HoleVerdict :=
  .accepted :: verdicts normal outline holes

/-- The ranges of the contours that are cut: the outline, and the holes that were
accepted. -/
def keptSpans (normal : Vec3) (outline : List Point3) (holes : List (List Point3)) :
    List Span :=
  ((spansFrom 0 (outline :: holes)).zip
    (contourVerdicts normal outline holes)).filterMap acceptedSpan?

theorem flatMap_accepted (outline : List Point2) (start : Nat) (holes : List (List Point2)) :
    (((PlacedContour.place start holes).filter fun hole =>
        judgeHole outline hole.points = .accepted).flatMap fun hole =>
          hole.corners.map (·.1)) =
      (((spansFrom start holes).zip
          ((PlacedContour.place start holes).map fun hole =>
            judgeHole outline hole.points)).filterMap acceptedSpan?).flatMap
          Span.positions := by
  induction holes generalizing start with
  | nil => rfl
  | cons hole rest induction =>
      have continued := induction (start + hole.length)
      rw [PlacedContour.place, spansFrom, List.map_cons, List.zip_cons_cons,
        List.filter_cons, List.filterMap_cons]
      by_cases accepted : judgeHole outline hole = .accepted
      · simp only [acceptedSpan?, accepted, decide_true, if_true]
        rw [List.flatMap_cons, List.flatMap_cons, continued, PlacedContour.map_fst_corners,
          Span.positions, Span.size_mk]
      · simp only [acceptedSpan?, accepted, decide_false, Bool.false_eq_true, if_false]
        exact continued

/-- Cutting numbers the vertices of the contours that take part, in their order. -/
theorem source_chosen (normal : Vec3) (outline : List Point3) (holes : List (List Point3)) :
    (chosen normal outline holes).source =
      (keptSpans normal outline holes).flatMap Span.positions := by
  have rest := flatMap_accepted (outline.map (Plane.through normal outline).project)
    outline.length (holes.map fun hole => hole.map (Plane.through normal outline).project)
  rw [spansFrom_map] at rest
  rw [keptSpans, contourVerdicts, spansFrom, List.zip_cons_cons, List.filterMap_cons, Nat.zero_add]
  simp only [acceptedSpan?, if_true, List.flatMap_cons]
  rw [verdicts, List.length_map, ← rest, Selection.source, chosen, Selection.ofContours,
    List.map_append, List.map_flatMap, PlacedContour.map_fst_corners, List.length_map]
  rfl

theorem mem_keptSpans {normal : Vec3} {outline : List Point3} {holes : List (List Point3)}
    {span : Span} (kept : span ∈ keptSpans normal outline holes) :
    ∃ number : Nat, (spansFrom 0 (outline :: holes))[number]? = some span ∧
      (contourVerdicts normal outline holes)[number]? = some .accepted := by
  rcases List.mem_filterMap.mp kept with ⟨⟨own, verdict⟩, member, chosen⟩
  rcases List.mem_iff_getElem?.mp member with ⟨number, found⟩
  rcases List.getElem?_zip_eq_some.mp found with ⟨foundSpan, foundVerdict⟩
  rw [acceptedSpan?] at chosen
  split at chosen
  · rename_i accepted
    cases chosen
    dsimp only at accepted
    rw [accepted] at foundVerdict
    exact ⟨number, foundSpan, foundVerdict⟩
  · cases chosen

/-- The vertex for which a position of the cut stands. -/
def sourceVertex (normal : Vec3) (outline : List Point3) (holes : List (List Point3))
    (position : Fin (chosen normal outline holes).points.length) : Nat :=
  ((chosen normal outline holes).corner position).1

theorem getElem?_sourceVertex (normal : Vec3) (outline : List Point3)
    (holes : List (List Point3))
    (position : Fin (chosen normal outline holes).points.length) :
    ((keptSpans normal outline holes).flatMap Span.positions)[position.val]? =
      some (sourceVertex normal outline holes position) := by
  have inside : position.val < (chosen normal outline holes).corners.length := by
    have inPoints : position.val <
        ((chosen normal outline holes).corners.map (·.2)).length := position.isLt
    rwa [List.length_map] at inPoints
  rw [← source_chosen, Selection.source, List.getElem?_map, List.getElem?_eq_getElem inside]
  rfl

theorem snd_corner_chosen (normal : Vec3) (outline : List Point3)
    (holes : List (List Point3))
    (position : Fin (chosen normal outline holes).points.length) :
    ((chosen normal outline holes).corner position).2 =
      (chosen normal outline holes).points.get position := by
  rw [List.get_eq_getElem]
  exact (List.getElem_map fun corner : Nat × Point2 => corner.2).symm

theorem project_sourceVertex (normal : Vec3) (outline : List Point3)
    (holes : List (List Point3))
    (position : Fin (chosen normal outline holes).points.length) :
    (outline :: holes).flatten[sourceVertex normal outline holes position]?.map
        (Plane.through normal outline).project =
      some ((chosen normal outline holes).points.get position) := by
  have backed : ∀ corner ∈ (chosen normal outline holes).corners,
      (projectedAll normal outline holes)[corner.1]? = some corner.2 :=
    fun _ => getElem?_of_mem_chosen
  have found := Selection.getElem?_corner backed position
  rwa [projectedAll, List.getElem?_map, snd_corner_chosen] at found

theorem sourceVertex_lt (normal : Vec3) (outline : List Point3)
    (holes : List (List Point3))
    (position : Fin (chosen normal outline holes).points.length) :
    sourceVertex normal outline holes position < (outline :: holes).flatten.length := by
  have projected := project_sourceVertex normal outline holes position
  rcases Option.map_eq_some_iff.mp projected with ⟨vertex, found, _⟩
  exact (List.getElem?_eq_some_iff.mp found).1

/-! ## Emitted triangles -/

section Emitted

variable (tolerance : Tolerance) (normal : Vec3) (outline : List Point3)
  (holes : List (List Point3))
  (triangles : List (Triangle (Fin (chosen normal outline holes).points.length)))

def emittedOf : List (Triangle Nat) :=
  triangles.filterMap fun cut =>
    emit? tolerance (cut.map (chosen normal outline holes).corner)

variable {tolerance normal outline holes triangles}

theorem exists_sourceVertex {corner : Nat}
    (member : corner ∈
      Triangle.cornerList (emittedOf tolerance normal outline holes triangles)) :
    ∃ position, corner = sourceVertex normal outline holes position := by
  rcases List.mem_flatMap.mp member with ⟨emitted, inEmitted, inCorners⟩
  rcases List.mem_filterMap.mp inEmitted with ⟨cut, _, emits⟩
  rcases mem_corners_of_emit? emits inCorners with ⟨own, inCut, equal⟩
  rw [Triangle.corners_map] at inCut
  rcases List.mem_map.mp inCut with ⟨position, _, rfl⟩
  exact ⟨position, equal.symm⟩

theorem toNat_indexBuffer_emittedOf
    (small : (outline :: holes).flatten.length ≤ UInt32.size) :
    (indexBuffer (emittedOf tolerance normal outline holes triangles)).map UInt32.toNat =
      Triangle.cornerList (emittedOf tolerance normal outline holes triangles) := by
  apply map_toNat_ofNat
  intro corner member
  rcases exists_sourceVertex member with ⟨position, rfl⟩
  exact Nat.lt_of_lt_of_le (sourceVertex_lt normal outline holes position) small

theorem exists_kept {corner : Nat}
    (member : corner ∈
      Triangle.cornerList (emittedOf tolerance normal outline holes triangles)) :
    ∃ (number : Nat) (span : Span),
      (contourVerdicts normal outline holes)[number]? = some .accepted ∧
      (spansFrom 0 (outline :: holes))[number]? = some span ∧
      corner ∈ span.positions := by
  rcases exists_sourceVertex member with ⟨position, rfl⟩
  have inTable := List.mem_of_getElem? (getElem?_sourceVertex normal outline holes position)
  rcases List.mem_flatMap.mp inTable with ⟨span, kept, inSpan⟩
  rcases mem_keptSpans kept with ⟨number, found, accepted⟩
  exact ⟨number, span, accepted, found, inSpan⟩

theorem length_emittedOf_add_countP :
    (emittedOf tolerance normal outline holes triangles).length +
        triangles.countP (fun cut =>
          (emit? tolerance (cut.map (chosen normal outline holes).corner)).isNone) =
      triangles.length := by
  rw [emittedOf, List.length_filterMap_eq_countP, eq_comm]
  have split := List.length_eq_countP_add_countP
    (fun cut => (emit? tolerance (Triangle.map (chosen normal outline holes).corner cut)).isSome)
    (l := triangles)
  simpa only [Bool.not_eq_true, Option.isSome_eq_false_iff, decide_eq_true_eq,
    Bool.decide_eq_true] using split

theorem cutContours_of_small {cut : Cutter} {tessellator : EarClipTessellator}
    (small : (outline :: holes).flatten.length ≤ UInt32.size)
    {triangles : List
      (Triangle (Fin (chosen tessellator.normal outline holes).points.length))}
    (success : cut (chosen tessellator.normal outline holes).points
      (chosen tessellator.normal outline holes).holeStarts = some triangles) :
    let emitted := emittedOf tessellator.tolerance tessellator.normal outline holes triangles
    (tessellator.cutContours cut outline holes).value =
      (.ok (),
        { tessellator with
          indices := indexBuffer emitted
          statistics :=
            { tessellator.selectedStatistics outline holes with
              outputTriangleCount := (indexBuffer emitted).length / 3
              culledTriangleCount := triangles.countP fun cut =>
                (emit? tessellator.tolerance
                  (cut.map (chosen tessellator.normal outline holes).corner)).isNone } }) := by
  have unwrapped : storedChoice tessellator.normal outline holes =
      (chosen tessellator.normal outline holes).corner :=
    funext (storedChoice_of_small small)
  rw [cutContours_of_success tessellator success, unwrapped]
  simp only [List.filterMap_map, List.countP_map]
  rfl

end Emitted

/-! ## Whole computations -/

/-- What a computation emits of the triangles that were cut. -/
structure Remapped (tessellator computed : EarClipTessellator) (outline : List Point3)
    (holes : List (List Point3))
    (triangles : List
      (Triangle (Fin (chosen tessellator.normal outline holes).points.length))) :
    Prop where
  source : ∀ position,
    ((keptSpans tessellator.normal outline holes).flatMap Span.positions)[position.val]? =
      some (sourceVertex tessellator.normal outline holes position)
  vertex : ∀ position,
    computed.vertices[sourceVertex tessellator.normal outline holes position]?.map
        (Plane.through tessellator.normal outline).project =
      some ((chosen tessellator.normal outline holes).points.get position)
  /-- Each large triangle is emitted once, in order, over the same vertices. -/
  emitted : ∃ emitted : List (Triangle Nat),
    computed.indices.map UInt32.toNat = Triangle.cornerList emitted ∧
    List.Forall₂
      (fun cut emitted =>
        (cut.map (sourceVertex tessellator.normal outline holes)).SameUpToTurn emitted)
      (triangles.filter fun cut =>
        isLarge tessellator.tolerance
          (cut.map (chosen tessellator.normal outline holes).points.get))
      emitted
  ofKept : ∀ index ∈ computed.indices, ∃ (number : Nat) (span : Span),
    (contourVerdicts tessellator.normal outline holes)[number]? = some .accepted ∧
    (spansFrom 0 (outline :: holes))[number]? = some span ∧
    index.toNat ∈ span.positions
  notOfSkipped : ∀ index ∈ computed.indices, ∀ (number : Nat) (verdict : HoleVerdict)
      (span : Span),
    (contourVerdicts tessellator.normal outline holes)[number]? = some verdict →
    verdict ≠ .accepted →
    (spansFrom 0 (outline :: holes))[number]? = some span →
    index.toNat ∉ span.positions
  output : computed.statistics.outputTriangleCount = computed.indices.length / 3
  total :
    computed.statistics.outputTriangleCount + computed.statistics.culledTriangleCount =
      triangles.length

theorem remapped_of_success {cut : Cutter} {tessellator : EarClipTessellator}
    {outline : List Point3} {holes : List (List Point3)}
    (contours : tessellator.contours = outline :: holes)
    (small : tessellator.vertices.length ≤ UInt32.size)
    {triangles : List
      (Triangle (Fin (chosen tessellator.normal outline holes).points.length))}
    (success : cut (chosen tessellator.normal outline holes).points
      (chosen tessellator.normal outline holes).holeStarts = some triangles) :
    Remapped tessellator (tessellator.begun.cutContours cut outline holes).value.2 outline holes
      triangles := by
  have vertices : tessellator.vertices = (outline :: holes).flatten := by
    rw [EarClipTessellator.vertices, contours]
  rw [vertices] at small
  have inKept : ∀ index ∈ indexBuffer
        (emittedOf tessellator.tolerance tessellator.normal outline holes triangles),
      ∃ (number : Nat) (span : Span),
        (contourVerdicts tessellator.normal outline holes)[number]? = some .accepted ∧
        (spansFrom 0 (outline :: holes))[number]? = some span ∧
        index.toNat ∈ span.positions := by
    intro index member
    apply exists_kept
    rw [← toNat_indexBuffer_emittedOf small]
    exact List.mem_map_of_mem member
  rw [tessellator.begun.cutContours_of_small small success]
  exact
    { source := getElem?_sourceVertex tessellator.normal outline holes
      vertex := by
        intro position
        change tessellator.vertices[_]?.map _ = _
        rw [vertices]
        exact project_sourceVertex tessellator.normal outline holes position
      emitted := by
        refine ⟨_, toNat_indexBuffer_emittedOf small, ?_⟩
        have each := forall₂_emitted tessellator.tolerance
          (chosen tessellator.normal outline holes).corner triangles
        simp only [snd_corner_chosen] at each
        exact each
      ofKept := inKept
      notOfSkipped := by
        intro index member number verdict span judged skipped found inSpan
        rcases inKept index member with ⟨own, ownSpan, accepted, ownFound, inOwn⟩
        rw [spansFrom_disjoint ownFound found inOwn inSpan, judged] at accepted
        exact skipped (Option.some.inj accepted)
      output := rfl
      total := by
        change (indexBuffer _).length / 3 + _ = triangles.length
        rw [length_indexBuffer_div]
        exact length_emittedOf_add_countP }

/-- Of every triangle that was cut, a successful computation emits one if it is large and
none if it is not, in order and over the vertices for which its positions stand. Without
an outline of three points nothing is cut. -/
theorem compute_remaps (cut : Cutter) (tessellator : EarClipTessellator)
    (small : tessellator.vertices.length < UInt32.size)
    (succeeded : (tessellator.computeBy cut).value.1 = .ok ()) :
    let computed := (tessellator.computeBy cut).value.2
    ((tessellator.contours.headD []).length < 3 →
      computed.indices = [] ∧ computed.statistics.outputTriangleCount = 0 ∧
        computed.statistics.culledTriangleCount = 0) ∧
    ∀ outline holes, tessellator.contours = outline :: holes → 3 ≤ outline.length →
      ∃ triangles,
        cut (chosen tessellator.normal outline holes).points
          (chosen tessellator.normal outline holes).holeStarts = some triangles ∧
        Remapped tessellator computed outline holes triangles := by
  have finite : firstNonFinite? tessellator.contours = none := by
    cases found : firstNonFinite? tessellator.contours with
    | none => rfl
    | some contour =>
        rw [computeBy_of_nonFinite found] at succeeded
        cases succeeded
  dsimp only
  constructor
  · intro short
    cases contours : tessellator.contours with
    | nil =>
        rw [computeBy_of_no_contours contours]
        exact ⟨rfl, rfl, rfl⟩
    | cons outline holes =>
        rw [contours] at short
        rw [computeBy_of_short_outline finite contours short]
        exact ⟨rfl, rfl, rfl⟩
  · intro outline holes contours long
    rw [computeBy_of_outline finite contours (Nat.not_lt.mpr long)] at succeeded ⊢
    cases answer : cut (chosen tessellator.normal outline holes).points
        (chosen tessellator.normal outline holes).holeStarts with
    | none =>
        rw [tessellator.begun.cutContours_of_failure answer] at succeeded
        cases succeeded
    | some triangles =>
        exact ⟨triangles, rfl, remapped_of_success contours (Nat.le_of_lt small) answer⟩

/-- A square with three holes: one that lies outside, one that is cut out, and one that
has two points. -/
def courtyards : EarClipTessellator :=
  { withTolerance .general with
    normal := Vec3.unitZ
    contours :=
      [[⟨0, 0, 0⟩, ⟨9, 0, 0⟩, ⟨9, 9, 0⟩, ⟨0, 9, 0⟩],
        [⟨20, 0, 0⟩, ⟨21, 0, 0⟩, ⟨20, 1, 0⟩],
        [⟨1, 1, 0⟩, ⟨1, 2, 0⟩, ⟨2, 1, 0⟩],
        [⟨4, 4, 0⟩, ⟨5, 4, 0⟩]] }

theorem compute_remaps_courtyards :
    let computed := (courtyards.computeBy EarClip.triangulate).value.2
    let outline := courtyards.contours.headD []
    let holes := courtyards.contours.tail
    contourVerdicts courtyards.normal outline holes =
        [.accepted, .outside, .accepted, .tooShort] ∧
      (∃ triangles,
        EarClip.triangulate (chosen courtyards.normal outline holes).points
          (chosen courtyards.normal outline holes).holeStarts = some triangles ∧
        Remapped courtyards computed outline holes triangles) ∧
      computed.indices.length = 21 ∧
      ∀ index ∈ computed.indices, index.toNat ∉ [4, 5, 6] ∧ index.toNat ∉ [10, 11] := by
  have small : courtyards.vertices.length < UInt32.size := by decide +kernel
  have computes : (courtyards.computeBy EarClip.triangulate).value.1 = .ok () ∧
      (courtyards.computeBy EarClip.triangulate).value.2.indices.length = 21 := by
    decide +kernel
  have judged : contourVerdicts courtyards.normal (courtyards.contours.headD [])
      courtyards.contours.tail = [.accepted, .outside, .accepted, .tooShort] := by
    decide +kernel
  rcases (compute_remaps EarClip.triangulate courtyards small computes.1).2
    (courtyards.contours.headD []) courtyards.contours.tail rfl (by decide +kernel) with
    ⟨triangles, cut, remapped⟩
  refine ⟨judged, ⟨triangles, cut, remapped⟩, computes.2, fun index member => ?_⟩
  constructor
  · exact remapped.notOfSkipped index member 1 .outside ⟨4, 7⟩ (by rw [judged]; rfl) nofun rfl
  · exact remapped.notOfSkipped index member 3 .tooShort ⟨10, 12⟩ (by rw [judged]; rfl) nofun rfl

def unbounded : EarClipTessellator :=
  { withTolerance ⟨0.0 / 0.0⟩ with
    normal := Vec3.unitZ
    contours := [[⟨0, 0, 0⟩, ⟨4, 0, 0⟩, ⟨0, 3, 0⟩]] }

/-- Triangles that are not above the tolerance are emitted as well when it is not a
number. -/
theorem not_only_above_emitted :
    ¬∀ tessellator : EarClipTessellator,
      tessellator.vertices.length < UInt32.size →
      tessellator.compute.value.1 = .ok () →
      ∀ outline holes, tessellator.contours = outline :: holes →
      ∀ triangles,
        EarClip.triangulate (chosen tessellator.normal outline holes).points
          (chosen tessellator.normal outline holes).holeStarts = some triangles →
        tessellator.compute.value.2.indices.length =
          3 * (triangles.filter fun cut =>
            isAbove tessellator.tolerance
              (cut.map (chosen tessellator.normal outline holes).points.get)).length := by
  intro claimed
  have notANumber : unbounded.tolerance.eps.isNaN = true := by decide +kernel
  have length : unbounded.compute.value.2.indices.length = 3 := by decide +kernel
  have cuts : (EarClip.triangulate
      (chosen unbounded.normal (unbounded.contours.headD []) []).points
      (chosen unbounded.normal (unbounded.contours.headD []) []).holeStarts).isSome = true := by
    decide +kernel
  rcases Option.isSome_iff_exists.mp cuts with ⟨triangles, cut⟩
  have noneAbove : (triangles.filter fun cut =>
      isAbove unbounded.tolerance
        (cut.map (chosen unbounded.normal (unbounded.contours.headD []) []).points.get)) =
      [] := by
    rw [List.filter_eq_nil_iff]
    intro cut _
    rw [isAbove_of_isNaN notANumber]
    exact Bool.false_ne_true
  have equal := claimed unbounded (by decide +kernel) (by decide +kernel) _ [] rfl triangles cut
  rw [length] at equal
  cases equal.trans (congrArg (fun above => 3 * above.length) noneAbove)

end EarClipTessellator

end PlanarMesh

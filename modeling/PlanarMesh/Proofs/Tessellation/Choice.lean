import PlanarMesh.Proofs.Tessellation.Corners
import PlanarMesh.Proofs.Tessellation.Ranged

/-! # Choosing stays in range

Points that are taken from consecutive ranges are those of the contours. So the outline
and the holes can be read, every hole gets the verdict that its contour gets, and each
corner of a triangle is found again in the buffer.
-/

namespace PlanarMesh

variable {α β : Type}

/-! ## Containment -/

theorem foldl_zip_previous (step : β → α → α → β) (value : β) (previous : α)
    (items : List α) :
    ((previous :: items).zip items).foldl
        (fun value edge => step value edge.1 edge.2) value =
      (items.foldl
        (fun (value, previous) current => (step value previous current, current))
        (value, previous)).1 := by
  induction items generalizing value previous with
  | nil => rfl
  | cons item rest induction => exact induction (step value previous item) item

theorem Loop.contains?_eq {loop : List Point2} (nonempty : loop ≠ []) (point : Point2) :
    Loop.contains? loop point = some (Loop.contains loop point) := by
  cases loop with
  | nil => exact absurd rfl nonempty
  | cons first rest =>
      have last : (first :: rest)[(first :: rest).length - 1]? =
          some ((first :: rest).getLast (List.cons_ne_nil first rest)) := by
        rw [← List.getLast?_eq_getElem?, List.getLast?_eq_some_getLast]
      have edges := foldl_zip_previous
        (fun inside previous current =>
          if crossesRight previous current point then !inside else inside)
        false ((first :: rest).getLast (List.cons_ne_nil first rest)) (first :: rest)
      rw [contains?, last]
      exact congrArg some edges.symm

/-! ## Chosen points -/

namespace PlacedContour

theorem map_fst_corners (contour : PlacedContour) :
    contour.corners.map (·.1) = List.range' contour.start contour.points.length := by
  rw [corners, List.map_map]
  exact List.zipIdx_map_snd contour.start contour.points

theorem map_snd_corners (contour : PlacedContour) :
    contour.corners.map (·.2) = contour.points := by
  rw [corners, List.map_map]
  exact List.zipIdx_map_fst contour.start contour.points

end PlacedContour

namespace Selection

theorem startsFrom_append_singleton (start : Nat) (contours : List PlacedContour)
    (last : PlacedContour) :
    startsFrom start (contours ++ [last]) =
      startsFrom start contours ++
        [start + (contours.flatMap PlacedContour.corners).length] := by
  induction contours generalizing start with
  | nil => rfl
  | cons contour rest induction =>
      rw [List.cons_append, startsFrom, induction, startsFrom, List.flatMap_cons,
        List.length_append, PlacedContour.length_corners, Nat.add_assoc, List.cons_append]

theorem ofContours_append_singleton (outline : PlacedContour)
    (holes : List PlacedContour) (last : PlacedContour) :
    ofContours outline (holes ++ [last]) =
      { corners := (ofContours outline holes).corners ++ last.corners
        holeStarts := (ofContours outline holes).holeStarts ++
          [(ofContours outline holes).corners.length] } := by
  simp only [ofContours, startsFrom_append_singleton, List.flatMap_append,
    List.flatMap_singleton, List.append_assoc, List.length_append,
    PlacedContour.length_corners]

end Selection

namespace ContourSet

def ofSelection (selection : Selection) : ContourSet :=
  ⟨selection.points, selection.holeStarts, selection.source.map UInt32.ofNat⟩

@[simp] theorem length_source_ofSelection (selection : Selection) :
    (ofSelection selection).source.length = selection.corners.length := by
  simp only [ofSelection, Selection.source, List.length_map]

theorem push?_append (taken : ContourSet) (front middle back : List Point2) :
    taken.push? ⟨front.length, front.length + middle.length⟩ (front ++ (middle ++ back)) =
      some
        { taken with
          points := taken.points ++ middle
          source := taken.source ++
            (List.range' front.length middle.length).map UInt32.ofNat } := by
  rw [push?, Span.positions, Span.size_mk]
  induction middle generalizing taken front with
  | nil => simp
  | cons point rest induction =>
      have found : (front ++ (point :: rest ++ back))[front.length]? = some point := by
        simp
      have moved := induction
        { taken with
          points := taken.points ++ [point]
          source := taken.source ++ [UInt32.ofNat front.length] }
        (front ++ [point])
      simp only [List.length_append, List.length_singleton, List.append_assoc,
        List.singleton_append] at moved
      rw [List.length_cons, List.range'_succ, List.foldlM_cons, found]
      simp only [Option.bind_eq_bind, Option.bind_some, List.map_cons]
      exact moved

/-- The corners of a contour that follows `front` go behind those taken before. -/
theorem push?_corners (selection : Selection) (front middle back : List Point2) :
    (ofSelection selection).push? ⟨front.length, front.length + middle.length⟩
        (front ++ (middle ++ back)) =
      some (ofSelection
        { selection with
          corners := selection.corners ++
            (PlacedContour.mk front.length middle).corners }) := by
  rw [push?_append]
  simp only [ofSelection, Selection.points, Selection.source, List.map_append,
    PlacedContour.map_fst_corners, PlacedContour.map_snd_corners]

theorem push?_outline (outline back : List Point2) :
    empty.push? ⟨0, outline.length⟩ (outline ++ back) =
      some (ofSelection (.ofContours ⟨0, outline⟩ [])) := by
  have begun : empty = ofSelection ⟨[], []⟩ := rfl
  have pushed := push?_corners ⟨[], []⟩ [] outline back
  rw [List.length_nil, Nat.zero_add] at pushed
  rw [begun]
  simpa [Selection.ofContours, Selection.startsFrom] using pushed

theorem push?_hole (outline : PlacedContour) (accepted : List PlacedContour)
    (front hole back : List Point2) :
    (ofSelection (.ofContours outline accepted)).startHole.push?
        ⟨front.length, front.length + hole.length⟩ (front ++ (hole ++ back)) =
      some (ofSelection
        (.ofContours outline (accepted ++ [⟨front.length, hole⟩]))) := by
  have begun : (ofSelection (.ofContours outline accepted)).startHole =
      ofSelection
        { Selection.ofContours outline accepted with
          holeStarts := (Selection.ofContours outline accepted).holeStarts ++
            [(Selection.ofContours outline accepted).corners.length] } := by
    rw [startHole, length_source_ofSelection]
    rfl
  rw [begun, push?_corners, Selection.ofContours_append_singleton]

/-! ## Holes -/

theorem judge?_eq {points outline hole : List Point2} {outlineSpan holeSpan : Span}
    (outlineSlice : outlineSpan.slice? points = some outline) (nonempty : outline ≠ [])
    (holeSlice : holeSpan.slice? points = some hole) :
    judge? points outlineSpan holeSpan = some (judgeHole outline hole) := by
  have size : holeSpan.size = hole.length := Span.size_of_slice? holeSlice
  have test : (fun point => do
      let loop ← outlineSpan.slice? points
      Loop.contains? loop point) =
        fun point => (pure (Loop.contains outline point) : Option Bool) := by
    funext point
    rw [outlineSlice]
    exact Loop.contains?_eq nonempty point
  rw [judge?, judgeHole, size]
  split
  · rfl
  · rw [test, holeSlice]
    simp only [Option.bind_eq_bind, Option.bind_some, List.anyM_pure]
    cases hole.any (Loop.contains outline) with
    | false => rfl
    | true => rfl

-- The outline is always the first slice, however much of the holes has been gone through.
-- So its slice of the whole buffer is a hypothesis, and only `front` moves.
theorem choose?_eq {outline : List Point2} {outlineSpan : Span} (nonempty : outline ≠ [])
    (accepted : List PlacedContour) (front : List Point2) (holes : List (List Point2))
    (outlineSlice : outlineSpan.slice? (front ++ holes.flatten) = some outline) :
    choose? (front ++ holes.flatten) outlineSpan
        (ofSelection (.ofContours ⟨0, outline⟩ accepted)) (spansFrom front.length holes) =
      some
        (ofSelection (.ofContours ⟨0, outline⟩ (accepted ++
            (PlacedContour.place front.length holes).filter fun hole =>
              judgeHole outline hole.points = .accepted)),
          (PlacedContour.place front.length holes).map fun hole =>
            judgeHole outline hole.points) := by
  induction holes generalizing accepted front with
  | nil => simp [spansFrom, choose?, PlacedContour.place]
  | cons hole rest induction =>
      have regroup : front ++ (hole :: rest).flatten = front ++ hole ++ rest.flatten := by
        rw [List.flatten_cons, List.append_assoc]
      have holeSlice := Span.slice?_append front hole rest.flatten
      have pushed := push?_hole ⟨0, outline⟩ accepted front hole rest.flatten
      rw [← List.append_assoc] at holeSlice pushed
      rw [regroup] at outlineSlice ⊢
      rw [spansFrom, choose?, judge?_eq outlineSlice nonempty holeSlice, PlacedContour.place]
      simp only [Option.bind_eq_bind, Option.bind_some, List.map_cons]
      by_cases good : judgeHole outline hole = .accepted
      · rw [if_pos good, pushed]
        simp only [Option.bind_some]
        rw [← List.length_append, induction _ (front ++ hole) outlineSlice]
        simp [good]
      · rw [if_neg good, ← List.length_append, induction _ (front ++ hole) outlineSlice]
        simp [good]

theorem select?_eq {outline : List Point2} (nonempty : outline ≠ [])
    (holes : List (List Point2)) :
    select? (outline :: holes).flatten (spansFrom 0 (outline :: holes)) =
      some
        (ofSelection (.ofContours ⟨0, outline⟩
            ((PlacedContour.place outline.length holes).filter fun hole =>
              judgeHole outline hole.points = .accepted)),
          (PlacedContour.place outline.length holes).map fun hole =>
            judgeHole outline hole.points) := by
  rw [select?, spansFrom, List.getElem?_cons_zero, List.drop_one, List.tail_cons,
    List.flatten_cons, Nat.zero_add]
  simp only [Option.bind_eq_bind, Option.bind_some]
  rw [push?_outline]
  exact choose?_eq nonempty [] outline holes (Span.slice?_zero outline holes.flatten)

/-- Going through the ranges takes in what is chosen of the contours. -/
theorem select?_chosen (normal : Vec3) {outline : List Point3} (nonempty : outline ≠ [])
    (holes : List (List Point3)) :
    select? (EarClipTessellator.projectedAll normal outline holes)
        (spansFrom 0 (outline :: holes)) =
      some (ofSelection (EarClipTessellator.chosen normal outline holes),
        EarClipTessellator.verdicts normal outline holes) := by
  let project := (Plane.through normal outline).project
  have projected : (outline :: holes).flatten.map project =
      (outline.map project :: holes.map (List.map project)).flatten := List.map_flatten
  have projectedNonempty : outline.map project ≠ [] := by
    simpa using nonempty
  have selected := select?_eq projectedNonempty (holes.map (List.map project))
  rwa [← projected, ← List.map_cons, spansFrom_map] at selected

/-! ## Corners -/

section Corners

variable {selection : Selection} {points : List Point2}
  (backed : ∀ corner ∈ selection.corners, points[corner.1]? = some corner.2)
  (small : points.length ≤ UInt32.size)

include backed small

theorem corner?_eq (position : Fin selection.points.length) :
    (ofSelection selection).corner? points position = some (selection.corner position) := by
  have bound : position.val < selection.corners.length := by
    have inPoints : position.val < (selection.corners.map (·.2)).length := position.isLt
    rwa [List.length_map] at inPoints
  have stored : (ofSelection selection).source[position.val]? =
      some (UInt32.ofNat (selection.corner position).1) := by
    simp only [ofSelection, Selection.source, Selection.corner, List.getElem?_map,
      List.getElem?_eq_getElem bound]
    rfl
  have found : points[(selection.corner position).1]? = some (selection.corner position).2 :=
    backed _ (List.get_mem _ _)
  have fits : (selection.corner position).1 < UInt32.size := by
    have inRange := (List.getElem?_eq_some_iff.mp found).1
    exact Nat.lt_of_lt_of_le inRange small
  rw [corner?, stored]
  simp only [Option.bind_eq_bind, Option.bind_some, UInt32.toNat_ofNat_of_lt' fits]
  rw [found]
  rfl

theorem triangle?_eq (triangle : Triangle (Fin selection.points.length)) :
    (ofSelection selection).triangle? points (triangle.map Fin.val) =
      some (triangle.map selection.corner) := by
  simp only [triangle?, Triangle.map, corner?_eq backed small, Option.bind_eq_bind,
    Option.bind_some]

theorem mapM_triangle?_eq (triangles : List (Triangle (Fin selection.points.length))) :
    (triangles.mapM fun triangle =>
      (ofSelection selection).triangle? points (triangle.map Fin.val)) =
      some (triangles.map (Triangle.map selection.corner)) := by
  simp only [triangle?_eq backed small]
  exact List.mapM_pure

end Corners

end ContourSet

end PlanarMesh

import PlanarMesh.EarClip.Contours
import PlanarMesh.Geometry.Plane

/-! # Ear clipping

`triangulate` cuts a polygon with holes into triangles. The contours come as one
list of points with the positions at which the holes start, and every corner of
the answer is a position in that list. Polygons that cross themselves get a
best-effort answer.

A ring is cut ear by ear. Where no ear is left, flat nodes are dropped, then small
self-intersections are cut off, and at last the ring is split along a diagonal and
both parts start anew.
-/

namespace PlanarMesh.EarClip

inductive Search where
  | exhaustive
  | curve
deriving DecidableEq

/-- What has been done for a ring that has no ear left. -/
inductive Stage where
  | untouched
  | flattened
  | uncrossed
deriving DecidableEq

structure Cut (ι : Type) where
  rings : Rings ι
  triangles : List (Triangle ι)
  rest : Option Slot

namespace Rings

variable {ι : Type} [Inhabited ι]

def earTriangle (rings : Rings ι) (slot : Slot) : Triangle ι :=
  ⟨rings.label (rings.previous slot), rings.label slot, rings.label (rings.next slot)⟩

/-- Whether a node is an ear, by all points of its ring. A ring of three nodes has
its own corners to pass. -/
def isEar (rings : Rings ι) (ear : Slot) : Bool :=
  let before := rings.previous ear
  let after := rings.next ear
  let a := rings.point before
  let b := rings.point ear
  let c := rings.point after
  if 0.0 ≤ turn a b c then
    false
  else
    !(rings.walk (rings.next after) before).any fun slot =>
      covers a b c (rings.point slot) && decide (0.0 ≤ rings.turnAt slot)

def testEar (search : Search) (rings : Rings ι) (slot : Slot) : Option (Bool × Rings ι) :=
  match search with
  | .exhaustive => some (rings.isEar slot, rings)
  | .curve => rings.isEarOnCurve slot

def firstEar (search : Search) (rings : Rings ι) : List Slot → Option (Option Slot × Rings ι)
  | [] => some (none, rings)
  | slot :: rest => do
      let (isEar, tested) ← rings.testEar search slot
      if isEar then some (some slot, tested) else firstEar search tested rest

/-- Cuts ears, each one the first that is met going round from `start`. After an
ear its successor is passed over. -/
def cutEarsWithin (search : Search) : (bound : Nat) → Rings ι → Slot → Option (Cut ι)
  | 0, rings, start => some ⟨rings, [], some start⟩
  | bound + 1, rings, start => do
      let slots := rings.ring start
      let (ear, tested) ← rings.firstEar search slots
      match ear with
      | none =>
          let last := slots.getLast?.getD start
          some ⟨tested, [], if tested.previous last = start then none else some start⟩
      | some ear =>
          let before := tested.previous ear
          let after := tested.next ear
          let shorter := tested.remove ear
          let following := shorter.next after
          if following = after then
            some ⟨shorter, [tested.earTriangle ear], if before = after then none else some after⟩
          else
            let cut ← cutEarsWithin search bound shorter following
            some { cut with triangles := tested.earTriangle ear :: cut.triangles }

def cutEars (search : Search) (rings : Rings ι) (start : Slot) : Option (Cut ι) :=
  if rings.next start = start then
    some ⟨rings, [], if start = anchor then none else some start⟩
  else
    cutEarsWithin search (rings.size + 1) rings start

/-! ## Small self-intersections -/

def cutCrossingsWithin :
    (bound : Nat) → Rings ι → (slot stop : Slot) → Rings ι × List (Triangle ι) × Slot
  | 0, rings, slot, _ => (rings, [], slot)
  | bound + 1, rings, slot, stop =>
      if rings.crossesAt slot then
        let before := rings.previous slot
        let after := rings.next (rings.next slot)
        let once := rings.remove slot
        let twice := once.remove (once.next slot)
        let triangle : Triangle ι :=
          ⟨rings.label before, rings.label slot, rings.label after⟩
        let next := twice.next after
        if next = after then
          (twice, [triangle], next)
        else
          let (cut, triangles, last) := cutCrossingsWithin bound twice next after
          (cut, triangle :: triangles, last)
      else
        let next := rings.next slot
        if next = stop then (rings, [], next) else cutCrossingsWithin bound rings next stop

/-- Cuts off the triangle over each edge whose neighbours cross. The answer's slot
is a node of what is left. -/
def cutCrossings (rings : Rings ι) (start : Slot) : Rings ι × List (Triangle ι) × Slot :=
  cutCrossingsWithin ((rings.size + 1) * (rings.size + 1)) rings start start

/-! ## Splitting -/

variable [DecidableEq ι]

def findDiagonal? (rings : Rings ι) (start : Slot) : Option (Slot × Slot) :=
  (rings.ring start).findSome? fun source =>
    let first := rings.next (rings.next source)
    let last := rings.previous source
    let targets := if first = last then [] else rings.walk first last
    (targets.find? fun target =>
      decide (rings.label source ≠ rings.label target) &&
      rings.isDiagonal source target).map fun target => (source, target)

/-- Cuts a ring into triangles. None if the curve cannot be laid over its points.
Every split leaves two shorter rings, so `bound` exceeds the depth of splits when it
starts beyond four times the number of nodes. -/
def clipWithin :
    (bound : Nat) → Search → Stage → Rings ι → Slot → Option (Rings ι × List (Triangle ι))
  | 0, _, _, rings, _ => some (rings, [])
  | bound + 1, search, stage, rings, start => do
      let indexed ←
        if search = .curve ∧ stage = .untouched then rings.indexCurve start else some rings
      let cut ← indexed.cutEars search start
      match cut.rest, stage with
      | none, _ => some (cut.rings, cut.triangles)
      | some slot, .untouched =>
          let (mended, next) := cut.rings.dropFlat slot slot
          let (rings, triangles) ← clipWithin bound search .flattened mended next
          some (rings, cut.triangles ++ triangles)
      | some slot, .flattened =>
          let (mended, crossings, next) := cut.rings.cutCrossings slot
          let (rings, triangles) ← clipWithin bound search .uncrossed mended next
          some (rings, cut.triangles ++ crossings ++ triangles)
      | some slot, .uncrossed =>
          match cut.rings.findDiagonal? slot with
          | none => some (cut.rings, cut.triangles)
          | some (source, target) =>
              let (split, twin) := cut.rings.bridge source target
              let sourceNext := split.next source
              let twinNext := split.next twin
              let (first, source) := split.dropFlat source sourceNext
              let (second, twin) := first.dropFlat twin twinNext
              let (rings, triangles) ← clipWithin bound .curve .untouched second source
              let (rings, others) ← clipWithin bound .curve .untouched rings twin
              some (rings, cut.triangles ++ triangles ++ others)

def clip (rings : Rings ι) (search : Search) (start : Slot) : Option (List (Triangle ι)) :=
  (clipWithin (4 * (rings.size + 2)) search .untouched rings start).map (·.2)

end Rings

/-! ## Polygons with holes -/

def curveThreshold : Nat := 40

def triangulateContours {ι : Type} [Inhabited ι] [DecidableEq ι]
    (outline : List (ι × Point2)) (holes : List (List (ι × Point2))) :
    Option (List (Triangle ι)) := do
  let (rings, entry) ← (Rings.empty : Rings ι).insertContour outline true
  let (rings, leftmosts) ← rings.insertHoles holes
  let (rings, outer) := rings.joinHoles entry.start leftmosts
  let contours := (outline :: holes).map fun contour => contour.map (·.2)
  if contours.flatten.length < curveThreshold then
    rings.clip .exhaustive outer
  else
    (rings.moveToOrigin (curveBounds contours)).clip .curve outer

/-- Cuts a list into pieces at ascending positions. None where a piece would be
empty or a position lies beyond the end. -/
def splitAt? {α : Type} (items : List α) (offset : Nat) : List Nat → Option (List (List α))
  | [] => if items.isEmpty then none else some [items]
  | position :: rest =>
      if offset < position ∧ position ≤ offset + items.length then do
        let pieces ← splitAt? (items.drop (position - offset)) position rest
        some (items.take (position - offset) :: pieces)
      else
        none

/-- Cuts the polygon whose contours make up `points` into triangles; `holeStarts`
are the positions of the first points of the holes. None if the contours are not
well formed or too far out for the curve. -/
def triangulate : (points : List Point2) → (holeStarts : List Nat) →
    Option (List (Triangle (Fin points.length)))
  | [], [] => some []
  | [], _ :: _ => none
  | first :: rest, holeStarts =>
      letI : Inhabited (Fin (rest.length + 1)) := ⟨⟨0, Nat.succ_pos rest.length⟩⟩
      let labelled : List (Fin (rest.length + 1) × Point2) :=
        List.ofFn fun position => (position, (first :: rest).get position)
      match splitAt? labelled 0 holeStarts with
      | some (outline :: holes) => triangulateContours outline holes
      | _ => none

end PlanarMesh.EarClip

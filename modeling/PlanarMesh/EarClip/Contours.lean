import PlanarMesh.EarClip.Curve
import PlanarMesh.EarClip.Filter

/-! # From contours to one ring

The outline becomes a ring that runs counter-clockwise, every hole one that runs
clockwise. The holes are then joined to the outline one after the other, from left
to right, by a bridge from the leftmost point of the hole.
-/

namespace PlanarMesh.EarClip

def greatest : Float := Float.ofBits 0x7FEFFFFFFFFFFFFF

def loopArea (loop : List Point2) : Float :=
  (predecessorPairs loop).foldl
    (fun sum edge => sum + (edge.1.u - edge.2.u) * (edge.2.v + edge.1.v)) 0.0

/-! ## Contours -/

structure Entry where
  start : Slot
  leftmost : Slot

namespace Rings

variable {ι : Type} [Inhabited ι]

def insertPoints (rings : Rings ι) (points : List (ι × Point2)) :
    Rings ι × Option Slot × Option Slot × Float :=
  points.foldl (fun (rings, last, leftmost, least) (label, point) =>
    let slot := rings.size
    let longer := rings.insertAfter last label point
    if point.u < least then
      (longer, some slot, some slot, point.u)
    else
      (longer, some slot, leftmost, least)) (rings, none, none, greatest)

/-- Makes a ring of a contour, turned round if it does not run as asked. A closing
point that repeats the first one is left out. None for a contour without points, or
without any point that has an abscissa. -/
def insertContour (rings : Rings ι) (contour : List (ι × Point2)) (clockwise : Bool) :
    Option (Rings ι × Entry) :=
  let ordered :=
    if clockwise = decide (0.0 < loopArea (contour.map (·.2))) then contour
    else contour.reverse
  match rings.insertPoints ordered with
  | (inserted, some last, some leftmost, _) =>
      let next := inserted.next last
      if inserted.point last == inserted.point next then
        let shorter := inserted.remove last
        some (shorter, ⟨shorter.next last, leftmost⟩)
      else
        some (inserted, ⟨last, leftmost⟩)
  | _ => none

def insertHoles (rings : Rings ι) :
    List (List (ι × Point2)) → Option (Rings ι × List Slot)
  | [] => some (rings, [])
  | hole :: rest => do
      let (inserted, entry) ← rings.insertContour hole false
      let marked :=
        if inserted.next entry.start = entry.start then
          inserted.change entry.start fun node => { node with isLone := true }
        else
          inserted
      let (complete, leftmosts) ← insertHoles marked rest
      some (complete, entry.leftmost :: leftmosts)

/-! ## Bridges -/

def edgeAt (point next : Point2) (height : Float) : Float :=
  point.u + (height - point.v) * (next.u - point.u) / (next.v - point.v)

inductive Nearest where
  | touching (slot : Slot)
  /-- The greatest abscissa so far, and the left end of its edge. -/
  | edge (abscissa : Float) (slot : Option Slot)

/-- Compares the edge at `slot` with what has been found to the left of `hole`.
Only edges that fall through the height of the hole count. -/
def nearer (rings : Rings ι) (hole : Point2) (found : Nearest) (slot : Slot) : Nearest :=
  match found with
  | .touching _ => found
  | .edge abscissa _ =>
      let next := rings.next slot
      let p := rings.point slot
      let n := rings.point next
      let reached := edgeAt p n hole.v
      if hole.v ≤ p.v ∧ n.v ≤ hole.v ∧ !(n.v == p.v) ∧ reached ≤ hole.u ∧
          abscissa < reached then
        if reached == hole.u && hole.v == p.v then .touching slot
        else if reached == hole.u && hole.v == n.v then .touching next
        else .edge reached (some (if p.u < n.u then slot else next))
      else
        found

/-- Among the nodes of a ring that hide the `visible` one from the hole, the one
with the smallest slope. -/
def leastSlope (rings : Rings ι) (hole : Slot) (abscissa : Float) (visible : Slot) : Slot :=
  let h := rings.point hole
  let corner := rings.point visible
  let left : Point2 := ⟨if h.v < corner.v then h.u else abscissa, h.v⟩
  let right : Point2 := ⟨if h.v < corner.v then abscissa else h.u, h.v⟩
  ((rings.walk (rings.next visible) visible).foldl (fun (best, least) slot =>
    let p := rings.point slot
    let slope := (h.v - p.v).abs / (h.u - p.u)
    if p.u < h.u ∧ corner.u ≤ p.u ∧ covers left corner right p ∧
        (slope < least ∨ (slope == least ∧ (rings.point best).u < p.u)) ∧
        rings.locallyInside slot h then
      (slot, slope)
    else
      (best, least)) (visible, greatest / 2.0)).1

/-- The node to which the leftmost node of a hole is joined; the anchor if no edge
lies to the left of the hole. -/
def bridgeEnd (rings : Rings ι) (hole outer : Slot) : Slot :=
  let h := rings.point hole
  match (rings.ring outer).foldl (rings.nearer h) (.edge (-1.0 / 0.0) none) with
  | .touching slot => slot
  | .edge _ none => anchor
  | .edge abscissa (some slot) =>
      if h.u == abscissa then rings.previous slot
      else rings.leastSlope hole abscissa slot

def joinHole (rings : Rings ι) (outer hole : Slot) : Rings ι × Slot :=
  let (bridged, twin) := rings.bridge (rings.bridgeEnd hole outer) hole
  let (mended, _) := bridged.dropFlat twin (bridged.next twin)
  mended.dropFlat outer (mended.next outer)

def joinHoles (rings : Rings ι) (outer : Slot) (leftmosts : List Slot) : Rings ι × Slot :=
  (leftmosts.mergeSort fun left right =>
    !decide ((rings.point right).u < (rings.point left).u)).foldl
      (fun (joined, outer) hole => joined.joinHole outer hole) (rings, outer)

end Rings

/-! ## Bounds -/

structure Bounds where
  low : Point2
  high : Point2

/-- The bounds that the curve is laid over. Only the least abscissa takes every
point into account; the other three look at as many points as the longest contour
has, from the front. -/
def curveBounds (contours : List (List Point2)) : Bounds :=
  let points := contours.flatten
  let longest := (contours.map List.length).foldl max 0
  let front := points.take longest
  { low :=
      { u := points.foldl (fun least point => lesser point.u least) greatest
        v := front.foldl (fun least point => lesser point.v least) greatest }
    high :=
      { u := front.foldl (fun most point => greater point.u most) (-greatest)
        v := front.foldl (fun most point => greater point.v most) (-greatest) } }

def Bounds.scale (bounds : Bounds) : Float :=
  let size := greater (bounds.high.u - bounds.low.u) (bounds.high.v - bounds.low.v)
  if size == 0.0 then 0.0 else 32767.0 / size

def Rings.moveToOrigin {ι : Type} (rings : Rings ι) (bounds : Bounds) : Rings ι :=
  { nodes := rings.nodes.map fun node =>
      { node with point := ⟨node.point.u - bounds.low.u, node.point.v - bounds.low.v⟩ }
    scale := bounds.scale }

end PlanarMesh.EarClip

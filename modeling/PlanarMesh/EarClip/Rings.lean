import PlanarMesh.Geometry.Plane

/-! # Rings of linked nodes

Ear clipping works on closed rings of points. A node carries a point, the caller's
label for it, and the slots of its two neighbours; all nodes lie in one table, and
a node that leaves its ring keeps its own links, so that a walk can go on from it.

Slot zero holds the `anchor`, a node at the origin that belongs to no ring. A walk
that has nowhere to go ends there.
-/

namespace PlanarMesh.EarClip

abbrev Slot := Nat

def anchor : Slot := 0

structure Node (ι : Type) where
  label : ι
  point : Point2
  previous : Slot
  next : Slot
  place : Int32
  previousOnCurve : Slot
  nextOnCurve : Slot
  /-- A contour of its own, which is kept even where it is flat. -/
  isLone : Bool

instance {ι : Type} [Inhabited ι] : Inhabited (Node ι) where
  default :=
    { label := default
      point := ⟨0.0, 0.0⟩
      previous := anchor
      next := anchor
      place := 0
      previousOnCurve := anchor
      nextOnCurve := anchor
      isLone := false }

structure Rings (ι : Type) where
  nodes : Array (Node ι)
  scale : Float

namespace Rings

variable {ι : Type} [Inhabited ι]

def empty : Rings ι := ⟨#[default], 0.0⟩

def size (rings : Rings ι) : Nat :=
  rings.nodes.size

def node (rings : Rings ι) (slot : Slot) : Node ι :=
  rings.nodes.getD slot default

def next (rings : Rings ι) (slot : Slot) : Slot :=
  (rings.node slot).next

def previous (rings : Rings ι) (slot : Slot) : Slot :=
  (rings.node slot).previous

def point (rings : Rings ι) (slot : Slot) : Point2 :=
  (rings.node slot).point

def label (rings : Rings ι) (slot : Slot) : ι :=
  (rings.node slot).label

def change (rings : Rings ι) (slot : Slot) (edit : Node ι → Node ι) : Rings ι :=
  { rings with nodes := rings.nodes.modify slot edit }

def setNext (rings : Rings ι) (slot target : Slot) : Rings ι :=
  rings.change slot fun node => { node with next := target }

def setPrevious (rings : Rings ι) (slot target : Slot) : Rings ι :=
  rings.change slot fun node => { node with previous := target }

def setNextOnCurve (rings : Rings ι) (slot target : Slot) : Rings ι :=
  rings.change slot fun node => { node with nextOnCurve := target }

def setPreviousOnCurve (rings : Rings ι) (slot target : Slot) : Rings ι :=
  rings.change slot fun node => { node with previousOnCurve := target }

/-! ## Walks -/

/-- The slots met from `slot` on, until `stop` comes next; at most `bound` many. -/
def walkWithin (rings : Rings ι) : (bound : Nat) → (slot stop : Slot) → List Slot
  | 0, _, _ => []
  | bound + 1, slot, stop =>
      let next := rings.next slot
      if next = stop then [slot] else slot :: walkWithin rings bound next stop

def walk (rings : Rings ι) (start stop : Slot) : List Slot :=
  rings.walkWithin rings.size start stop

def ring (rings : Rings ι) (start : Slot) : List Slot :=
  rings.walk start start

/-! ## Changes -/

/-- Puts a new node behind `last`, or makes it a ring of its own. The new node
lies in the slot that was the first free one. -/
def insertAfter (rings : Rings ι) (last : Option Slot) (label : ι) (point : Point2) :
    Rings ι :=
  let slot := rings.size
  let fresh : Node ι := { (default : Node ι) with label := label, point := point }
  match last with
  | none =>
      { rings with nodes := rings.nodes.push { fresh with previous := slot, next := slot } }
  | some last =>
      let next := rings.next last
      let linked := (rings.setPrevious next slot).setNext last slot
      { linked with nodes := linked.nodes.push { fresh with previous := last, next := next } }

def remove (rings : Rings ι) (slot : Slot) : Rings ι :=
  let node := rings.node slot
  (((rings.setNext node.previous node.next).setPrevious node.next node.previous).setNextOnCurve
    node.previousOnCurve node.nextOnCurve).setPreviousOnCurve
      node.nextOnCurve node.previousOnCurve

/-- Joins `source` to `target` by an edge run through both ways. Both nodes are
doubled; what was one ring becomes two, and what were two rings become one. The
answer's slot is that of the second node's double. -/
def bridge (rings : Rings ι) (source target : Slot) : Rings ι × Slot :=
  let sourceTwin := rings.size
  let targetTwin := sourceTwin + 1
  let sourceNext := rings.next source
  let targetPrevious := rings.previous target
  let linked :=
    (((rings.setNext source target).setPrevious target source).setPrevious
      sourceNext sourceTwin).setNext targetPrevious targetTwin
  let first : Node ι :=
    { (default : Node ι) with
      label := rings.label source
      point := rings.point source
      previous := targetTwin
      next := sourceNext }
  let second : Node ι :=
    { (default : Node ι) with
      label := rings.label target
      point := rings.point target
      previous := targetPrevious
      next := sourceTwin }
  ({ linked with nodes := (linked.nodes.push first).push second }, targetTwin)

end Rings

end PlanarMesh.EarClip

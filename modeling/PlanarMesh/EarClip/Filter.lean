import PlanarMesh.EarClip.Inside

/-! # Mending rings

`dropFlat` takes out nodes that add no area, `cutCrossings` cuts off small
self-intersections.
-/

namespace PlanarMesh.EarClip

namespace Rings

variable {ι : Type} [Inhabited ι]

/-- Whether a node may go: it repeats its successor, or its ring runs straight on
there. -/
def isFlat (rings : Rings ι) (slot : Slot) : Bool :=
  !(rings.node slot).isLone &&
  (rings.point slot == rings.point (rings.next slot) || rings.turnAt slot == 0.0)

def dropFlatWithin : (bound : Nat) → Rings ι → (slot stop : Slot) → Rings ι × Slot
  | 0, rings, _, stop => (rings, stop)
  | bound + 1, rings, slot, stop =>
      if rings.isFlat slot then
        let shorter := rings.remove slot
        let back := shorter.previous slot
        if shorter.next back = back then
          (shorter, back)
        else
          dropFlatWithin bound shorter back back
      else
        let next := rings.next slot
        if next = slot then (rings, anchor)
        else if next = stop then (rings, stop)
        else dropFlatWithin bound rings next stop

/-- Takes out flat nodes from `start` on until `stop` comes next. After a removal
the walk goes on from the node before and stops only when it is back there. The
answer's slot is where it stopped, or the anchor for a node alone in its ring. -/
def dropFlat (rings : Rings ι) (start stop : Slot) : Rings ι × Slot :=
  dropFlatWithin ((rings.size + 1) * (rings.size + 1)) rings start stop

def crossesAt (rings : Rings ι) (slot : Slot) : Bool :=
  let before := rings.previous slot
  let next := rings.next slot
  let after := rings.next next
  !(rings.point before == rings.point after) &&
  segmentsCross (rings.point before) (rings.point slot) (rings.point next)
    (rings.point after) &&
  rings.locallyInside before (rings.point after) &&
  rings.locallyInside after (rings.point before)

end Rings

end PlanarMesh.EarClip

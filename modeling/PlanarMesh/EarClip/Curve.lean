import PlanarMesh.EarClip.Inside

/-! # The space-filling curve

On large inputs the points are also linked in the order of a Z-shaped curve, so
that an ear is compared only with points of its neighbourhood.
-/

namespace PlanarMesh.EarClip

def wholePart? (value : Float) : Option Int64 :=
  if -9223372036854775808.0 ≤ value ∧ value < 9223372036854775808.0 then
    some value.toInt64
  else
    none

def spreadBits (word : Int64) : Int64 :=
  let word := (word ||| (word <<< 8)) &&& 0x00FF00FF00FF00FF
  let word := (word ||| (word <<< 4)) &&& 0x0F0F0F0F0F0F0F0F
  let word := (word ||| (word <<< 2)) &&& 0x3333333333333333
  (word ||| (word <<< 1)) &&& 0x5555555555555555

/-- The place of a point on the curve: the bits of its two cell numbers in turn.
There is none if a cell number is beyond all integers. -/
def curvePlace? (scale : Float) (point : Point2) : Option Int32 := do
  let u ← wholePart? (point.u * scale)
  let v ← wholePart? (point.v * scale)
  let word := spreadBits ((u <<< 32) ||| v)
  some ((word >>> 32) ||| (word <<< 1)).toInt32

/-- The lesser number; a NaN gives way. -/
def lesser (left right : Float) : Float :=
  if left.isNaN then right
  else if right.isNaN then left
  else if right < left then right else left

def greater (left right : Float) : Float :=
  if left.isNaN then right
  else if right.isNaN then left
  else if left < right then right else left

namespace Rings

variable {ι : Type} [Inhabited ι]

/-! ## Linking -/

def enterCurve (rings : Rings ι) (slot : Slot) : Option (Rings ι) := do
  let node := rings.node slot
  let place ← if node.place = 0 then curvePlace? rings.scale node.point else some node.place
  some (rings.change slot fun node =>
    { node with place, previousOnCurve := node.previous, nextOnCurve := node.next })

def linkCurve (rings : Rings ι) (previous : Slot) : List Slot → Rings ι
  | [] => rings.setNextOnCurve previous anchor
  | slot :: rest =>
      let linked := rings.setPreviousOnCurve slot previous
      (if previous = anchor then linked else linked.setNextOnCurve previous slot).linkCurve
        slot rest

/-- Links the nodes of a ring on the curve, in the order of their places. Nodes of
one place keep the order of the ring. -/
def indexCurve (rings : Rings ι) (start : Slot) : Option (Rings ι) := do
  let slots := rings.ring start
  let entered ← slots.foldlM enterCurve rings
  let cut := (entered.setNextOnCurve (entered.node start).previousOnCurve
    anchor).setPreviousOnCurve start anchor
  let reached := slots.takeWhile (· ≠ anchor)
  some (cut.linkCurve anchor
    (reached.mergeSort fun left right => decide ((cut.node left).place ≤ (cut.node right).place)))

/-! ## Searching the neighbourhood of an ear -/

/-- Whether a node keeps an ear from being cut: it lies in the ear, and its own
ring turns away there. -/
def blocks (rings : Rings ι) (before ear after slot : Slot) : Bool :=
  decide (slot ≠ before) && decide (slot ≠ after) &&
  covers (rings.point before) (rings.point ear) (rings.point after) (rings.point slot) &&
  decide (0.0 ≤ rings.turnAt slot)

/-- Goes along the curve both ways at once, as long as both sides stay between the
two places. None if a node blocks. -/
def searchBoth (rings : Rings ι) (blocking : Slot → Bool) (low high : Int32) :
    (bound : Nat) → (down up : Slot) → Option (Slot × Slot)
  | 0, down, up => some (down, up)
  | bound + 1, down, up =>
      if down ≠ anchor ∧ low ≤ (rings.node down).place ∧
          up ≠ anchor ∧ (rings.node up).place ≤ high then
        if blocking down || blocking up then
          none
        else
          searchBoth rings blocking low high bound
            (rings.node down).previousOnCurve (rings.node up).nextOnCurve
      else
        some (down, up)

def searchDown (rings : Rings ι) (blocking : Slot → Bool) (low : Int32) :
    (bound : Nat) → (slot : Slot) → Bool
  | 0, _ => false
  | bound + 1, slot =>
      if low ≤ (rings.node slot).place then
        blocking slot || searchDown rings blocking low bound (rings.node slot).previousOnCurve
      else
        false

def searchUp (rings : Rings ι) (blocking : Slot → Bool) (high : Int32) :
    (bound : Nat) → (slot : Slot) → Bool
  | 0, _ => false
  | bound + 1, slot =>
      if (rings.node slot).place ≤ high then
        blocking slot || searchUp rings blocking high bound (rings.node slot).nextOnCurve
      else
        false

def setAnchorPlace (rings : Rings ι) (place : Int32) : Rings ι :=
  rings.change anchor fun node => { node with place }

/-- Whether a node is an ear, by the points between the places of the corners of
its bounding box. The anchor is put just outside these places, where a search ends.
None if a corner has no place. -/
def isEarOnCurve (rings : Rings ι) (ear : Slot) : Option (Bool × Rings ι) :=
  let before := rings.previous ear
  let after := rings.next ear
  let a := rings.point before
  let b := rings.point ear
  let c := rings.point after
  if 0.0 ≤ turn a b c then
    some (false, rings)
  else do
    let low ← curvePlace? rings.scale
      ⟨lesser a.u (lesser b.u c.u), lesser a.v (lesser b.v c.v)⟩
    let high ← curvePlace? rings.scale
      ⟨greater a.u (greater b.u c.u), greater a.v (greater b.v c.v)⟩
    let blocking := rings.blocks before ear after
    let bound := rings.size + 1
    match rings.searchBoth blocking low high bound
        (rings.node ear).previousOnCurve (rings.node ear).nextOnCurve with
    | none => some (false, rings)
    | some (down, up) =>
        let lowered := rings.setAnchorPlace (low - 1)
        if lowered.searchDown blocking low bound down then
          some (false, lowered)
        else
          let raised := lowered.setAnchorPlace (high + 1)
          some (!raised.searchUp blocking high bound up, raised)

end Rings

end PlanarMesh.EarClip

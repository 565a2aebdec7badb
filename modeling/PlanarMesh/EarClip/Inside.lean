import PlanarMesh.EarClip.Rings

/-! # Where points lie

The tests that ear clipping makes on the points of a ring. Their answers near the
limits of floats depend on the order of every operation.
-/

namespace PlanarMesh.EarClip

/-- Twice the signed area of a triangle, negative when it runs counter-clockwise
as a ring does. -/
def turn (p q r : Point2) : Float :=
  (q.v - p.v) * (r.u - q.u) - (q.u - p.u) * (r.v - q.v)

def covers (a b c point : Point2) : Bool :=
  decide (0.0 ≤ (c.u - point.u) * (a.v - point.v) - (a.u - point.u) * (c.v - point.v)) &&
  decide (0.0 ≤ (a.u - point.u) * (b.v - point.v) - (b.u - point.u) * (a.v - point.v)) &&
  decide (0.0 ≤ (b.u - point.u) * (c.v - point.v) - (c.u - point.u) * (b.v - point.v))

def segmentsCross (start₁ end₁ start₂ end₂ : Point2) : Bool :=
  if (start₁ == start₂ && end₁ == end₂) || (start₁ == end₂ && end₁ == start₂) then
    true
  else
    (decide (0.0 < turn start₁ end₁ start₂) != decide (0.0 < turn start₁ end₁ end₂)) &&
    (decide (0.0 < turn start₂ end₂ start₁) != decide (0.0 < turn start₂ end₂ end₁))

namespace Rings

variable {ι : Type} [Inhabited ι]

def turnAt (rings : Rings ι) (slot : Slot) : Float :=
  turn (rings.point (rings.previous slot)) (rings.point slot) (rings.point (rings.next slot))

def locallyInside (rings : Rings ι) (slot : Slot) (point : Point2) : Bool :=
  let here := rings.point slot
  let before := rings.point (rings.previous slot)
  let after := rings.point (rings.next slot)
  if turn before here after < 0.0 then
    decide (0.0 ≤ turn here point after) && decide (0.0 ≤ turn here before point)
  else
    decide (turn here point before < 0.0) || decide (turn here after point < 0.0)

def middleInside (rings : Rings ι) (source target : Slot) : Bool :=
  let a := rings.point source
  let b := rings.point target
  let u := (a.u + b.u) / 2.0
  let v := (a.v + b.v) / 2.0
  (rings.ring source).foldl (fun inside slot =>
    let p := rings.point slot
    let n := rings.point (rings.next slot)
    if (decide (v < p.v) != decide (v < n.v)) && !(n.v == p.v) &&
        decide (u < (n.u - p.u) * (v - p.v) / (n.v - p.v) + p.u) then
      !inside
    else
      inside) false

variable [DecidableEq ι]

def crossesRing (rings : Rings ι) (source target : Slot) : Bool :=
  (rings.ring source).any fun slot =>
    let next := rings.next slot
    decide (rings.label slot ≠ rings.label source) &&
    decide (rings.label next ≠ rings.label source) &&
    decide (rings.label slot ≠ rings.label target) &&
    decide (rings.label next ≠ rings.label target) &&
    segmentsCross (rings.point slot) (rings.point next)
      (rings.point source) (rings.point target)

def isDiagonal (rings : Rings ι) (source target : Slot) : Bool :=
  decide (rings.label (rings.next source) ≠ rings.label target) &&
  decide (rings.label (rings.previous source) ≠ rings.label target) &&
  !rings.crossesRing source target &&
  rings.locallyInside source (rings.point target) &&
  rings.locallyInside target (rings.point source) &&
  rings.middleInside source target

end Rings

end PlanarMesh.EarClip

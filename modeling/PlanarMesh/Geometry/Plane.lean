import PlanarMesh.Geometry.Space

/-! # Projection of a loop onto its plane

A plane carries two axes such that a loop running counter-clockwise around the
normal stays counter-clockwise after projection. On the plane, `orientation`
measures triangles and `Loop.contains` tests points against a closed loop.
-/

namespace PlanarMesh

structure Point2 where
  u : Float
  v : Float
deriving BEq, Inhabited

structure Plane where
  origin : Point3
  uAxis : Vec3
  vAxis : Vec3

namespace Plane

/-- The unit normal used for projecting: the given one, else the outline's own,
else the vertical. -/
def unitNormal (normal : Vec3) (outline : List Point3) : Vec3 :=
  (normal.normalized?.or (newellNormal? outline)).getD Vec3.unitZ

/-- The plane perpendicular to `normal` through the first outline vertex. The
first axis is the coordinate axis that is farther from the normal, made
perpendicular to it. -/
def through (normal : Vec3) (outline : List Point3) : Plane :=
  let unit := unitNormal normal outline
  let helper := if unit.x.abs < 0.9 then Vec3.unitX else Vec3.unitY
  let uAxis := (helper - unit * helper.dot unit).normalized?.getD Vec3.unitX
  { origin := outline.head?.getD Point3.origin
    uAxis := uAxis
    vAxis := unit.cross uAxis }

def project (plane : Plane) (point : Point3) : Point2 :=
  let offset := point - plane.origin
  ⟨offset.dot plane.uAxis, offset.dot plane.vAxis⟩

end Plane

/-- Twice the signed area of a triangle, positive when it runs
counter-clockwise. -/
def orientation (a b c : Point2) : Float :=
  (b.u - a.u) * (c.v - a.v) - (b.v - a.v) * (c.u - a.u)

namespace Loop

def straddles (previous current point : Point2) : Bool :=
  decide (point.v < current.v) != decide (point.v < previous.v)

def crossing (previous current point : Point2) : Float :=
  current.u + (point.v - current.v) * (previous.u - current.u) / (previous.v - current.v)

def crossesRight (previous current point : Point2) : Bool :=
  straddles previous current point && decide (point.u < crossing previous current point)

/-- Even-odd containment: going round the loop, every crossing of the ray changes
the side. -/
def contains (loop : List Point2) (point : Point2) : Bool :=
  (predecessorPairs loop).foldl
    (fun inside edge => if crossesRight edge.1 edge.2 point then !inside else inside) false

end Loop

/-! ## Triangles by their corners -/

structure Triangle (α : Type) where
  first : α
  second : α
  third : α
deriving DecidableEq, Repr

namespace Triangle

variable {α β : Type}

def map (change : α → β) (triangle : Triangle α) : Triangle β :=
  ⟨change triangle.first, change triangle.second, change triangle.third⟩

def corners (triangle : Triangle α) : List α :=
  [triangle.first, triangle.second, triangle.third]

def reversed (triangle : Triangle α) : Triangle α :=
  ⟨triangle.first, triangle.third, triangle.second⟩

def cornerList (triangles : List (Triangle α)) : List α :=
  triangles.flatMap corners

end Triangle

end PlanarMesh

/-! # Vectors and points in space

Coordinates are double-precision floats, and every operation fixes the order in
which it rounds. Equality of vectors and points is equality of floats in each
coordinate, so a vector with a NaN differs from itself and the two zeros agree.
-/

namespace PlanarMesh

structure Vec3 where
  x : Float
  y : Float
  z : Float
deriving BEq, Inhabited

namespace Vec3

def zero : Vec3 := ⟨0.0, 0.0, 0.0⟩

def unitX : Vec3 := ⟨1.0, 0.0, 0.0⟩

def unitY : Vec3 := ⟨0.0, 1.0, 0.0⟩

def unitZ : Vec3 := ⟨0.0, 0.0, 1.0⟩

instance : Add Vec3 where
  add left right := ⟨left.x + right.x, left.y + right.y, left.z + right.z⟩

instance : Sub Vec3 where
  sub left right := ⟨left.x - right.x, left.y - right.y, left.z - right.z⟩

instance : Neg Vec3 where
  neg vector := ⟨-vector.x, -vector.y, -vector.z⟩

instance : HMul Vec3 Float Vec3 where
  hMul vector factor := ⟨vector.x * factor, vector.y * factor, vector.z * factor⟩

def toList (vector : Vec3) : List Float :=
  [vector.x, vector.y, vector.z]

def dot (left right : Vec3) : Float :=
  left.x * right.x + left.y * right.y + left.z * right.z

def cross (left right : Vec3) : Vec3 where
  x := left.y * right.z - left.z * right.y
  y := left.z * right.x - left.x * right.z
  z := left.x * right.y - left.y * right.x

def lengthSquared (vector : Vec3) : Float :=
  vector.dot vector

def length (vector : Vec3) : Float :=
  vector.lengthSquared.sqrt

/-- The unit vector of the same direction. A vector whose computed length is
zero, infinite or NaN has none. -/
def normalized? (vector : Vec3) : Option Vec3 :=
  let length := vector.length
  if length.isFinite && decide (0.0 < length) then
    some ⟨vector.x / length, vector.y / length, vector.z / length⟩
  else
    none

def isFinite (vector : Vec3) : Bool :=
  vector.x.isFinite && vector.y.isFinite && vector.z.isFinite

end Vec3

structure Point3 where
  x : Float
  y : Float
  z : Float
deriving BEq, Inhabited

namespace Point3

def origin : Point3 := ⟨0.0, 0.0, 0.0⟩

instance : HAdd Point3 Vec3 Point3 where
  hAdd point shift := ⟨point.x + shift.x, point.y + shift.y, point.z + shift.z⟩

instance : HSub Point3 Point3 Vec3 where
  hSub left right := ⟨left.x - right.x, left.y - right.y, left.z - right.z⟩

def toList (point : Point3) : List Float :=
  [point.x, point.y, point.z]

def distanceSquared (left right : Point3) : Float :=
  (left - right).lengthSquared

def isFinite (point : Point3) : Bool :=
  point.x.isFinite && point.y.isFinite && point.z.isFinite

end Point3

/-! ## Closed loops of points

A list of vertices stands for a closed loop: the last vertex is followed by the
first.
-/

def successorPairs {α : Type} : List α → List (α × α)
  | [] => []
  | first :: rest => (first :: rest).zip (rest ++ [first])

def predecessorPairs {α : Type} : List α → List (α × α)
  | [] => []
  | first :: rest =>
      ((first :: rest).getLast (List.cons_ne_nil first rest) :: first :: rest).zip
        (first :: rest)

def areaTerm (current next : Point3) : Vec3 where
  x := (current.y - next.y) * (current.z + next.z)
  y := (current.z - next.z) * (current.x + next.x)
  z := (current.x - next.x) * (current.y + next.y)

/-- Unit normal of a loop by Newell's method: the direction of the sum over its
edges. Fewer than three vertices, or no area, give none. -/
def newellNormal? (loop : List Point3) : Option Vec3 :=
  if loop.length < 3 then
    none
  else
    ((successorPairs loop).foldl
      (fun sum edge => sum + areaTerm edge.1 edge.2) Vec3.zero).normalized?

/-! ## Tolerances -/

structure Tolerance where
  eps : Float
deriving BEq

namespace Tolerance

def general : Tolerance := ⟨1e-9⟩

/-- Squared distance up to which two ring vertices count as one: `2⁻⁵²`, the gap
between one and the next float. -/
def duplicateVertex : Tolerance := ⟨Float.ofBits 0x3CB0000000000000⟩

instance : Inhabited Tolerance := ⟨general⟩

def epsSquared (tolerance : Tolerance) : Float :=
  tolerance.eps * tolerance.eps

end Tolerance

end PlanarMesh

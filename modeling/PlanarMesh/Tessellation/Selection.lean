import PlanarMesh.Geometry.Plane

/-! # Choosing contours

Before a polygon is cut, holes that cannot matter are left out: those with fewer
than three points, and those without any vertex inside the outline. Every point
that is kept carries its position among all vertices.
-/

namespace PlanarMesh

structure PlacedContour where
  start : Nat
  points : List Point2

namespace PlacedContour

def place (start : Nat) : List (List Point2) → List PlacedContour
  | [] => []
  | points :: rest => ⟨start, points⟩ :: place (start + points.length) rest

def corners (contour : PlacedContour) : List (Nat × Point2) :=
  contour.points.zipIdx contour.start |>.map fun (point, position) => (position, point)

end PlacedContour

inductive HoleVerdict where
  | accepted
  | tooShort
  | outside
deriving DecidableEq, Repr

def judgeHole (outline hole : List Point2) : HoleVerdict :=
  if hole.length < 3 then .tooShort
  else if hole.any (Loop.contains outline) then .accepted
  else .outside

structure Selection where
  corners : List (Nat × Point2)
  holeStarts : List Nat

namespace Selection

def startsFrom (start : Nat) : List PlacedContour → List Nat
  | [] => []
  | contour :: rest => start :: startsFrom (start + contour.points.length) rest

def ofContours (outline : PlacedContour) (holes : List PlacedContour) : Selection :=
  { corners := outline.corners ++ holes.flatMap PlacedContour.corners
    holeStarts := startsFrom outline.points.length holes }

def points (selection : Selection) : List Point2 :=
  selection.corners.map (·.2)

def source (selection : Selection) : List Nat :=
  selection.corners.map (·.1)

def corner (selection : Selection) (position : Fin selection.points.length) : Nat × Point2 :=
  selection.corners.get (position.cast (by simp [points]))

/-- The corner at a position in `points`, read back from `all` projected points. Its
position among them is kept in 32 bits. -/
def storedCorner (selection : Selection) (all : List Point2)
    (position : Fin selection.points.length) : Nat × Point2 :=
  let corner := selection.corner position
  let kept := (UInt32.ofNat corner.1).toNat
  (kept, all[kept]?.getD corner.2)

end Selection

end PlanarMesh

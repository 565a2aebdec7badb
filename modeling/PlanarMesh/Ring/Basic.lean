import PlanarMesh.Appearance.Target
import PlanarMesh.Geometry.Space
import PlanarMesh.Log.Emission

/-! # Rings

A ring is a closed loop of vertices that bounds a polygon from outside or inside. Its
duplicate vertices can be removed. One pass goes round the ring and takes out every
vertex that coincides with its successor, the last vertex being followed by the first
one that is left. It never leaves fewer than two vertices. Texture coordinates for the
ring are erased at the same positions, so that each stays with its vertex.
-/

namespace PlanarMesh

structure Ring where
  id : String
  isExterior : Bool
  vertices : List Point3
deriving BEq

namespace Ring

def size (ring : Ring) : Nat :=
  ring.vertices.length

def isEmpty (ring : Ring) : Bool :=
  ring.vertices.isEmpty

def addVertex (ring : Ring) (vertex : Point3) : Ring :=
  { ring with vertices := ring.vertices ++ [vertex] }

def totalSize : List Ring → Nat
  | [] => 0
  | ring :: rest => ring.size + totalSize rest

def emptied (ring : Ring) : Ring :=
  { ring with vertices := [] }

/-- Unit normal by Newell's method; zero for a ring without area. -/
def normal (ring : Ring) : Vec3 :=
  (newellNormal? ring.vertices).getD Vec3.zero

end Ring

/-! ## Duplicate vertices -/

def coincide (left right : Point3) : Bool :=
  decide (left.distanceSquared right ≤ Tolerance.duplicateVertex.eps)

/-- The positions at which the pass takes out vertices, each counted in what is
left at that moment. So far `kept` vertices were kept, the first of them `first`;
the pass ends when two vertices are left in all. -/
def duplicatePositions (kept : Nat) (first : Option Point3) : List Point3 → List Nat
  | [] => []
  | vertex :: ahead =>
      if kept + 1 + ahead.length ≤ 2 then
        []
      else if coincide vertex (ahead.head?.getD (first.getD vertex)) then
        kept :: duplicatePositions kept first ahead
      else
        duplicatePositions (kept + 1) (first.or (some vertex)) ahead

def eraseAll {α : Type} (positions : List Nat) (items : List α) : List α :=
  positions.foldl List.eraseIdx items

namespace TextureTarget

def eraseFor (target : TextureTarget) (ringId : String) (positions : List Nat) :
    TextureTarget :=
  { target with
    coordinates := target.coordinates.map fun coordinates =>
      if coordinates.targets ringId then
        positions.foldl (fun coordinates position => (coordinates.erase position).2) coordinates
      else
        coordinates }

end TextureTarget

namespace Ring

def mismatchText (ring : Ring) (coordinates : TextureCoordinates) : String :=
  let ringId := ring.id
  let vertexCount := ring.size
  let listId := coordinates.id
  let coordCount := coordinates.size
  s!"Number of vertices in LinearRing with id '{ringId}' ({vertexCount}) does not match with number of texture coordinates in coordinates list with id '{listId}' ({coordCount})"

def reportMismatches (ring : Ring) (targets : List TextureTarget)
    (logger : Option Listener) : Logged Unit :=
  (targets.flatMap (·.coordinates)).forM fun coordinates =>
    if coordinates.targets ring.id && coordinates.size != ring.size then
      Logged.tell logger .warning (.formatted fun _ => ring.mismatchText coordinates)
    else
      pure ()

structure Cleaned where
  removed : Nat
  ring : Ring
  targets : List TextureTarget

def removeDuplicates (ring : Ring) (targets : List TextureTarget)
    (logger : Option Listener) : Logged Cleaned := do
  ring.reportMismatches targets logger
  let positions := duplicatePositions 0 none ring.vertices
  let removed := positions.length
  if removed > 0 then
    let ringId := ring.id
    Logged.note .trace s!"removed {removed} duplicate vertices from ring '{ringId}'"
  pure
    { removed
      ring := { ring with vertices := eraseAll positions ring.vertices }
      targets := targets.map (·.eraseFor ring.id positions) }

end Ring

end PlanarMesh

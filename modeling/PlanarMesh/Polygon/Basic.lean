import PlanarMesh.Appearance.Target
import PlanarMesh.Diagnostics.Basic
import PlanarMesh.Log.Emission
import PlanarMesh.Ring.Basic

/-! # Polygons

A polygon has an exterior ring and any number of interior rings. While it is open
it accepts rings; once finished it has a `Surface`, its rings are empty, and it
changes no more. Its appearances may be bound at any time.
-/

namespace PlanarMesh

structure Surface where
  normal : Vec3
  vertices : List Point3
  indices : List UInt32
  diagnostics : Diagnostics

namespace Surface

def blank : Surface := ⟨Vec3.zero, [], [], .empty⟩

end Surface

structure Polygon where
  id : String
  logger : Option Listener
  exterior : Option Ring
  interior : List Ring
  negNormal : Bool
  appearance : AppearanceTarget
  /-- None while the polygon is open. -/
  surface : Option Surface

inductive PolygonError where
  | ringAfterFinish (polygonId : String) (ring : Ring)
  | orientationAfterFinish (polygonId : String)
  | tessellation (cause : TessellationError)

namespace PolygonError

def message : PolygonError → String
  | .ringAfterFinish polygonId ring =>
      let ringId := ring.id
      s!"can't add LinearRing '{ringId}' to finished Polygon '{polygonId}'"
  | .orientationAfterFinish polygonId =>
      s!"can't change the normal orientation of finished Polygon '{polygonId}'"
  | .tessellation cause => cause.message

def rejectedRing? : PolygonError → Option Ring
  | .ringAfterFinish _ ring => some ring
  | _ => none

end PolygonError

namespace Polygon

def named (id : String) (logger : Option Listener) : Polygon :=
  ⟨id, logger, none, [], false, .empty, none⟩

def isFinished (polygon : Polygon) : Bool :=
  polygon.surface.isSome

/-- The exterior ring first, then the interior ones as they were added. -/
def rings (polygon : Polygon) : List Ring :=
  polygon.exterior.toList ++ polygon.interior

/-! ## Results -/

def shown (polygon : Polygon) : Surface :=
  polygon.surface.getD .blank

def vertices (polygon : Polygon) : List Point3 :=
  polygon.shown.vertices

def indices (polygon : Polygon) : List UInt32 :=
  polygon.shown.indices

def normal (polygon : Polygon) : Vec3 :=
  polygon.shown.normal

def diagnostics (polygon : Polygon) : Diagnostics :=
  polygon.shown.diagnostics

def ringNormal (polygon : Polygon) : Vec3 :=
  match polygon.exterior with
  | none => Vec3.zero
  | some ring => if polygon.negNormal then -ring.normal else ring.normal

/-! ## Building -/

def setNegNormal (polygon : Polygon) (negNormal : Bool) :
    Except PolygonError Unit × Polygon :=
  if polygon.isFinished then
    (.error (.orientationAfterFinish polygon.id), polygon)
  else
    (.ok (), { polygon with negNormal })

def secondExteriorText (polygonId keptId ringId : String) : String :=
  s!"Duplicate definition of exterior LinearRing for Polygon with id '{polygonId}'. Keeping exterior LinearRing with id '{keptId}' and ignore LinearRing with id '{ringId}'"

/-- Adds a ring to an open polygon. A second exterior ring is dropped with a
warning. -/
def addRing (polygon : Polygon) (ring : Ring) : Logged (Except PolygonError Unit × Polygon) :=
  if polygon.isFinished then
    pure (.error (.ringAfterFinish polygon.id ring), polygon)
  else if ring.isExterior then
    match polygon.exterior with
    | none => pure (.ok (), { polygon with exterior := some ring })
    | some kept => do
        Logged.tell polygon.logger .warning
          (.formatted fun _ => secondExteriorText polygon.id kept.id ring.id)
        pure (.ok (), polygon)
  else
    pure (.ok (), { polygon with interior := polygon.interior ++ [ring] })

def bindTexture (polygon : Polygon) (target : TextureTarget) : Polygon :=
  { polygon with appearance := polygon.appearance.addTexture target }

def bindMaterial (polygon : Polygon) (target : MaterialTarget) : Polygon :=
  { polygon with appearance := polygon.appearance.addMaterial target }

end Polygon

end PlanarMesh

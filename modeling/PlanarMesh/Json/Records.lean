import PlanarMesh.Appearance.Target
import PlanarMesh.Geometry.Space
import PlanarMesh.Json.Standard
import PlanarMesh.Polygon.Finish

/-! # Geometry and settings in JSON

Each type is written as an object of its fields, and read from such an object or
from an array of the fields in order. Every coordinate has to be there, while a
setting that is left out is on.
-/

namespace PlanarMesh

namespace Json

def numberShape (names : List String) : RecordShape Float := ⟨names, .number, none⟩

/-- A record of flags that are on unless they are given. -/
def settingShape (names : List String) : RecordShape Bool := ⟨names, .flag, some true⟩

end Json

open Json

namespace Vec3

def shape : RecordShape Float := numberShape ["x", "y", "z"]

def document (vector : Vec3) : Document :=
  .object [("x", .number vector.x), ("y", .number vector.y), ("z", .number vector.z)]

def ofFields? : List Float → Option Vec3
  | [x, y, z] => some ⟨x, y, z⟩
  | _ => none

def decodeBy (codec : Codec) (text : String) : Except Fault Vec3 :=
  codec.decode shape ofFields? text

def decode (text : String) : Except Fault Vec3 :=
  decodeBy .nearest text

end Vec3

namespace Point3

def shape : RecordShape Float := numberShape ["x", "y", "z"]

def document (point : Point3) : Document :=
  .object [("x", .number point.x), ("y", .number point.y), ("z", .number point.z)]

def ofFields? : List Float → Option Point3
  | [x, y, z] => some ⟨x, y, z⟩
  | _ => none

def decodeBy (codec : Codec) (text : String) : Except Fault Point3 :=
  codec.decode shape ofFields? text

def decode (text : String) : Except Fault Point3 :=
  decodeBy .nearest text

end Point3

namespace TexCoord

def shape : RecordShape Float := numberShape ["u", "v"]

def document (coordinate : TexCoord) : Document :=
  .object [("u", .number coordinate.u), ("v", .number coordinate.v)]

def ofFields? : List Float → Option TexCoord
  | [u, v] => some ⟨u, v⟩
  | _ => none

def decodeBy (codec : Codec) (text : String) : Except Fault TexCoord :=
  codec.decode shape ofFields? text

def decode (text : String) : Except Fault TexCoord :=
  decodeBy .nearest text

end TexCoord

namespace Tolerance

def shape : RecordShape Float := numberShape ["eps"]

def document (tolerance : Tolerance) : Document :=
  .object [("eps", .number tolerance.eps)]

def ofFields? : List Float → Option Tolerance
  | [eps] => some ⟨eps⟩
  | _ => none

def decodeBy (codec : Codec) (text : String) : Except Fault Tolerance :=
  codec.decode shape ofFields? text

def decode (text : String) : Except Fault Tolerance :=
  decodeBy .nearest text

end Tolerance

namespace BuildOptions

def shape : RecordShape Bool := settingShape ["tesselate", "optimize"]

def document (options : BuildOptions) : Document :=
  .object [("tesselate", .flag options.tessellate), ("optimize", .flag options.optimize)]

def ofFields? : List Bool → Option BuildOptions
  | [tessellate, optimize] => some ⟨tessellate, optimize⟩
  | _ => none

def decodeBy (codec : Codec) (text : String) : Except Fault BuildOptions :=
  codec.decode shape ofFields? text

def decode (text : String) : Except Fault BuildOptions :=
  decodeBy .nearest text

end BuildOptions

end PlanarMesh

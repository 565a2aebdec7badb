import PlanarMesh.Mesh.Basic
import PlanarMesh.Polygon.Basic

/-! # Meshes of polygons

Texture coordinates are stored ring by ring. For a mesh they are put one behind the
other in the order of the rings and then fitted to the vertex buffer.
-/

namespace PlanarMesh

/-- As many items as asked for: surplus ones are cut, missing ones repeat the last
item or are the spare one if there is none. -/
def fitted {α : Type} (items : List α) (spare : α) (count : Nat) : List α :=
  items.take count ++ List.replicate (count - items.length) (items.getLast?.getD spare)

namespace Polygon

def countMismatchText (textureId polygonId : String) (ringCount listCount : Nat) : String :=
  s!"Texture with id '{textureId}' targets Polygon with id '{polygonId}' but the number of TextureCoordinates objects is not equal with the number of LinearRing objects. (Ring objects: {ringCount} TextureCoordinates objects: {listCount})"

def missingListText (textureId polygonId ringId : String) : String :=
  s!"Texture with id '{textureId}' targets Polygon with id '{polygonId}' but does not contain a TextureCoordinates object for LinearRing with id '{ringId}'"

def gatherCoords (polygon : Polygon) (target : TextureTarget) : Logged (List TexCoord) := do
  let lists ← polygon.rings.mapM fun ring =>
    match target.coordinatesFor? ring.id with
    | some coordinates => pure coordinates.coords
    | none => do
        Logged.tell polygon.logger .warning
          (.formatted fun _ =>
            missingListText target.texture.value.info.id polygon.id ring.id)
        pure []
  pure lists.flatten

/-- Texture coordinates under a theme on a side, one for each vertex; none at all
if no texture is bound there. -/
def texCoords (polygon : Polygon) (theme : String) (front : Bool) : Logged (List TexCoord) :=
  match polygon.appearance.textureTarget? theme front with
  | none => pure []
  | some target => do
      let ringCount := polygon.rings.length
      let listCount := target.coordinates.length
      if listCount ≠ ringCount then
        Logged.tell polygon.logger .warning
          (.formatted fun _ =>
            countMismatchText target.texture.value.info.id polygon.id ringCount listCount)
      let coords ← polygon.gatherCoords target
      pure (fitted coords TexCoord.origin polygon.vertices.length)

/-- The mesh of a polygon. It has normals if the polygon has one, and texture
coordinates if a theme is given under which a texture is bound. -/
def toMesh (polygon : Polygon) (theme : Option String) (front : Bool) : Logged Mesh := do
  let bound := theme.filter fun theme =>
    (polygon.appearance.textureTarget? theme front).isSome
  let uvs ← bound.mapM fun theme => polygon.texCoords theme front
  pure
    { positions := polygon.vertices
      indices := polygon.indices
      uvs
      normals :=
        if polygon.normal != Vec3.zero then
          some (polygon.vertices.map fun _ => polygon.normal)
        else
          none }

end Polygon

end PlanarMesh

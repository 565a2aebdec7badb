import Std.Data.TreeMap
import PlanarMesh.Appearance.Surface

/-! # Bindings of appearances to a polygon

A `TextureTarget` binds a texture, with coordinates for each ring, and a
`MaterialTarget` binds a material. The coordinates come in lists that name a ring by its
id and hold one for each of its vertices. An `AppearanceTarget` keeps all bindings of
one polygon and finds the one that applies under a theme on a side: the one bound last.
A binding that has been replaced stays listed.
-/

namespace PlanarMesh

/-! ## Texture coordinates -/

structure TexCoord where
  u : Float
  v : Float
deriving BEq

namespace TexCoord

def origin : TexCoord := ⟨0.0, 0.0⟩

instance : Inhabited TexCoord := ⟨origin⟩

def toList (coordinate : TexCoord) : List Float :=
  [coordinate.u, coordinate.v]

end TexCoord

structure TextureCoordinates where
  id : String
  targetRingId : String
  coords : List TexCoord

namespace TextureCoordinates

def size (coordinates : TextureCoordinates) : Nat :=
  coordinates.coords.length

def isEmpty (coordinates : TextureCoordinates) : Bool :=
  coordinates.coords.isEmpty

def targets (coordinates : TextureCoordinates) (ringId : String) : Bool :=
  coordinates.targetRingId == ringId

/-- Takes out the coordinate at a position. Beyond the end nothing happens, and the
answer is false. -/
def erase (coordinates : TextureCoordinates) (position : Nat) : Bool × TextureCoordinates :=
  (decide (position < coordinates.size),
    { coordinates with coords := coordinates.coords.eraseIdx position })

end TextureCoordinates

/-! ## Bindings -/

structure TextureTarget where
  targetId : String
  texture : Shared Texture
  coordinates : List TextureCoordinates

namespace TextureTarget

def coordinatesFor? (target : TextureTarget) (ringId : String) : Option TextureCoordinates :=
  target.coordinates.find? (·.targets ringId)

end TextureTarget

structure MaterialTarget where
  targetId : String
  material : Shared Material

/-! ## Lookup by theme and side -/

/-- For each theme on each side, the position of the binding that applies. -/
structure ThemeIndex where
  front : Std.TreeMap String Nat
  back : Std.TreeMap String Nat

namespace ThemeIndex

def empty : ThemeIndex := ⟨∅, ∅⟩

def side (index : ThemeIndex) (front : Bool) : Std.TreeMap String Nat :=
  if front then index.front else index.back

def find? (index : ThemeIndex) (theme : String) (front : Bool) : Option Nat :=
  (index.side front)[theme]?

def insert (index : ThemeIndex) (theme : String) (front : Bool) (position : Nat) :
    ThemeIndex :=
  if front then { index with front := index.front.insert theme position }
  else { index with back := index.back.insert theme position }

def register (index : ThemeIndex) (info : AppearanceInfo) (position : Nat) : ThemeIndex :=
  info.themes.foldl (fun index theme => index.insert theme info.isFront position) index

def themes (index : ThemeIndex) (front : Bool) : List String :=
  (index.side front).keys

end ThemeIndex

structure AppearanceTarget where
  textureTargets : List TextureTarget
  materialTargets : List MaterialTarget
  textureIndex : ThemeIndex
  materialIndex : ThemeIndex

namespace AppearanceTarget

def empty : AppearanceTarget := ⟨[], [], .empty, .empty⟩

def addTexture (appearance : AppearanceTarget) (target : TextureTarget) : AppearanceTarget :=
  { appearance with
    textureTargets := appearance.textureTargets ++ [target]
    textureIndex :=
      appearance.textureIndex.register target.texture.value.info
        appearance.textureTargets.length }

def addMaterial (appearance : AppearanceTarget) (target : MaterialTarget) : AppearanceTarget :=
  { appearance with
    materialTargets := appearance.materialTargets ++ [target]
    materialIndex :=
      appearance.materialIndex.register target.material.value.info
        appearance.materialTargets.length }

def textureTarget? (appearance : AppearanceTarget) (theme : String) (front : Bool) :
    Option TextureTarget :=
  (appearance.textureIndex.find? theme front).bind (appearance.textureTargets[·]?)

def materialTarget? (appearance : AppearanceTarget) (theme : String) (front : Bool) :
    Option MaterialTarget :=
  (appearance.materialIndex.find? theme front).bind (appearance.materialTargets[·]?)

def texture? (appearance : AppearanceTarget) (theme : String) (front : Bool) :
    Option (Shared Texture) :=
  (appearance.textureTarget? theme front).map (·.texture)

def material? (appearance : AppearanceTarget) (theme : String) (front : Bool) :
    Option (Shared Material) :=
  (appearance.materialTarget? theme front).map (·.material)

/-- The texture on the front, else the one on the back. -/
def anyTexture? (appearance : AppearanceTarget) (theme : String) : Option (Shared Texture) :=
  (appearance.texture? theme true).or (appearance.texture? theme false)

def anyMaterial? (appearance : AppearanceTarget) (theme : String) : Option (Shared Material) :=
  (appearance.material? theme true).or (appearance.material? theme false)

def textureThemes (appearance : AppearanceTarget) (front : Bool) : List String :=
  appearance.textureIndex.themes front

def materialThemes (appearance : AppearanceTarget) (front : Bool) : List String :=
  appearance.materialIndex.themes front

/-- Erases one coordinate: the binding and its coordinate list are given by their
positions. None if there is no such list. -/
def eraseCoordinate (appearance : AppearanceTarget) (binding list position : Nat) :
    Option (Bool × AppearanceTarget) := do
  let target ← appearance.textureTargets[binding]?
  let coordinates ← target.coordinates[list]?
  let (erased, shorter) := coordinates.erase position
  let changed := { target with coordinates := target.coordinates.set list shorter }
  some (erased,
    { appearance with textureTargets := appearance.textureTargets.set binding changed })

def bindingsOf (appearance : AppearanceTarget) (texture : Shared Texture) : Nat :=
  appearance.textureTargets.countP (·.texture.identity == texture.identity)

end AppearanceTarget

end PlanarMesh

/-! # Textures and materials

An appearance applies under its themes, to one side of a face. The same appearance
may serve many polygons; `Shared` tells the very same object from one that only
looks alike.
-/

namespace PlanarMesh

structure AppearanceInfo where
  id : String
  themes : List String
  isFront : Bool
deriving DecidableEq, Repr

namespace AppearanceInfo

def named (id : String) : AppearanceInfo := ⟨id, [], true⟩

def withTheme (info : AppearanceInfo) (theme : String) : AppearanceInfo :=
  { info with themes := info.themes ++ [theme] }

end AppearanceInfo

structure Shared (α : Type) where
  /-- Objects with one identity are one object. -/
  identity : Nat
  value : α

/-! ## Textures -/

inductive WrapMode where
  | none
  | wrap
  | mirror
  | clamp
  | border
deriving DecidableEq, Repr

namespace WrapMode

def name : WrapMode → String
  | .none => "None"
  | .wrap => "Wrap"
  | .mirror => "Mirror"
  | .clamp => "Clamp"
  | .border => "Border"

def repeats : WrapMode → Bool
  | .wrap | .mirror => true
  | _ => false

end WrapMode

structure Color where
  red : Float
  green : Float
  blue : Float

structure BorderColor extends Color where
  alpha : Float

structure Texture where
  info : AppearanceInfo
  url : String
  repeats : Bool
  wrapMode : WrapMode
  borderColor : Option BorderColor

namespace Texture

def named (id url : String) : Texture :=
  ⟨.named id, url, false, .none, none⟩

def withTheme (texture : Texture) (theme : String) : Texture :=
  { texture with info := texture.info.withTheme theme }

def withFront (texture : Texture) (isFront : Bool) : Texture :=
  { texture with info := { texture.info with isFront } }

def withWrapMode (texture : Texture) (wrapMode : WrapMode) : Texture :=
  { texture with wrapMode, repeats := wrapMode.repeats }

end Texture

/-! ## Materials -/

structure Material where
  info : AppearanceInfo
  diffuse : Color
  emissive : Color
  specular : Color
  ambientIntensity : Float
  shininess : Float
  transparency : Float
  isSmooth : Bool

namespace Material

def named (id : String) : Material :=
  { info := .named id
    diffuse := ⟨0.8, 0.8, 0.8⟩
    emissive := ⟨0.0, 0.0, 0.0⟩
    specular := ⟨1.0, 1.0, 1.0⟩
    ambientIntensity := 0.2
    shininess := 0.2
    transparency := 0.0
    isSmooth := false }

def withTheme (material : Material) (theme : String) : Material :=
  { material with info := material.info.withTheme theme }

def withFront (material : Material) (isFront : Bool) : Material :=
  { material with info := { material.info with isFront } }

def withDiffuse (material : Material) (diffuse : Color) : Material :=
  { material with diffuse }

/-- The nearest number between zero and one; a NaN stays as it is. -/
def clampUnit (value : Float) : Float :=
  if value < 0.0 then 0.0 else if 1.0 < value then 1.0 else value

def withTransparency (material : Material) (transparency : Float) : Material :=
  { material with transparency := clampUnit transparency }

end Material

end PlanarMesh

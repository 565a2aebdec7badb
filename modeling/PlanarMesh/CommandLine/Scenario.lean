import PlanarMesh.Polygon.Finish
import PlanarMesh.Polygon.Render

/-! # Sample polygons

Each scenario builds one polygon, finishes it, and shows its mesh with what was
logged on the way.
-/

namespace PlanarMesh.CommandLine

inductive Scenario where
  | unitSquare
  | squareWithHole
  | concaveL
  | texturedSquare
deriving DecidableEq, Repr

namespace Scenario

def all : List Scenario := [.unitSquare, .squareWithHole, .concaveL, .texturedSquare]

def name : Scenario → String
  | .unitSquare => "unit_square"
  | .squareWithHole => "square_with_hole"
  | .concaveL => "concave_l"
  | .texturedSquare => "textured_square"

def ofName? (name : String) : Option Scenario :=
  all.find? fun scenario => scenario.name == name

/-! ## Polygons -/

def ground (x y : Float) : Point3 := ⟨x, y, 0.0⟩

def square (id : String) (isExterior : Bool) (least size : Float) : Ring :=
  let most := least + size
  ⟨id, isExterior, [ground least least, ground most least, ground most most, ground least most]⟩

def rings : Scenario → List Ring
  | .unitSquare => [square "outer" true 0.0 1.0]
  | .squareWithHole => [square "outer" true 0.0 4.0, square "hole" false 1.0 2.0]
  | .concaveL =>
      [⟨"outer", true,
        [ground 0.0 0.0, ground 2.0 0.0, ground 2.0 1.0, ground 1.0 1.0, ground 1.0 2.0,
          ground 0.0 2.0]⟩]
  | .texturedSquare =>
      [⟨"outer", true,
        [ground 0.0 0.0, ground 1.0 0.0, ground 1.0 1.0, ground 0.0 1.0, ground 0.0 0.0]⟩]

def textureTheme : String := "rgbTexture"

/-- The texture of a scenario, with coordinates that repeat the closing point as its
ring does. -/
def texture? : Scenario → Option TextureTarget
  | .texturedSquare =>
      some
        { targetId := texturedSquare.name
          texture := ⟨0, (Texture.named "facade" "facade.jpg").withTheme textureTheme⟩
          coordinates :=
            [⟨"outer-uv", "outer",
              [⟨0.0, 0.0⟩, ⟨1.0, 0.0⟩, ⟨1.0, 1.0⟩, ⟨0.0, 1.0⟩, ⟨0.0, 0.0⟩]⟩] }
  | _ => none

def theme? (scenario : Scenario) : Option String :=
  scenario.texture?.map fun _ => textureTheme

/-! ## Running -/

structure Output where
  name : String
  mesh : Mesh
  diagnostics : Diagnostics
  log : List Record

def listener : Listener := .recorder 0

def addRings (polygon : Polygon) :
    List Ring → Logged (Except PolygonError Polygon)
  | [] => pure (.ok polygon)
  | ring :: rest => do
      let (outcome, polygon) ← polygon.addRing ring
      match outcome with
      | .error error => pure (.error error)
      | .ok () => addRings polygon rest

def build (scenario : Scenario) : Logged (Except PolygonError Polygon) := do
  let built ← addRings (Polygon.named scenario.name (some listener)) scenario.rings
  pure <| built.map fun polygon =>
    match scenario.texture? with
    | none => polygon
    | some target => polygon.bindTexture target

def render (scenario : Scenario) (options : BuildOptions) :
    Logged (Except PolygonError (Mesh × Diagnostics)) := do
  match ← scenario.build with
  | .error error => pure (.error error)
  | .ok polygon => do
      let finished ← polygon.finishIn ((BuildContext.withOptions options).withLogger listener)
      match finished.outcome with
      | .error error => pure (.error error)
      | .ok () => do
          let mesh ← finished.polygon.toMesh scenario.theme? true
          pure (.ok (mesh, finished.polygon.diagnostics))

def run (scenario : Scenario) (options : BuildOptions) : Except PolygonError Output :=
  let rendered := scenario.render options
  let book := LogBook.deliver ⟨[Recorder.empty], ⟨none, []⟩⟩ rendered.emissions
  rendered.value.map fun (mesh, diagnostics) =>
    { name := scenario.name
      mesh
      diagnostics
      log := book.recorders.flatMap (·.records) }

end Scenario

end PlanarMesh.CommandLine

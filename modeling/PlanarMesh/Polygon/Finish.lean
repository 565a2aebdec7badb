import PlanarMesh.Diagnostics.Report
import PlanarMesh.Polygon.Basic
import PlanarMesh.Ring.Basic
import PlanarMesh.Tessellation.EarClip

/-! # Finishing polygons

Finishing removes duplicate vertices if asked, moves the vertices of all rings into
one buffer, and finds triangles over it: by a tessellator, or by a fan, which is
right for a single convex ring only. Only the first time has an effect. A polygon
whose tessellation fails counts as finished with empty buffers.
-/

namespace PlanarMesh

/-! ## Settings -/

structure BuildOptions where
  tessellate : Bool
  optimize : Bool
deriving DecidableEq, Repr

namespace BuildOptions

def standard : BuildOptions := ⟨true, true⟩

instance : Inhabited BuildOptions := ⟨standard⟩

end BuildOptions

structure BuildContext where
  options : BuildOptions
  tessellator : EarClipTessellator
  logger : Option Listener

namespace BuildContext

def withOptions (options : BuildOptions) : BuildContext :=
  ⟨options, .withTolerance .general, none⟩

def withLogger (context : BuildContext) (logger : Listener) : BuildContext :=
  { context with logger := some logger }

end BuildContext

/-! ## Results -/

structure Finished (τ : Type) where
  outcome : Except PolygonError Unit
  polygon : Polygon
  tessellator : τ

namespace Polygon

/-! ## Duplicate vertices -/

structure CleanedRings where
  removed : Nat
  rings : List Ring
  targets : List TextureTarget

def cleanRings (logger : Option Listener) :
    List Ring → List TextureTarget → Logged CleanedRings
  | [], targets => pure ⟨0, [], targets⟩
  | ring :: rest, targets => do
      let first ← ring.removeDuplicates targets logger
      let others ← cleanRings logger rest first.targets
      pure ⟨first.removed + others.removed, first.ring :: others.rings, others.targets⟩

def withRings (polygon : Polygon) (rings : List Ring) : Polygon :=
  match polygon.exterior, rings with
  | some _, exterior :: interior => { polygon with exterior := some exterior, interior }
  | _, rings => { polygon with interior := rings }

def removeDuplicates (polygon : Polygon) (logger : Option Listener) :
    Logged (Nat × Polygon) := do
  let cleaned ← cleanRings logger polygon.rings polygon.appearance.textureTargets
  let polygon := polygon.withRings cleaned.rings
  pure (cleaned.removed,
    { polygon with
      appearance := { polygon.appearance with textureTargets := cleaned.targets } })

/-! ## Triangles -/

/-- Triangles `(i, i + 1, i + 2)` over consecutive vertices. -/
def fanIndices (vertexCount : Nat) : List UInt32 :=
  (List.range (vertexCount - 2)).flatMap fun position =>
    let first := UInt32.ofNat position
    [first, first + 1, first + 2]

structure Buffers where
  vertices : List Point3
  indices : List UInt32

def fanBuffers (rings : List Ring) : Buffers :=
  let vertices := rings.flatMap (·.vertices)
  ⟨vertices, fanIndices vertices.length⟩

def tessellatedBuffers {τ : Type} [Tessellator τ] (tessellator : τ) (normal : Vec3)
    (rings : List Ring) : Logged (Except TessellationError Buffers × τ) := do
  let expected := Ring.totalSize rings
  let filled := rings.foldl
    (fun tessellator ring => Tessellator.addContour tessellator ring.vertices)
    (Tessellator.init tessellator expected normal)
  let (outcome, computed) ← Tessellator.compute filled
  match outcome with
  | .error cause => pure (.error cause, computed)
  | .ok () =>
      pure (.ok ⟨Tessellator.vertices computed, Tessellator.indices computed⟩, computed)

/-! ## The whole -/

/-- The polygon with its rings emptied and a surface. -/
def sealed (polygon : Polygon) (surface : Surface) : Polygon :=
  { polygon with
    exterior := polygon.exterior.map Ring.emptied
    interior := polygon.interior.map Ring.emptied
    surface := some surface }

/-- Tells the logger about a problem and keeps it with the diagnostics. -/
def reportProblem (logger : Option Listener) (level : Level) (text : String)
    (diagnostics : Diagnostics) : Logged Diagnostics := do
  Logged.tell logger level text
  pure (diagnostics.addWarning text)

def driftText (polygonId : String) : String :=
  s!"Tesselation of Polygon with id '{polygonId}' has changed the number of Polygons, causing a mismatch of texture coordinates and vertices."

def degenerateText (polygonId : String) : String :=
  s!"Polygon with id {polygonId} has less than 3 vertices."

def finishedText (polygonId : String) (diagnostics : Diagnostics) : String :=
  let summary := diagnostics.summary
  s!"finished polygon '{polygonId}': {summary}"

def inspect (polygonId : String) (logger : Option Listener) (buffers : Buffers)
    (diagnostics : Diagnostics) : Logged Diagnostics := do
  let diagnostics ←
    if diagnostics.hasVertexCountDrift then
      reportProblem logger .error (driftText polygonId) diagnostics
    else
      pure diagnostics
  if buffers.vertices.length < 3 then
    reportProblem logger .warning (degenerateText polygonId)
      { diagnostics with degenerate := true }
  else
    pure diagnostics

def finish {τ : Type} [Tessellator τ] (polygon : Polygon) (options : BuildOptions)
    (tessellator : τ) (logger : Option Listener) : Logged (Finished τ) :=
  if polygon.isFinished then
    pure ⟨.ok (), polygon, tessellator⟩
  else do
    let (removed, cleaned) ←
      if options.optimize then polygon.removeDuplicates logger else pure (0, polygon)
    let normal := cleaned.ringNormal
    let begun : Diagnostics :=
      { Diagnostics.empty with
        ringCount := polygon.rings.length
        removedDuplicateCount := removed
        tessellated := options.tessellate
        inputVertexCount := Ring.totalSize cleaned.rings }
    let (result, computed) ←
      if options.tessellate then
        tessellatedBuffers tessellator normal cleaned.rings
      else
        pure (.ok (fanBuffers cleaned.rings), tessellator)
    match result with
    | .error cause =>
        pure ⟨.error (.tessellation cause), cleaned.sealed ⟨normal, [], [], begun⟩, computed⟩
    | .ok buffers => do
        let counted :=
          { begun with
            vertexCount := buffers.vertices.length
            triangleCount := buffers.indices.length / 3
            tessellation :=
              if options.tessellate then Tessellator.statistics? computed else none }
        let diagnostics ← inspect polygon.id logger buffers counted
        Logged.note .debug (finishedText polygon.id diagnostics)
        pure ⟨.ok (),
          cleaned.sealed ⟨normal, buffers.vertices, buffers.indices, diagnostics⟩, computed⟩

def finishIn (polygon : Polygon) (context : BuildContext) :
    Logged (Finished EarClipTessellator) :=
  polygon.finish context.options context.tessellator context.logger

end Polygon

end PlanarMesh

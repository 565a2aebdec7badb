import PlanarMesh.Proofs.Tessellation.Spans
import PlanarMesh.Tessellation.EarClip

/-! # A tessellator over one vertex buffer

Contours can be kept as ranges of one buffer. Then every contour is a slice of it, and
choosing holes and emitting triangles read their buffers by subscripts. Here all of
these are checked: a computation that would read outside a buffer has no result.
-/

namespace PlanarMesh

/-- Even-odd containment, with the last point of the loop read by its subscript and
every other edge found from the point before it. -/
def Loop.contains? (loop : List Point2) (point : Point2) : Option Bool := do
  let last ← loop[loop.length - 1]?
  let (inside, _) := loop.foldl
    (fun (inside, previous) current =>
      (if crossesRight previous current point then !inside else inside, current))
    (false, last)
  some inside

/-! ## Chosen points -/

/-- The points that are cut, with their positions in the vertex buffer. -/
structure ContourSet where
  points : List Point2
  holeStarts : List Nat
  source : List UInt32

namespace ContourSet

def empty : ContourSet := ⟨[], [], []⟩

def startHole (taken : ContourSet) : ContourSet :=
  { taken with holeStarts := taken.holeStarts ++ [taken.source.length] }

def push? (taken : ContourSet) (span : Span) (points : List Point2) : Option ContourSet :=
  span.positions.foldlM
    (fun taken position => do
      let point ← points[position]?
      some
        { taken with
          points := taken.points ++ [point]
          source := taken.source ++ [UInt32.ofNat position] })
    taken

def judge? (points : List Point2) (outline hole : Span) : Option HoleVerdict :=
  if hole.size < 3 then
    some .tooShort
  else do
    let candidates ← hole.slice? points
    let inside ← candidates.anyM fun point => do
      let loop ← outline.slice? points
      Loop.contains? loop point
    some (if inside then .accepted else .outside)

def choose? (points : List Point2) (outline : Span) :
    ContourSet → List Span → Option (ContourSet × List HoleVerdict)
  | taken, [] => some (taken, [])
  | taken, hole :: rest => do
      let verdict ← judge? points outline hole
      let longer ←
        if verdict = .accepted then
          taken.startHole.push? hole points
        else
          some taken
      let (final, verdicts) ← choose? points outline longer rest
      some (final, verdict :: verdicts)

/-- Takes in the outline, which is in the first range, and the holes. -/
def select? (points : List Point2) (ranges : List Span) :
    Option (ContourSet × List HoleVerdict) := do
  let outline ← ranges[0]?
  let begun ← empty.push? outline points
  choose? points outline begun (ranges.drop 1)

def corner? (taken : ContourSet) (points : List Point2) (position : Nat) :
    Option (Nat × Point2) := do
  let index ← taken.source[position]?
  let point ← points[index.toNat]?
  some (index.toNat, point)

def triangle? (taken : ContourSet) (points : List Point2) (triangle : Triangle Nat) :
    Option (Triangle (Nat × Point2)) := do
  let first ← taken.corner? points triangle.first
  let second ← taken.corner? points triangle.second
  let third ← taken.corner? points triangle.third
  some ⟨first, second, third⟩

end ContourSet

/-! ## The tessellator -/

structure RangedTessellator where
  tolerance : Tolerance
  normal : Vec3
  vertices : List Point3
  ranges : List Span
  indices : List UInt32
  statistics : TessellationStatistics

namespace RangedTessellator

def withTolerance (tolerance : Tolerance) : RangedTessellator :=
  ⟨tolerance, Vec3.zero, [], [], [], .zero⟩

def init (tessellator : RangedTessellator) (normal : Vec3) : RangedTessellator :=
  { withTolerance tessellator.tolerance with normal := normal }

def addContour (tessellator : RangedTessellator) (contour : List Point3) :
    RangedTessellator :=
  let start := tessellator.vertices.length
  let vertices := tessellator.vertices ++ contour
  { tessellator with
    vertices
    ranges := tessellator.ranges ++ [⟨start, vertices.length⟩] }

def firstNonFinite? (vertices : List Point3) :
    (contour : Nat) → List Span → Option (Option Nat)
  | _, [] => some none
  | contour, range :: rest => do
      let points ← range.slice? vertices
      if points.any fun point => !point.isFinite then
        some (some contour)
      else
        firstNonFinite? vertices (contour + 1) rest

/-- Cuts the points that are taken, and stores the triangles by the positions that the
points have in the vertex buffer. -/
def triangulate? (cut : EarClipTessellator.Cutter) (tessellator : RangedTessellator)
    (points : List Point2) (taken : ContourSet) (verdicts : List HoleVerdict) :
    Option (Logged (Except TessellationError Unit × RangedTessellator)) :=
  let statistics :=
    { tessellator.statistics with
      skippedContourCount := verdicts.countP fun verdict => verdict ≠ .accepted }
  match cut taken.points taken.holeStarts with
  | none =>
      some do
        EarClipTessellator.reportHoles verdicts
        pure (.error (.failed taken.source.length), { tessellator with statistics })
  | some triangles => do
      let corners ← triangles.mapM fun triangle =>
        taken.triangle? points (triangle.map Fin.val)
      let indices := EarClipTessellator.indexBuffer
        (corners.filterMap (EarClipTessellator.emit? tessellator.tolerance))
      some do
        EarClipTessellator.reportHoles verdicts
        pure (.ok (),
          { tessellator with
            indices
            statistics :=
              { statistics with
                outputTriangleCount := indices.length / 3
                culledTriangleCount := corners.countP fun corners =>
                  (EarClipTessellator.emit? tessellator.tolerance corners).isNone } })

def cut? (cut : EarClipTessellator.Cutter) (tessellator : RangedTessellator)
    (outline : Span) :
    Option (Logged (Except TessellationError Unit × RangedTessellator)) := do
  let outer ← outline.slice? tessellator.vertices
  let plane := Plane.through tessellator.normal outer
  let points := tessellator.vertices.map plane.project
  let (taken, verdicts) ← ContourSet.select? points tessellator.ranges
  tessellator.triangulate? cut points taken verdicts

def begun (tessellator : RangedTessellator) : RangedTessellator :=
  { tessellator with
    indices := []
    statistics :=
      { TessellationStatistics.zero with
        inputVertexCount := tessellator.vertices.length
        contourCount := tessellator.ranges.length } }

def computeBy? (cut : EarClipTessellator.Cutter) (tessellator : RangedTessellator) :
    Option (Logged (Except TessellationError Unit × RangedTessellator)) := do
  match ← firstNonFinite? tessellator.vertices 0 tessellator.ranges with
  | some contour => some (pure (.error (.nonFinite contour), tessellator.begun))
  | none =>
      match tessellator.ranges.head? with
      | none => some (pure (.ok (), tessellator.begun))
      | some outline =>
          if outline.size < 3 then
            some do
              Logged.note .debug EarClipTessellator.smallOutlineText
              pure (.ok (),
                { tessellator.begun with
                  statistics :=
                    { tessellator.begun.statistics with
                      skippedContourCount := tessellator.ranges.length } })
          else
            tessellator.begun.cut? cut outline

end RangedTessellator

end PlanarMesh

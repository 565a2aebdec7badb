import PlanarMesh.EarClip.Clip
import PlanarMesh.Tessellation.Basic
import PlanarMesh.Tessellation.Selection

/-! # The built-in tessellator

The contours are projected onto the plane perpendicular to the normal and cut by
ear clipping. The vertex buffer is the contours one after the other. Triangles run
counter-clockwise as seen from the normal, and those with hardly any area are
left out.
-/

namespace PlanarMesh

structure EarClipTessellator where
  tolerance : Tolerance
  normal : Vec3
  contours : List (List Point3)
  indices : List UInt32
  statistics : TessellationStatistics

namespace EarClipTessellator

def withTolerance (tolerance : Tolerance) : EarClipTessellator :=
  ⟨tolerance, Vec3.zero, [], [], .zero⟩

instance : Inhabited EarClipTessellator := ⟨withTolerance .general⟩

def vertices (tessellator : EarClipTessellator) : List Point3 :=
  tessellator.contours.flatten

def init (tessellator : EarClipTessellator) (normal : Vec3) : EarClipTessellator :=
  { withTolerance tessellator.tolerance with normal := normal }

def addContour (tessellator : EarClipTessellator) (contour : List Point3) :
    EarClipTessellator :=
  { tessellator with contours := tessellator.contours ++ [contour] }

def firstNonFinite? (contours : List (List Point3)) : Option Nat :=
  contours.findIdx? fun contour => contour.any fun point => !point.isFinite

/-! ## Triangles -/

/-- A cut triangle as it is emitted: counter-clockwise, or not at all if its area
is at most the squared tolerance. -/
def emit? (tolerance : Tolerance) (triangle : Triangle (Nat × Point2)) :
    Option (Triangle Nat) :=
  let doubled := orientation triangle.first.2 triangle.second.2 triangle.third.2
  if !doubled.isFinite || decide (0.5 * doubled.abs ≤ tolerance.epsSquared) then
    none
  else if 0.0 < doubled then
    some (triangle.map (·.1))
  else
    some (triangle.map (·.1)).reversed

def indexBuffer (triangles : List (Triangle Nat)) : List UInt32 :=
  (Triangle.cornerList triangles).map UInt32.ofNat

/-! ## Computing -/

/-- What cuts points into triangles over their positions, given where holes start. -/
abbrev Cutter : Type :=
  (points : List Point2) → List Nat → Option (List (Triangle (Fin points.length)))

def begun (tessellator : EarClipTessellator) : EarClipTessellator :=
  { tessellator with
    indices := []
    statistics :=
      { TessellationStatistics.zero with
        inputVertexCount := tessellator.vertices.length
        contourCount := tessellator.contours.length } }

def reportHoles (verdicts : List HoleVerdict) : Logged Unit :=
  ⟨(), (verdicts.zipIdx 1).filterMap fun (verdict, contour) =>
    if verdict = .outside then
      some ⟨.facade, .debug, s!"hole contour {contour} lies outside the outline, skipped"⟩
    else
      none⟩

def concluded (tessellator : EarClipTessellator) (selection : Selection)
    (all : List Point2) : Option (List (Triangle (Fin selection.points.length))) →
      Except TessellationError Unit × EarClipTessellator
  | none => (.error (.failed selection.corners.length), tessellator)
  | some triangles =>
      let corners := triangles.map (·.map (selection.storedCorner all))
      let indices := indexBuffer (corners.filterMap (emit? tessellator.tolerance))
      (.ok (),
        { tessellator with
          indices
          statistics :=
            { tessellator.statistics with
              outputTriangleCount := indices.length / 3
              culledTriangleCount :=
                corners.countP fun corners => (emit? tessellator.tolerance corners).isNone } })

def cutContours (cut : Cutter) (tessellator : EarClipTessellator) (outline : List Point3)
    (holes : List (List Point3)) :
    Logged (Except TessellationError Unit × EarClipTessellator) := do
  let plane := Plane.through tessellator.normal outline
  let all := (outline :: holes).flatten.map plane.project
  let projected := outline.map plane.project
  let placedHoles := PlacedContour.place projected.length
    (holes.map fun hole => hole.map plane.project)
  let verdicts := placedHoles.map fun hole => judgeHole projected hole.points
  reportHoles verdicts
  let accepted := placedHoles.filter fun hole => judgeHole projected hole.points = .accepted
  let selection := Selection.ofContours ⟨0, projected⟩ accepted
  let statistics :=
    { tessellator.statistics with
      skippedContourCount := verdicts.countP fun verdict => verdict ≠ .accepted }
  pure ({ tessellator with statistics }.concluded selection all
    (cut selection.points selection.holeStarts))

def smallOutlineText : String :=
  "outer contour has fewer than 3 points, nothing to tesselate"

/-- A computation in which the points are cut in any way. -/
def computeBy (cut : Cutter) (tessellator : EarClipTessellator) :
    Logged (Except TessellationError Unit × EarClipTessellator) :=
  match firstNonFinite? tessellator.contours with
  | some contour => pure (.error (.nonFinite contour), tessellator.begun)
  | none =>
      match tessellator.contours with
      | [] => pure (.ok (), tessellator.begun)
      | outline :: holes =>
          if outline.length < 3 then do
            Logged.note .debug smallOutlineText
            pure (.ok (),
              { tessellator.begun with
                statistics :=
                  { tessellator.begun.statistics with
                    skippedContourCount := tessellator.contours.length } })
          else
            tessellator.begun.cutContours cut outline holes

def compute (tessellator : EarClipTessellator) :
    Logged (Except TessellationError Unit × EarClipTessellator) :=
  tessellator.computeBy EarClip.triangulate

instance : Tessellator EarClipTessellator where
  init tessellator _ normal := tessellator.init normal
  addContour := addContour
  compute := compute
  vertices := vertices
  indices := indices
  statistics? tessellator := some tessellator.statistics

end EarClipTessellator

end PlanarMesh

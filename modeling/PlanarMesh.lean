import PlanarMesh.Appearance.Target
import PlanarMesh.Appearance.Surface
import PlanarMesh.CommandLine.Arguments
import PlanarMesh.CommandLine.Files
import PlanarMesh.CommandLine.Run
import PlanarMesh.CommandLine.Scenario
import PlanarMesh.Decimal.Basic
import PlanarMesh.Decimal.Layout
import PlanarMesh.Decimal.Shortest
import PlanarMesh.Diagnostics.Basic
import PlanarMesh.Diagnostics.Report
import PlanarMesh.EarClip.Clip
import PlanarMesh.EarClip.Contours
import PlanarMesh.EarClip.Curve
import PlanarMesh.EarClip.Filter
import PlanarMesh.EarClip.Inside
import PlanarMesh.EarClip.Rings
import PlanarMesh.Geometry.Plane
import PlanarMesh.Geometry.Space
import PlanarMesh.Json.Document
import PlanarMesh.Json.Lexical
import PlanarMesh.Json.Records
import PlanarMesh.Json.Standard
import PlanarMesh.Json.Skipping
import PlanarMesh.Log.Emission
import PlanarMesh.Log.Level
import PlanarMesh.Log.Recorder
import PlanarMesh.Main
import PlanarMesh.Mesh.Basic
import PlanarMesh.Mesh.Obj
import PlanarMesh.Polygon.Basic
import PlanarMesh.Polygon.Batch
import PlanarMesh.Polygon.Finish
import PlanarMesh.Polygon.Render
import PlanarMesh.Ring.Basic
import PlanarMesh.Tessellation.Basic
import PlanarMesh.Tessellation.EarClip
import PlanarMesh.Tessellation.Selection
import PlanarMesh.Proofs.Log.Logged
import PlanarMesh.Proofs.Log.Problems
import PlanarMesh.Proofs.Diagnostics.Total
import PlanarMesh.Proofs.Ring.OnePass
import PlanarMesh.Proofs.Ring.Cleaning
import PlanarMesh.Proofs.Polygon.Cleaning
import PlanarMesh.Proofs.Tessellation.Compute
import PlanarMesh.Proofs.Tessellation.Calls
import PlanarMesh.Proofs.Tessellation.Tally
import PlanarMesh.Proofs.Polygon.Stages
import PlanarMesh.Proofs.Polygon.Filling
import PlanarMesh.Proofs.Polygon.Outcome
import PlanarMesh.Proofs.Polygon.Counts
import PlanarMesh.Proofs.Polygon.Coordinates
import PlanarMesh.Proofs.Polygon.Alignment
import PlanarMesh.Proofs.Mesh.WellFormed
import PlanarMesh.Proofs.Polygon.History
import PlanarMesh.Proofs.Polygon.LifeCycle
import PlanarMesh.Proofs.Polygon.Problems
import PlanarMesh.Proofs.Polygon.Summary
import PlanarMesh.Proofs.Polygon.Failure
import PlanarMesh.Proofs.Polygon.Meshes
import PlanarMesh.Proofs.Polygon.Assembly
import PlanarMesh.Proofs.Polygon.Agreement
import PlanarMesh.Proofs.Polygon.Batch
import PlanarMesh.Proofs.Appearance.Lookup
import PlanarMesh.Proofs.Polygon.Bindings
import PlanarMesh.Proofs.Log.Delivery
import PlanarMesh.Proofs.Polygon.Listeners
import PlanarMesh.Proofs.Number.Packing
import PlanarMesh.Proofs.Polygon.Workshop
import PlanarMesh.Proofs.Number.Laws
import PlanarMesh.Proofs.Number.Infinite
import PlanarMesh.Proofs.Geometry.Orientation
import PlanarMesh.Proofs.Tessellation.Culling
import PlanarMesh.Proofs.Tessellation.Failure
import PlanarMesh.Proofs.Tessellation.Winding
import PlanarMesh.Proofs.Tessellation.Remap
import PlanarMesh.Proofs.Tessellation.Handover
import PlanarMesh.Proofs.Ring.Sweep
import PlanarMesh.Proofs.Ring.Survivors
import PlanarMesh.Proofs.Ring.NonFinite
import PlanarMesh.Proofs.Ring.Separation
import PlanarMesh.Proofs.Polygon.Strip
import PlanarMesh.Proofs.Decimal.Rendered
import PlanarMesh.Proofs.Mesh.ObjReading
import PlanarMesh.Proofs.Number.Canonical
import PlanarMesh.Proofs.Number.Exact
import PlanarMesh.Proofs.Number.Scientific
import PlanarMesh.Proofs.Decimal.ReadBack
import PlanarMesh.Proofs.Mesh.Export
import PlanarMesh.Proofs.CommandLine.Closed
import PlanarMesh.Proofs.CommandLine.Outputs
import PlanarMesh.Proofs.CommandLine.Requests
import PlanarMesh.Proofs.CommandLine.Settings
import PlanarMesh.Proofs.CommandLine.Frame
import PlanarMesh.Proofs.Json.Grammar
import PlanarMesh.Proofs.Json.QuotedText
import PlanarMesh.Proofs.Json.Skipped
import PlanarMesh.Proofs.Json.Laws
import PlanarMesh.Proofs.Json.Arrays
import PlanarMesh.Proofs.Json.RoundTrip
import PlanarMesh.Proofs.Geometry.EvenOdd
import PlanarMesh.Proofs.Log.Recording

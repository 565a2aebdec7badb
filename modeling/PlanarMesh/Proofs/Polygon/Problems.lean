import PlanarMesh.Proofs.Diagnostics.Total
import PlanarMesh.Proofs.Log.Problems
import PlanarMesh.Proofs.Polygon.Outcome

/-! # Problems that finishing reports

Finishing tells its listener first of coordinate lists that do not fit their rings and
then of what it finds in the filled buffers. The diagnostics keep the latter only.
-/

namespace PlanarMesh

namespace Ring

def mismatches (ring : Ring) (targets : List TextureTarget) : List String :=
  ((targets.flatMap (·.coordinates)).filter fun coordinates =>
    coordinates.targets ring.id && coordinates.size != ring.size).map ring.mismatchText

theorem problemsFor_reportMismatches (ring : Ring) (targets : List TextureTarget)
    (receiver : Listener) :
    (ring.reportMismatches targets (some receiver)).problemsFor receiver =
      ring.mismatches targets := by
  rw [reportMismatches, Logged.problemsFor_forM, mismatches]
  induction targets.flatMap (·.coordinates) with
  | nil => rfl
  | cons coordinates rest induction =>
      rw [List.flatMap_cons, induction]
      rw [List.filter_cons]
      split
      · rw [Logged.problemsFor_tell rfl]
        rfl
      · rw [Logged.problemsFor_pure]
        rfl

theorem problemsFor_removeDuplicates (ring : Ring) (targets : List TextureTarget)
    (receiver : Listener) :
    (ring.removeDuplicates targets (some receiver)).problemsFor receiver =
      ring.mismatches targets := by
  rw [removeDuplicates, Logged.problemsFor_bind, problemsFor_reportMismatches]
  dsimp only
  split
  · rw [Logged.problemsFor_bind, Logged.problemsFor_note rfl, Logged.problemsFor_pure]
    exact List.append_nil _
  · rw [Logged.problemsFor_pure]
    exact List.append_nil _

theorem removeDuplicates_targets (ring : Ring) (targets : List TextureTarget)
    (logger : Option Listener) :
    (ring.removeDuplicates targets logger).value.targets =
      targets.map (·.follow true ring) := by
  rw [removeDuplicates_value]
  simp only [TextureTarget.follow_true]

end Ring

namespace Polygon

/-! ## Cleaning -/

/-- The reports of cleaning one ring after the other, each with the bindings that the
ones before it left. -/
def mismatchesFrom : List Ring → List TextureTarget → List String
  | [], _ => []
  | ring :: rest, targets =>
      ring.mismatches targets ++ mismatchesFrom rest (targets.map (·.follow true ring))

def mismatches (polygon : Polygon) (optimize : Bool) : List String :=
  if optimize then mismatchesFrom polygon.rings polygon.appearance.textureTargets else []

theorem problemsFor_cleanRings (receiver : Listener) (rings : List Ring)
    (targets : List TextureTarget) :
    (cleanRings (some receiver) rings targets).problemsFor receiver =
      mismatchesFrom rings targets := by
  induction rings generalizing targets with
  | nil => rfl
  | cons ring rest induction =>
      rw [cleanRings, Logged.problemsFor_bind, Logged.problemsFor_bind,
        Logged.problemsFor_pure, ring.problemsFor_removeDuplicates, induction,
        ring.removeDuplicates_targets, List.append_nil]
      rfl

theorem problemsFor_cleaning (polygon : Polygon) (optimize : Bool) (receiver : Listener) :
    (polygon.cleaning optimize (some receiver)).problemsFor receiver =
      polygon.mismatches optimize := by
  cases optimize with
  | false => rfl
  | true =>
      change (polygon.removeDuplicates (some receiver)).problemsFor receiver = _
      rw [removeDuplicates, Logged.problemsFor_bind, Logged.problemsFor_pure,
        problemsFor_cleanRings, List.append_nil]
      rfl

/-! ## Filling and closing -/

theorem problemsFor_filling (polygon : Polygon) (options : BuildOptions)
    (tessellator : EarClipTessellator) (receiver : Listener) :
    (polygon.filling options tessellator).problemsFor receiver = [] :=
  Logged.problemsFor_of_avoids (polygon.filling_avoids (by decide) options tessellator)
    (polygon.filling_avoids (by decide) options tessellator) receiver

/-- What closing reports is what the diagnostics keep. -/
theorem problemsFor_closing (polygon : Polygon) (options : BuildOptions)
    (tessellator : EarClipTessellator) (receiver : Listener) :
    let closed := polygon.closing options (some receiver)
      (polygon.filling options tessellator).value
    closed.problemsFor receiver = closed.value.polygon.diagnostics.warnings := by
  dsimp only
  rcases polygon.filling_cases options tessellator with
    ⟨cause, computed, _, equal⟩ | ⟨indices, computed, equal, _, _⟩
  · rw [equal]
    rfl
  · rw [equal, closing_value_gathered, diagnostics_sealed, closing, inspect_gathered]
    simp only [Logged.problemsFor_bind, Logged.problemsFor_pure, List.append_nil,
      Logged.problemsFor_note (show Level.debug.isProblem = false from rfl)]
    by_cases few : (polygon.gathered options.optimize).length < 3
    · rw [if_pos few, Logged.problemsFor_tell rfl, concluded, if_pos few, Message.text]
    · rw [if_neg few, Logged.problemsFor_pure, concluded, if_neg few]

/-! ## The whole -/

/-- The reports of a first finish are those of cleaning, followed by what the
diagnostics keep. So the diagnostics keep all of them exactly when cleaning has nothing
to report. -/
theorem problemsFor_finish {polygon : Polygon} (isOpen : polygon.isFinished = false)
    (options : BuildOptions) (tessellator : EarClipTessellator) (receiver : Listener) :
    let finished := polygon.finish options tessellator (some receiver)
    let diagnostics := finished.value.polygon.diagnostics
    finished.problemsFor receiver =
        polygon.mismatches options.optimize ++ diagnostics.warnings ∧
      (finished.problemsFor receiver = diagnostics.warnings ↔
        polygon.mismatches options.optimize = []) ∧
      (diagnostics.isClean = true →
        finished.problemsFor receiver = polygon.mismatches options.optimize) := by
  have whole : (polygon.finish options tessellator (some receiver)).problemsFor receiver =
      polygon.mismatches options.optimize ++
        (polygon.finish options tessellator
          (some receiver)).value.polygon.diagnostics.warnings := by
    rw [finish_value_of_open isOpen, finish_of_open isOpen, Logged.problemsFor_bind,
      Logged.problemsFor_bind, problemsFor_cleaning, problemsFor_filling, List.nil_append,
      problemsFor_closing]
  dsimp only
  refine ⟨whole, ?_, ?_⟩
  · rw [whole]
    exact List.append_left_eq_self
  · intro clean
    have quiet := (Diagnostics.isClean_iff.mp clean).2.2
    rw [whole, quiet, List.append_nil]

/-- A triangle whose texture has coordinates for two of its corners. -/
def misfit : Polygon :=
  { (named "misfit" none).bindTexture
      ⟨"misfit", ⟨0, (Texture.named "paving" "paving.png").withTheme "summer"⟩,
        [⟨"short", "edge", [⟨0, 0⟩, ⟨1, 0⟩]⟩]⟩ with
    exterior := some ⟨"edge", true, [⟨0, 0, 0⟩, ⟨4, 0, 0⟩, ⟨4, 4, 0⟩]⟩ }

theorem problemsFor_finish_misfit :
    let finished := misfit.finish ⟨false, true⟩ worn (some (.recorder 0))
    finished.problemsFor (.recorder 0) =
      misfit.mismatches true ++ finished.value.polygon.diagnostics.warnings :=
  (problemsFor_finish rfl ⟨false, true⟩ worn (.recorder 0)).1

/-- The report about the coordinates is sent, but the diagnostics are clean. -/
theorem misfit_report_not_kept :
    let finished := misfit.finish ⟨false, true⟩ worn (some (.recorder 0))
    let diagnostics := finished.value.polygon.diagnostics
    finished.problemsFor (.recorder 0) ≠ diagnostics.warnings ∧
      finished.problemsFor (.recorder 0) ≠ [] ∧ diagnostics.isClean = true := by
  decide +kernel

end Polygon

end PlanarMesh

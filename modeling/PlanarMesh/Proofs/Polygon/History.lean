import PlanarMesh.Polygon.Render
import PlanarMesh.Proofs.Polygon.Outcome

/-! # Histories of a polygon

A history is a list of actions, each with its own arguments and listeners. The first
time that the polygon is finished cuts it in two: before, the polygon collects rings;
afterwards nothing but its appearance changes.
-/

namespace PlanarMesh

inductive Action where
  | addRing (ring : Ring)
  | setNegNormal (negNormal : Bool)
  | bindTexture (target : TextureTarget)
  | bindMaterial (target : MaterialTarget)
  | editAppearance (appearance : AppearanceTarget)
  | texCoords (theme : String) (front : Bool)
  | toMesh (theme : Option String) (front : Bool)
  | finish (options : BuildOptions) (tessellator : EarClipTessellator)
      (logger : Option Listener)

namespace Action

def finishOptions? : Action → Option BuildOptions
  | .finish options _ _ => some options
  | _ => none

end Action

namespace Polygon

/-! ## Runs -/

def perform (polygon : Polygon) : Action → Logged Polygon
  | .addRing ring => (·.2) <$> polygon.addRing ring
  | .setNegNormal negNormal => pure (polygon.setNegNormal negNormal).2
  | .bindTexture target => pure (polygon.bindTexture target)
  | .bindMaterial target => pure (polygon.bindMaterial target)
  | .editAppearance appearance => pure { polygon with appearance }
  | .texCoords theme front => (fun _ => polygon) <$> polygon.texCoords theme front
  | .toMesh theme front => (fun _ => polygon) <$> polygon.toMesh theme front
  | .finish options tessellator logger =>
      (·.polygon) <$> polygon.finish options tessellator logger

def run (polygon : Polygon) : List Action → Logged Polygon
  | [] => pure polygon
  | action :: rest => do
      let changed ← polygon.perform action
      changed.run rest

/-- The polygon just before the first `finish`, and the settings of that one. -/
def firstFinish? (polygon : Polygon) : List Action → Option (Polygon × BuildOptions)
  | [] => none
  | action :: rest =>
      match action.finishOptions? with
      | some options => some (polygon, options)
      | none => (polygon.perform action).value.firstFinish? rest

@[simp] theorem value_run_nil (polygon : Polygon) : (polygon.run []).value = polygon := rfl

@[simp] theorem value_run_cons (polygon : Polygon) (action : Action)
    (rest : List Action) :
    (polygon.run (action :: rest)).value =
      ((polygon.perform action).value.run rest).value := rfl

/-! ## After the first finish -/

theorem perform_of_finished {polygon : Polygon} (finished : polygon.isFinished = true)
    (action : Action) :
    ∃ appearance, (polygon.perform action).value = { polygon with appearance } := by
  cases action with
  | addRing ring =>
      refine ⟨polygon.appearance, ?_⟩
      rw [perform, Logged.value_map, addRing, if_pos finished]
      rfl
  | setNegNormal negNormal =>
      refine ⟨polygon.appearance, ?_⟩
      rw [perform, Logged.value_pure, setNegNormal, if_pos finished]
  | bindTexture target => exact ⟨_, rfl⟩
  | bindMaterial target => exact ⟨_, rfl⟩
  | editAppearance appearance => exact ⟨_, rfl⟩
  | texCoords theme front => exact ⟨_, rfl⟩
  | toMesh theme front => exact ⟨_, rfl⟩
  | finish options tessellator logger =>
      refine ⟨polygon.appearance, ?_⟩
      rw [perform, finish_of_finished finished]
      rfl

theorem run_of_finished {polygon : Polygon} (finished : polygon.isFinished = true)
    (actions : List Action) :
    ∃ appearance, (polygon.run actions).value = { polygon with appearance } := by
  induction actions generalizing polygon with
  | nil => exact ⟨_, rfl⟩
  | cons action rest induction =>
      rcases perform_of_finished finished action with ⟨first, performed⟩
      rw [value_run_cons, performed]
      exact induction finished

/-! ## Up to the first finish -/

theorem isFinished_perform_of_open {polygon : Polygon}
    (isOpen : polygon.isFinished = false) {action : Action}
    (other : action.finishOptions? = none) :
    (polygon.perform action).value.isFinished = false := by
  cases action with
  | addRing ring =>
      rw [perform, Logged.value_map, addRing, if_neg (by simp [isOpen])]
      split
      · split
        · exact isOpen
        · exact isOpen
      · exact isOpen
  | setNegNormal negNormal =>
      rw [perform, Logged.value_pure, setNegNormal, if_neg (by simp [isOpen])]
      exact isOpen
  | bindTexture target => exact isOpen
  | bindMaterial target => exact isOpen
  | editAppearance appearance => exact isOpen
  | texCoords theme front => exact isOpen
  | toMesh theme front => exact isOpen
  | finish options tessellator logger => cases other

/-- A polygon stays open until it is finished, and then shows what that call left. -/
theorem run_cases {polygon : Polygon} (isOpen : polygon.isFinished = false)
    (actions : List Action) :
    (polygon.firstFinish? actions = none ∧
      (polygon.run actions).value.isFinished = false) ∨
    (∃ unfinished options, ∃ tessellator : EarClipTessellator, ∃ logger appearance,
      polygon.firstFinish? actions = some (unfinished, options) ∧
      unfinished.isFinished = false ∧
      (polygon.run actions).value =
        { (unfinished.finish options tessellator logger).value.polygon with
          appearance }) := by
  -- Over any open polygon, since every other action leaves another open one.
  induction actions generalizing polygon with
  | nil => exact .inl ⟨rfl, isOpen⟩
  | cons action rest induction =>
      rw [value_run_cons, firstFinish?]
      cases other : action.finishOptions? with
      | none => exact induction (isFinished_perform_of_open isOpen other)
      | some options =>
          cases action with
          | finish given tessellator logger =>
              cases other
              rcases run_of_finished
                (polygon.isFinished_finish options tessellator logger) rest with
                ⟨appearance, afterwards⟩
              exact .inr ⟨polygon, options, tessellator, logger, appearance, rfl, isOpen,
                afterwards⟩
          | _ => cases other

end Polygon

end PlanarMesh

import Mathlib.Data.List.TakeWhile
import PlanarMesh.Proofs.Polygon.History

/-! # The life cycle of a polygon

A history may finish the polygon with tessellators of any kind. Up to the first finish
the polygon collects rings. From then on its rings are emptied, it refuses rings and
another orientation, and it can be finished again without any effect.
-/

namespace PlanarMesh

/-- An action, or a finish with a tessellator of any kind. -/
inductive Operation : Type 1 where
  | act (action : Action)
  | finishWith {τ : Type} [Tessellator τ] (options : BuildOptions) (tessellator : τ)
      (logger : Option Listener)

namespace Operation

def finishes : Operation → Bool
  | .act action => action.finishOptions?.isSome
  | _ => true

def addedRing? : Operation → Option Ring
  | .act (.addRing ring) => some ring
  | _ => none

end Operation

namespace Polygon

/-! ## Runs -/

def carryOut (polygon : Polygon) : Operation → Logged Polygon
  | .act action => polygon.perform action
  | @Operation.finishWith _ _ options tessellator logger =>
      (·.polygon) <$> polygon.finish options tessellator logger

def carryOutAll (polygon : Polygon) : List Operation → Logged Polygon
  | [] => pure polygon
  | operation :: rest => do
      let changed ← polygon.carryOut operation
      changed.carryOutAll rest

def addedRings (operations : List Operation) : List Ring :=
  operations.filterMap Operation.addedRing?

@[simp] theorem value_carryOutAll_nil (polygon : Polygon) :
    (polygon.carryOutAll []).value = polygon := rfl

@[simp] theorem value_carryOutAll_cons (polygon : Polygon) (operation : Operation)
    (rest : List Operation) :
    (polygon.carryOutAll (operation :: rest)).value =
      ((polygon.carryOut operation).value.carryOutAll rest).value := rfl

@[simp] theorem addedRings_nil : addedRings [] = [] := rfl

theorem addedRings_cons (operation : Operation) (rest : List Operation) :
    addedRings (operation :: rest) =
      operation.addedRing?.toList ++ addedRings rest := by
  rw [addedRings, List.filterMap_cons]
  cases operation.addedRing? with
  | none => rfl
  | some ring => rfl

/-! ## Collecting -/

/-- An open polygon that was handed some rings: it holds the first exterior one and all
interior ones as they came, and shows nothing yet. -/
structure Collecting (polygon : Polygon) (added : List Ring) : Prop where
  isOpen : polygon.isFinished = false
  exterior : polygon.exterior = added.find? (·.isExterior)
  interior : polygon.interior = added.filter fun ring => !ring.isExterior
  vertices : polygon.vertices = []
  indices : polygon.indices = []
  diagnostics : polygon.diagnostics = .empty

theorem collecting_of_open {polygon : Polygon} {added : List Ring}
    (isOpen : polygon.isFinished = false)
    (exterior : polygon.exterior = added.find? (·.isExterior))
    (interior : polygon.interior = added.filter fun ring => !ring.isExterior) :
    polygon.Collecting added where
  isOpen := isOpen
  exterior := exterior
  interior := interior
  vertices := vertices_of_open isOpen
  indices := indices_of_open isOpen
  diagnostics := by
    rw [diagnostics, shown_of_open isOpen]
    rfl

theorem collecting_named (id : String) (logger : Option Listener) :
    (named id logger).Collecting [] :=
  collecting_of_open rfl rfl rfl

theorem addRing_of_first {polygon : Polygon} (isOpen : polygon.isFinished = false)
    (vacant : polygon.exterior = none) {ring : Ring} (outer : ring.isExterior = true) :
    polygon.addRing ring = pure (.ok (), { polygon with exterior := some ring }) := by
  rw [addRing, if_neg (by simp [isOpen]), if_pos outer, vacant]

theorem addRing_of_second {polygon : Polygon} (isOpen : polygon.isFinished = false)
    {kept : Ring} (present : polygon.exterior = some kept) {ring : Ring}
    (outer : ring.isExterior = true) :
    polygon.addRing ring =
      ⟨(.ok (), polygon), polygon.logger.toList.map fun receiver =>
        ⟨receiver, .warning,
          .formatted fun _ => secondExteriorText polygon.id kept.id ring.id⟩⟩ := by
  rw [addRing, if_neg (by simp [isOpen]), if_pos outer, present]
  apply Logged.ext
  · rfl
  · exact List.append_nil _

theorem addRing_of_interior {polygon : Polygon} (isOpen : polygon.isFinished = false)
    {ring : Ring} (inner : ring.isExterior = false) :
    polygon.addRing ring =
      pure (.ok (), { polygon with interior := polygon.interior ++ [ring] }) := by
  rw [addRing, if_neg (by simp [isOpen]), if_neg (by simp [inner])]

namespace Collecting

variable {polygon : Polygon} {added : List Ring}

theorem addRing (collects : polygon.Collecting added) (ring : Ring) :
    (polygon.addRing ring).value.2.Collecting (added ++ [ring]) := by
  have isOpen := collects.isOpen
  cases kind : ring.isExterior with
  | false =>
      have same : (added ++ [ring]).find? (·.isExterior) = polygon.exterior := by
        rw [List.find?_append, ← collects.exterior]
        simp [kind]
      have longer : (added ++ [ring]).filter (fun ring => !ring.isExterior) =
          polygon.interior ++ [ring] := by
        rw [List.filter_append, ← collects.interior]
        simp [kind]
      rw [addRing_of_interior isOpen kind]
      exact collecting_of_open isOpen same.symm longer.symm
  | true =>
      have same : (added ++ [ring]).filter (fun ring => !ring.isExterior) =
          polygon.interior := by
        rw [List.filter_append, ← collects.interior]
        simp [kind]
      cases present : polygon.exterior with
      | none =>
          have first : (added ++ [ring]).find? (·.isExterior) = some ring := by
            rw [List.find?_append, ← collects.exterior, present]
            simp [kind]
          rw [addRing_of_first isOpen present kind]
          exact collecting_of_open isOpen first.symm same.symm
      | some kept =>
          have still : (added ++ [ring]).find? (·.isExterior) = polygon.exterior := by
            rw [List.find?_append, ← collects.exterior, present]
            rfl
          rw [addRing_of_second isOpen present kind]
          exact collecting_of_open isOpen still.symm same.symm

theorem setNegNormal (collects : polygon.Collecting added) (negNormal : Bool) :
    (polygon.setNegNormal negNormal).2.Collecting added := by
  rw [Polygon.setNegNormal, if_neg (by simp [collects.isOpen])]
  exact collecting_of_open collects.isOpen collects.exterior collects.interior

theorem withAppearance (collects : polygon.Collecting added)
    (appearance : AppearanceTarget) : { polygon with appearance }.Collecting added :=
  collecting_of_open collects.isOpen collects.exterior collects.interior

theorem carryOut (collects : polygon.Collecting added) {operation : Operation}
    (other : operation.finishes = false) :
    (polygon.carryOut operation).value.Collecting
      (added ++ operation.addedRing?.toList) := by
  cases operation with
  | finishWith options tessellator logger => cases other
  | act action =>
      have noRing : added ++ [] = added := List.append_nil added
      cases action with
      | addRing ring => exact collects.addRing ring
      | setNegNormal negNormal => exact noRing.symm ▸ collects.setNegNormal negNormal
      | bindTexture target => exact noRing.symm ▸ collects.withAppearance _
      | bindMaterial target => exact noRing.symm ▸ collects.withAppearance _
      | editAppearance appearance => exact noRing.symm ▸ collects.withAppearance appearance
      | texCoords theme front => exact noRing.symm ▸ collects
      | toMesh theme front => exact noRing.symm ▸ collects
      | finish options tessellator logger => cases other

end Collecting

/-! ## Released -/

/-- A finished polygon that was handed some rings before: it still has those that it
held, but without their vertices. -/
structure Released (polygon : Polygon) (added : List Ring) : Prop where
  isFinished : polygon.isFinished = true
  exterior : polygon.exterior = (added.find? (·.isExterior)).map Ring.emptied
  interior : polygon.interior =
    (added.filter fun ring => !ring.isExterior).map Ring.emptied

theorem Collecting.finish {τ : Type} [Tessellator τ] {polygon : Polygon}
    {added : List Ring} (collects : polygon.Collecting added) (options : BuildOptions)
    (tessellator : τ) (logger : Option Listener) :
    (polygon.finish options tessellator logger).value.polygon.Released added := by
  rcases exists_sealed_of_finish collects.isOpen options tessellator logger with
    ⟨surface, equal⟩
  rw [equal]
  constructor
  · rfl
  · rw [← collects.exterior]
    simp [sealed, cleaned, Function.comp_def]
  · rw [← collects.interior]
    simp [sealed, cleaned, Function.comp_def]

theorem Collecting.carryOut_of_finishes {polygon : Polygon} {added : List Ring}
    (collects : polygon.Collecting added) {operation : Operation}
    (finishes : operation.finishes = true) :
    (polygon.carryOut operation).value.Released added := by
  cases operation with
  | finishWith options tessellator logger =>
      exact collects.finish options tessellator logger
  | act action =>
      cases action with
      | finish options tessellator logger =>
          exact collects.finish options tessellator logger
      | _ => cases finishes

theorem carryOut_of_finished {polygon : Polygon} (finished : polygon.isFinished = true)
    (operation : Operation) :
    ∃ appearance, (polygon.carryOut operation).value = { polygon with appearance } := by
  cases operation with
  | act action => exact perform_of_finished finished action
  | finishWith options tessellator logger =>
      refine ⟨polygon.appearance, ?_⟩
      rw [carryOut, finish_of_finished finished]
      rfl

/-- Nothing but the appearance of a finished polygon can change. -/
theorem carryOutAll_of_finished {polygon : Polygon}
    (finished : polygon.isFinished = true) (operations : List Operation) :
    ∃ appearance, (polygon.carryOutAll operations).value =
      { polygon with appearance } := by
  induction operations generalizing polygon with
  | nil => exact ⟨_, rfl⟩
  | cons operation rest induction =>
      rcases carryOut_of_finished finished operation with ⟨first, equal⟩
      rw [value_carryOutAll_cons, equal]
      exact induction finished

theorem addRing_of_finished {polygon : Polygon} (finished : polygon.isFinished = true)
    (ring : Ring) :
    polygon.addRing ring =
      pure (.error (.ringAfterFinish polygon.id ring), polygon) := by
  rw [addRing, if_pos finished]

theorem setNegNormal_of_finished {polygon : Polygon}
    (finished : polygon.isFinished = true) (negNormal : Bool) :
    polygon.setNegNormal negNormal =
      (.error (.orientationAfterFinish polygon.id), polygon) := by
  rw [setNegNormal, if_pos finished]

/-! ## Whole lives -/

theorem carryOutAll_cases {polygon : Polygon} {added : List Ring}
    (collects : polygon.Collecting added) (operations : List Operation) :
    let before := operations.takeWhile fun operation => !operation.finishes
    let changed := (polygon.carryOutAll operations).value
    if operations.any Operation.finishes then
      changed.Released (added ++ addedRings before)
    else
      changed.Collecting (added ++ addedRings before) := by
  induction operations generalizing polygon added with
  | nil => simpa using collects
  | cons operation rest induction =>
      cases finishes : operation.finishes with
      | true =>
          have released := collects.carryOut_of_finishes finishes
          rcases carryOutAll_of_finished released.isFinished rest with ⟨_, equal⟩
          simp only [List.any_cons, finishes, Bool.true_or, if_true, List.takeWhile_cons,
            Bool.not_true, Bool.false_eq_true, if_false, addedRings_nil, List.append_nil,
            value_carryOutAll_cons]
          rw [equal]
          exact ⟨released.isFinished, released.exterior, released.interior⟩
      | false =>
          have later := induction (collects.carryOut finishes)
          simpa only [List.any_cons, finishes, Bool.false_or, List.takeWhile_cons,
            Bool.not_false, if_true, addedRings_cons, List.append_assoc,
            value_carryOutAll_cons] using later

theorem addRing_identity (polygon : Polygon) (ring : Ring) :
    (polygon.addRing ring).value.2.id = polygon.id ∧
      (polygon.addRing ring).value.2.logger = polygon.logger := by
  rw [addRing]
  split
  · exact ⟨rfl, rfl⟩
  · split
    · split
      · exact ⟨rfl, rfl⟩
      · exact ⟨rfl, rfl⟩
    · exact ⟨rfl, rfl⟩

theorem carryOut_identity (polygon : Polygon) (operation : Operation) :
    (polygon.carryOut operation).value.id = polygon.id ∧
      (polygon.carryOut operation).value.logger = polygon.logger := by
  cases operation with
  | finishWith options tessellator logger =>
      exact ⟨polygon.id_finish options tessellator logger,
        polygon.logger_finish options tessellator logger⟩
  | act action =>
      cases action with
      | addRing ring => exact polygon.addRing_identity ring
      | setNegNormal negNormal =>
          change (polygon.setNegNormal negNormal).2.id = _ ∧
            (polygon.setNegNormal negNormal).2.logger = _
          rw [setNegNormal]
          split
          · exact ⟨rfl, rfl⟩
          · exact ⟨rfl, rfl⟩
      | finish options tessellator logger =>
          exact ⟨polygon.id_finish options tessellator logger,
            polygon.logger_finish options tessellator logger⟩
      | _ => exact ⟨rfl, rfl⟩

theorem carryOutAll_identity (polygon : Polygon) (operations : List Operation) :
    (polygon.carryOutAll operations).value.id = polygon.id ∧
      (polygon.carryOutAll operations).value.logger = polygon.logger := by
  induction operations generalizing polygon with
  | nil => exact ⟨rfl, rfl⟩
  | cons operation rest induction =>
      rcases polygon.carryOut_identity operation with ⟨sameId, sameLogger⟩
      rcases induction (polygon.carryOut operation).value with ⟨laterId, laterLogger⟩
      rw [value_carryOutAll_cons]
      exact ⟨laterId.trans sameId, laterLogger.trans sameLogger⟩

/-- A new polygon collects rings until it is finished for the first time. Then it is
released, and everything but its appearance stays as it is. -/
theorem carryOutAll_lifeCycle (id : String) (logger : Option Listener)
    (operations : List Operation) :
    let polygon := ((named id logger).carryOutAll operations).value
    (operations.any Operation.finishes = false →
      polygon.Collecting (addedRings operations) ∧
      ∀ kept ring, polygon.exterior = some kept → ring.isExterior = true →
        polygon.addRing ring =
          ⟨(.ok (), polygon), logger.toList.map fun receiver =>
            ⟨receiver, .warning,
              .formatted fun _ => secondExteriorText id kept.id ring.id⟩⟩) ∧
    (operations.any Operation.finishes = true →
      polygon.Released
        (addedRings (operations.takeWhile fun operation => !operation.finishes)) ∧
      (∀ later, ∃ appearance,
        (polygon.carryOutAll later).value = { polygon with appearance }) ∧
      (∀ ring,
        polygon.addRing ring = pure (.error (.ringAfterFinish id ring), polygon) ∧
        (PolygonError.ringAfterFinish id ring).rejectedRing? = some ring) ∧
      (∀ negNormal,
        polygon.setNegNormal negNormal = (.error (.orientationAfterFinish id), polygon)) ∧
      ∀ (τ : Type) [Tessellator τ] (options : BuildOptions) (tessellator : τ)
          (listener : Option Listener),
        polygon.finish options tessellator listener =
          pure ⟨.ok (), polygon, tessellator⟩) := by
  have sides := carryOutAll_cases (collecting_named id logger) operations
  rcases (named id logger).carryOutAll_identity operations with ⟨sameId, sameLogger⟩
  dsimp only at sides ⊢
  constructor
  · intro never
    have whole : (operations.takeWhile fun operation => !operation.finishes) =
        operations := by
      rw [List.takeWhile_eq_self_iff]
      simpa using never
    rw [if_neg (by simp [never]), whole] at sides
    refine ⟨sides, fun kept ring present outer => ?_⟩
    rw [addRing_of_second sides.isOpen present outer, sameId, sameLogger]
    rfl
  · intro once
    rw [if_pos once] at sides
    have finished := sides.isFinished
    refine ⟨sides, carryOutAll_of_finished finished, fun ring => ⟨?_, rfl⟩,
      fun negNormal => ?_, fun τ _ => finish_of_finished finished⟩
    · rw [addRing_of_finished finished, sameId]
      rfl
    · rw [setNegNormal_of_finished finished, sameId]
      rfl

def courtyardAdditions : List Operation :=
  [.act (.addRing ⟨"outline", true, [⟨0, 0, 0⟩, ⟨4, 0, 0⟩, ⟨4, 4, 0⟩]⟩),
    .act (.addRing ⟨"fence", true, [⟨9, 9, 9⟩]⟩),
    .act (.addRing ⟨"well", false, [⟨2, 1, 0⟩, ⟨3, 1, 0⟩, ⟨3, 2, 0⟩]⟩)]

theorem carryOutAll_lifeCycle_courtyard :
    let unfinished := (named "courtyard" (some (.recorder 0))).carryOutAll courtyardAdditions
    let finished := (named "courtyard" (some (.recorder 0))).carryOutAll
      (courtyardAdditions ++ [.finishWith .standard worn none])
    unfinished.value.rings.map (·.id) = ["outline", "well"] ∧
      (∀ ring : Ring, ring.isExterior = true →
        (unfinished.value.addRing ring).emissions.length = 1) ∧
      finished.value.rings = [⟨"outline", true, []⟩, ⟨"well", false, []⟩] ∧
      ∀ ring, (finished.value.addRing ring).value.1.isOk = false := by
  rcases (carryOutAll_lifeCycle "courtyard" (some (.recorder 0)) courtyardAdditions).1 rfl
    with ⟨collects, drops⟩
  rcases (carryOutAll_lifeCycle "courtyard" (some (.recorder 0))
    (courtyardAdditions ++ [.finishWith .standard worn none])).2 rfl
    with ⟨released, _, refuses, _, _⟩
  refine ⟨?_, ?_, ?_, ?_⟩
  · rw [rings, collects.exterior, collects.interior]
    rfl
  · intro ring outer
    rw [drops _ ring (collects.exterior.trans rfl) outer]
    rfl
  · rw [rings, released.exterior, released.interior]
    rfl
  · intro ring
    rw [(refuses ring).1]
    rfl

end Polygon

end PlanarMesh

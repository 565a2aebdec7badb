import PlanarMesh.Proofs.Ring.Cleaning

/-! # Duplicate removal with a moving index

A ring can be edited while it is scanned. An index moves along the vertices. If the
vertex there coincides with the one behind it, it is taken out, and with it the item at
the same index of every coordinate list for the ring; the next vertex then stands at the
index, which stays where it is. Everything behind a removal has moved by then, in the
ring and in lists of any length.

Every sweep comes to an end, after as many steps as the ring had vertices at most. It
ends in one way only, with what the removal of positions found beforehand leaves.
-/

namespace PlanarMesh

/-! ## Erasing by steps -/

namespace TextureTarget

@[simp] theorem eraseFor_nil (target : TextureTarget) (ringId : String) :
    target.eraseFor ringId [] = target := by
  simp [eraseFor]

theorem eraseFor_cons (target : TextureTarget) (ringId : String) (position : Nat)
    (rest : List Nat) :
    (target.eraseFor ringId [position]).eraseFor ringId rest =
      target.eraseFor ringId (position :: rest) := by
  simp only [eraseFor, List.map_map]
  congr 1
  apply List.map_congr_left
  intro coordinates _
  simp only [Function.comp]
  by_cases targets : coordinates.targets ringId
  · have stillTargets : (coordinates.erase position).2.targets ringId := targets
    simp [targets, stillTargets]
  · simp [targets]

end TextureTarget

/-! ## Steps -/

structure Sweep where
  index : Nat
  removed : Nat
  vertices : List Point3
  targets : List TextureTarget

namespace Sweep

def start (ring : Ring) (targets : List TextureTarget) : Sweep :=
  ⟨0, 0, ring.vertices, targets⟩

def erase (ringId : String) (sweep : Sweep) : Sweep :=
  { sweep with
    removed := sweep.removed + 1
    vertices := sweep.vertices.eraseIdx sweep.index
    targets := sweep.targets.map (·.eraseFor ringId [sweep.index]) }

def advance (sweep : Sweep) : Sweep :=
  { sweep with index := sweep.index + 1 }

/-- One step on the ring with this id. There is none when the index has come to the end,
or when two vertices are left. -/
def step? (ringId : String) (sweep : Sweep) : Option Sweep :=
  if inside : sweep.index < sweep.vertices.length ∧ 2 < sweep.vertices.length then
    have wraps : (sweep.index + 1) % sweep.vertices.length < sweep.vertices.length :=
      Nat.mod_lt _ (Nat.zero_lt_of_lt inside.2)
    have here : sweep.index < sweep.vertices.length := inside.1
    if coincide sweep.vertices[sweep.index]
        sweep.vertices[(sweep.index + 1) % sweep.vertices.length] then
      some (sweep.erase ringId)
    else
      some sweep.advance
  else
    none

inductive Ends (ringId : String) : Nat → Sweep → Sweep → Prop
  | stop {sweep} : sweep.step? ringId = none → Ends ringId 0 sweep sweep
  | step {steps sweep later final} :
      sweep.step? ringId = some later →
      Ends ringId steps later final →
      Ends ringId (steps + 1) sweep final

theorem Ends.unique {ringId : String} {steps others : Nat} {sweep final other : Sweep}
    (ends : Ends ringId steps sweep final) (again : Ends ringId others sweep other) :
    others = steps ∧ other = final := by
  induction ends generalizing others with
  | stop done =>
      cases again with
      | stop _ => exact ⟨rfl, rfl⟩
      | step more _ =>
          rw [done] at more
          cases more
  | step more _ induction =>
      cases again with
      | stop done =>
          rw [done] at more
          cases more
      | step moreAgain rest =>
          rw [more] at moreAgain
          cases moreAgain
          rcases induction rest with ⟨rfl, rfl⟩
          exact ⟨rfl, rfl⟩

/-! ## What a step does

The vertices of a sweep are those that it has kept, which stand in front of the index,
and those that it has not come to.
-/

variable (ringId : String)

theorem getElem_behind (front ahead : List Point3) (vertex : Point3)
    (wraps : (front.length + 1) % (front ++ vertex :: ahead).length <
      (front ++ vertex :: ahead).length) :
    (front ++ vertex :: ahead)[(front.length + 1) % (front ++ vertex :: ahead).length] =
      ahead.head?.getD (front.head?.getD vertex) := by
  rw [← Option.some_inj, ← List.getElem?_eq_getElem]
  cases ahead with
  | nil =>
      have round : (front.length + 1) % (front ++ [vertex]).length = 0 := by
        simp only [List.length_append, List.length_singleton, Nat.mod_self]
      rw [round]
      cases front with
      | nil => rfl
      | cons first rest => rfl
  | cons next others =>
      have inside : (front.length + 1) % (front ++ vertex :: next :: others).length =
          front.length + 1 :=
        Nat.mod_eq_of_lt (by simp)
      rw [inside, List.getElem?_append_right (Nat.le_add_right _ _),
        Nat.add_sub_cancel_left]
      rfl

theorem step?_append (removed : Nat) (front ahead : List Point3) (vertex : Point3)
    (targets : List TextureTarget) :
    step? ringId ⟨front.length, removed, front ++ vertex :: ahead, targets⟩ =
      if front.length + 1 + ahead.length ≤ 2 then
        none
      else if coincide vertex (ahead.head?.getD (front.head?.getD vertex)) then
        some ⟨front.length, removed + 1, front ++ ahead,
          targets.map (·.eraseFor ringId [front.length])⟩
      else
        some ⟨front.length + 1, removed, front ++ vertex :: ahead, targets⟩ := by
  have size : (front ++ vertex :: ahead).length = front.length + 1 + ahead.length := by
    simp only [List.length_append, List.length_cons]
    omega
  have erased : (front ++ vertex :: ahead).eraseIdx front.length = front ++ ahead := by
    rw [List.eraseIdx_append_of_length_le (Nat.le_refl _), Nat.sub_self]
    rfl
  rw [step?]
  by_cases few : front.length + 1 + ahead.length ≤ 2
  · rw [if_pos few, dif_neg (by simp only [size]; omega)]
  · rw [if_neg few, dif_pos (by simp only [size]; omega)]
    simp only [getElem_behind, List.getElem_append_right, Nat.le_refl, Nat.sub_self,
      List.getElem_cons_zero, erase, advance, erased]

theorem step?_at_end (removed : Nat) (vertices : List Point3)
    (targets : List TextureTarget) :
    step? ringId ⟨vertices.length, removed, vertices, targets⟩ = none := by
  rw [step?, dif_neg]
  intro inside
  exact Nat.lt_irrefl _ inside.1

/-! ## Whole sweeps -/

/-- From any moment on, a sweep erases at the positions that can be found from what it
has kept and what it has not come to. -/
theorem exists_ends (back front : List Point3) (removed : Nat)
    (targets : List TextureTarget) :
    let positions := duplicatePositions front.length front.head? back
    ∃ steps index, steps ≤ back.length ∧
      Ends ringId steps ⟨front.length, removed, front ++ back, targets⟩
        ⟨index, removed + positions.length, eraseAll positions (front ++ back),
          targets.map (·.eraseFor ringId positions)⟩ := by
  dsimp only
  induction back generalizing front removed targets with
  | nil =>
      refine ⟨0, front.length, Nat.le_refl 0, ?_⟩
      simp only [duplicatePositions, TextureTarget.eraseFor_nil, List.append_nil,
        List.map_id', eraseAll, List.foldl_nil]
      exact .stop (step?_at_end ringId removed front targets)
  | cons vertex ahead induction =>
      have next := step?_append ringId removed front ahead vertex targets
      rw [duplicatePositions]
      split
      next few =>
        rw [if_pos few] at next
        refine ⟨0, front.length, Nat.zero_le _, ?_⟩
        simp only [TextureTarget.eraseFor_nil, List.map_id', eraseAll, List.foldl_nil]
        exact .stop next
      next more =>
        rw [if_neg more] at next
        split
        next same =>
          rw [if_pos same] at next
          rcases induction front (removed + 1)
              (targets.map (·.eraseFor ringId [front.length])) with
            ⟨steps, index, bound, ends⟩
          refine ⟨steps + 1, index, Nat.succ_le_succ bound, .step next ?_⟩
          simp only [List.map_map, Function.comp_def, TextureTarget.eraseFor_cons] at ends
          rw [eraseAll_cons_append_cons rfl, List.length_cons, ← Nat.add_assoc,
            Nat.add_right_comm]
          exact ends
        next different =>
          rw [if_neg different] at next
          rcases induction (front ++ [vertex]) removed targets with
            ⟨steps, index, bound, ends⟩
          refine ⟨steps + 1, index, Nat.succ_le_succ bound, .step next ?_⟩
          rw [List.head?_append, List.append_assoc, List.length_append] at ends
          exact ends

theorem exists_ends_start (ring : Ring) (targets : List TextureTarget)
    (logger : Option Listener) :
    let cleaned := (ring.removeDuplicates targets logger).value
    ∃ steps index, steps ≤ ring.size ∧
      Ends ring.id steps (start ring targets)
        ⟨index, cleaned.removed, cleaned.ring.vertices, cleaned.targets⟩ := by
  dsimp only
  rcases exists_ends ring.id ring.vertices [] 0 targets with
    ⟨steps, index, bound, ends⟩
  refine ⟨steps, index, bound, ?_⟩
  rw [Ring.removeDuplicates_value]
  rw [Nat.zero_add] at ends
  exact ends

end Sweep

end PlanarMesh

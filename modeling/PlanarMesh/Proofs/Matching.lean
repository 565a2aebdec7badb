import Mathlib.Data.List.Forall2

/-! # Lists matched item by item

`List.Forall₂` says that two lists are as long as each other and related item by item.
Results of an action on every item are related to the items in this way, and lists that
are related can be found item by item.
-/

namespace PlanarMesh

variable {α β γ : Type}

theorem mapM_eq_some_iff {action : α → Option β} {values : List α} {results : List β} :
    values.mapM action = some results ↔
      List.Forall₂ (fun value result => action value = some result) values results := by
  induction values generalizing results with
  | nil => cases results <;> simp
  | cons value values induction =>
      rw [List.mapM_cons]
      cases results with
      | nil => simp [Option.bind_eq_some_iff]
      | cons result results => simp [Option.bind_eq_some_iff, induction]

theorem mapM_map_eq_some {read : β → Option γ} {write : α → β} {meaning : α → γ} {items : List α}
    (each : ∀ item ∈ items, read (write item) = some (meaning item)) :
    (items.map write).mapM read = some (items.map meaning) := by
  rw [mapM_eq_some_iff, List.forall₂_map_left_iff, List.forall₂_map_right_iff]
  exact List.forall₂_same.mpr each

variable {related : α → β → Prop} {firsts : List α}

theorem forall₂_congr_of_mem {other : α → β → Prop} {seconds : List β}
    (agree : ∀ first ∈ firsts, ∀ second, related first second ↔ other first second) :
    List.Forall₂ related firsts seconds ↔ List.Forall₂ other firsts seconds := by
  induction firsts generalizing seconds with
  | nil => cases seconds <;> simp
  | cons first firsts induction =>
      rw [List.forall_mem_cons] at agree
      cases seconds with
      | nil => simp
      | cons second seconds =>
          rw [List.forall₂_cons, List.forall₂_cons, agree.1, induction agree.2]

theorem exists_of_forall₂ {seconds : List β} (each : List.Forall₂ related firsts seconds)
    {first : α} (member : first ∈ firsts) : ∃ second, related first second := by
  induction each with
  | nil => cases member
  | cons isRelated _ induction =>
      rcases List.mem_cons.mp member with rfl | member
      · exact ⟨_, isRelated⟩
      · exact induction member

theorem exists_forall₂ (each : ∀ first ∈ firsts, ∃ second, related first second) :
    ∃ seconds, List.Forall₂ related firsts seconds := by
  induction firsts with
  | nil => exact ⟨[], .nil⟩
  | cons first firsts induction =>
      rcases each first List.mem_cons_self with ⟨second, isRelated⟩
      rcases induction fun other member => each other (List.mem_cons_of_mem _ member) with
        ⟨seconds, others⟩
      exact ⟨second :: seconds, .cons isRelated others⟩

end PlanarMesh

import Mathlib.Tactic.Common
import PlanarMesh.Log.Emission

/-! # Laws of logged values

A logged computation is its value and its emissions. Each way of building one has
an equation for both, so that results can be studied without their emissions, and
emissions without unfolding the computation.
-/

namespace PlanarMesh.Logged

variable {α β : Type}

@[simp] theorem value_pure (value : α) : (pure value : Logged α).value = value := rfl

@[simp] theorem emissions_pure (value : α) : (pure value : Logged α).emissions = [] := rfl

@[simp] theorem value_bind (first : Logged α) (next : α → Logged β) :
    (first >>= next).value = (next first.value).value := rfl

@[simp] theorem emissions_bind (first : Logged α) (next : α → Logged β) :
    (first >>= next).emissions =
      first.emissions ++ (next first.value).emissions := rfl

@[simp] theorem value_map (change : α → β) (logged : Logged α) :
    (change <$> logged).value = change logged.value := rfl

@[simp] theorem emissions_map (change : α → β) (logged : Logged α) :
    (change <$> logged).emissions = logged.emissions :=
  List.append_nil logged.emissions

@[simp] theorem value_tell (listener : Option Listener) (level : Level)
    (message : Message) : (tell listener level message).value = () := rfl

@[simp] theorem emissions_tell (listener : Option Listener) (level : Level)
    (message : Message) :
    (tell listener level message).emissions =
      listener.toList.map fun receiver => ⟨receiver, level, message⟩ := rfl

@[simp] theorem value_note (level : Level) (text : String) :
    (note level text).value = () := rfl

@[simp] theorem emissions_note (level : Level) (text : String) :
    (note level text).emissions = [⟨.facade, level, .formatted fun _ => text⟩] := rfl

theorem bind_of_value {first : Logged α} {value : α} (equal : first.value = value)
    (next : α → Logged β) : first >>= next = first >>= fun _ => next value := by
  subst equal
  rfl

@[ext] theorem ext {left right : Logged α} (value : left.value = right.value)
    (emissions : left.emissions = right.emissions) : left = right := by
  cases left
  cases right
  cases value
  cases emissions
  rfl

instance : LawfulMonad Logged := LawfulMonad.mk' Logged
  (by
    intro α logged
    apply Logged.ext
    · rfl
    · exact List.append_nil logged.emissions)
  (by
    intro α β value next
    rfl)
  (by
    intro α β γ logged first second
    apply Logged.ext
    · rfl
    · exact List.append_assoc _ _ _)

/-! ## Lists and options -/

theorem value_mapM (step : α → Logged β) (items : List α) :
    (items.mapM step).value = items.map fun item => (step item).value := by
  induction items with
  | nil => rfl
  | cons head tail induction =>
      rw [List.mapM_cons, List.map_cons]
      simp only [value_bind, value_pure]
      rw [induction]

theorem emissions_mapM (step : α → Logged β) (items : List α) :
    (items.mapM step).emissions = items.flatMap fun item => (step item).emissions := by
  induction items with
  | nil => rfl
  | cons head tail induction =>
      rw [List.mapM_cons, List.flatMap_cons]
      simp only [emissions_bind, emissions_pure, List.append_nil]
      rw [induction]

theorem emissions_forM (step : α → Logged PUnit) (items : List α) :
    (items.forM step).emissions = items.flatMap fun item => (step item).emissions := by
  induction items with
  | nil => rfl
  | cons head tail induction =>
      change (step head).emissions ++ (tail.forM step).emissions = _
      rw [induction, List.flatMap_cons]

theorem value_mapM_option (step : α → Logged β) (item : Option α) :
    (item.mapM step).value = item.map fun item => (step item).value := by
  cases item with
  | none => rfl
  | some item => rfl

/-! ## Levels -/

def Avoids (logged : Logged α) (level : Level) : Prop :=
  ∀ emission ∈ logged.emissions, emission.level ≠ level

theorem avoids_pure (value : α) (level : Level) : (pure value : Logged α).Avoids level := by
  intro emission member
  cases member

theorem Avoids.bind {first : Logged α} {next : α → Logged β} {level : Level}
    (firstAvoids : first.Avoids level) (nextAvoids : (next first.value).Avoids level) :
    (first >>= next).Avoids level := by
  intro emission member
  rcases List.mem_append.mp member with early | late
  · exact firstAvoids emission early
  · exact nextAvoids emission late

theorem avoids_tell {told level : Level} (different : told ≠ level)
    (listener : Option Listener) (message : Message) :
    (tell listener told message).Avoids level := by
  intro emission member
  rcases List.mem_map.mp member with ⟨receiver, _, rfl⟩
  exact different

theorem avoids_note {told level : Level} (different : told ≠ level) (text : String) :
    (note told text).Avoids level :=
  avoids_tell different (some .facade) (.formatted fun _ => text)

theorem avoids_forM {step : α → Logged PUnit} {level : Level} {items : List α}
    (stepAvoids : ∀ item ∈ items, (step item).Avoids level) :
    (items.forM step).Avoids level := by
  intro emission member
  rw [emissions_forM] at member
  rcases List.mem_flatMap.mp member with ⟨item, itemMember, inStep⟩
  exact stepAvoids item itemMember emission inStep

end PlanarMesh.Logged

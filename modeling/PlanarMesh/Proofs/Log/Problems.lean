import PlanarMesh.Proofs.Log.Logged

/-! # Problems among the emissions

A problem is what is told at level warning or error. The problems that a listener is
told of in one computation follow those of the computation before it.
-/

namespace PlanarMesh

namespace Level

def isProblem : Level → Bool
  | .warning | .error => true
  | _ => false

end Level

namespace Logged

variable {α β : Type}

/-- The texts of the problems that a listener is told of, in order. -/
def problemsFor (logged : Logged α) (listener : Listener) : List String :=
  (logged.emissions.filter fun emission =>
    emission.listener == listener && emission.level.isProblem).map (·.text)

@[simp] theorem problemsFor_pure (value : α) (listener : Listener) :
    (pure value : Logged α).problemsFor listener = [] := rfl

@[simp] theorem problemsFor_bind (first : Logged α) (next : α → Logged β)
    (listener : Listener) :
    (first >>= next).problemsFor listener =
      first.problemsFor listener ++ (next first.value).problemsFor listener := by
  simp [problemsFor]

theorem problemsFor_tell {level : Level} (problem : level.isProblem = true)
    (listener : Listener) (message : Message) :
    (tell (some listener) level message).problemsFor listener = [message.text] := by
  simp [problemsFor, problem, Emission.text]

theorem problemsFor_forM (step : α → Logged PUnit) (items : List α)
    (listener : Listener) :
    (items.forM step).problemsFor listener =
      items.flatMap fun item => (step item).problemsFor listener := by
  rw [problemsFor, emissions_forM, List.filter_flatMap, List.map_flatMap]
  rfl

theorem problemsFor_of_avoids {logged : Logged α} (noWarning : logged.Avoids .warning)
    (noError : logged.Avoids .error) (listener : Listener) :
    logged.problemsFor listener = [] := by
  rw [problemsFor, List.map_eq_nil_iff, List.filter_eq_nil_iff]
  intro emission member problem
  have warning := noWarning emission member
  have error := noError emission member
  cases equal : emission.level with
  | warning => exact warning equal
  | error => exact error equal
  | _ => simp [equal, Level.isProblem] at problem

theorem problemsFor_note {level : Level} (minor : level.isProblem = false)
    (text : String) (listener : Listener) :
    (note level text).problemsFor listener = [] := by
  simp [problemsFor, minor]

end Logged

end PlanarMesh

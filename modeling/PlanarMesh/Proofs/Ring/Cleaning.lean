import PlanarMesh.Proofs.Log.Logged
import PlanarMesh.Proofs.Ring.OnePass

/-! # A cleaned ring and the bindings that follow it

What duplicate removal makes of a ring depends on the ring alone. A texture binding
follows: each of its coordinate lists for that ring loses the items at the same
places, and its other lists stay as they are.
-/

namespace PlanarMesh

namespace Ring

def cleaned (ring : Ring) (optimize : Bool) : Ring :=
  if optimize then (ring.removeDuplicates [] none).value.ring else ring

/-- The places of the vertices that are missing from the cleaned ring. -/
def removedPlaces (ring : Ring) (optimize : Bool) : List Nat :=
  if optimize then duplicatePlaces ring.vertices else []

end Ring

namespace TextureTarget

def follow (target : TextureTarget) (optimize : Bool) (ring : Ring) : TextureTarget :=
  { target with
    coordinates := target.coordinates.map fun coordinates =>
      if coordinates.targets ring.id then
        { coordinates with
          coords := outside (ring.removedPlaces optimize) coordinates.coords }
      else
        coordinates }

def followAll (target : TextureTarget) (optimize : Bool) (rings : List Ring) :
    TextureTarget :=
  rings.foldl (fun target ring => target.follow optimize ring) target

end TextureTarget

/-! ## Rings -/

namespace Ring

@[simp] theorem cleaned_false (ring : Ring) : ring.cleaned false = ring := rfl

@[simp] theorem removedPlaces_false (ring : Ring) : ring.removedPlaces false = [] := rfl

@[simp] theorem removedPlaces_true (ring : Ring) :
    ring.removedPlaces true = duplicatePlaces ring.vertices := rfl

theorem removeDuplicates_value (ring : Ring) (targets : List TextureTarget)
    (logger : Option Listener) :
    (ring.removeDuplicates targets logger).value =
      { removed := (duplicatePositions 0 none ring.vertices).length
        ring :=
          { ring with
            vertices := eraseAll (duplicatePositions 0 none ring.vertices) ring.vertices }
        targets :=
          targets.map (·.eraseFor ring.id (duplicatePositions 0 none ring.vertices)) } := by
  simp only [removeDuplicates, Logged.value_bind]
  split <;> rfl

/-- Neither the bindings nor the listener have a say in what becomes of the ring. -/
theorem removeDuplicates_ring (ring : Ring) (targets : List TextureTarget)
    (logger : Option Listener) :
    (ring.removeDuplicates targets logger).value.ring = ring.cleaned true := by
  rw [cleaned, if_pos rfl, removeDuplicates_value, removeDuplicates_value]

@[simp] theorem cleaned_id (ring : Ring) (optimize : Bool) :
    (ring.cleaned optimize).id = ring.id := by
  cases optimize with
  | false => rfl
  | true => rw [← removeDuplicates_ring ring [] none, removeDuplicates_value]

@[simp] theorem emptied_cleaned (ring : Ring) (optimize : Bool) :
    (ring.cleaned optimize).emptied = ring.emptied := by
  cases optimize with
  | false => rfl
  | true =>
      rw [← removeDuplicates_ring ring [] none, removeDuplicates_value]
      rfl

theorem cleaned_vertices (ring : Ring) (optimize : Bool) :
    (ring.cleaned optimize).vertices =
      outside (ring.removedPlaces optimize) ring.vertices := by
  cases optimize with
  | false => simp
  | true =>
      rw [← removeDuplicates_ring ring [] none, removeDuplicates_value,
        removedPlaces_true]
      exact eraseAll_duplicatePositions ring.vertices ring.vertices

theorem cleaned_vertices_sublist (ring : Ring) (optimize : Bool) :
    (ring.cleaned optimize).vertices.Sublist ring.vertices := by
  rw [cleaned_vertices]
  exact outside_sublist _ _

theorem removeDuplicates_removed (ring : Ring) (targets : List TextureTarget)
    (logger : Option Listener) :
    (ring.removeDuplicates targets logger).value.removed =
      (ring.removedPlaces true).length := by
  rw [removeDuplicates_value, removedPlaces_true]
  exact length_duplicatePositions ring.vertices ring.vertices.length 0 0 0 none rfl
    (Nat.zero_add _).symm

theorem size_cleaned (ring : Ring) (optimize : Bool) :
    (ring.cleaned optimize).size + (ring.removedPlaces optimize).length = ring.size := by
  rw [size, cleaned_vertices]
  cases optimize with
  | false =>
      rw [removedPlaces_false, outside_no_places]
      rfl
  | true =>
      exact length_outsideFrom_duplicatePlacesFrom ring.vertices.length 0 0 none
        ring.vertices ring.vertices rfl

theorem reportMismatches_avoids_error (ring : Ring) (targets : List TextureTarget)
    (logger : Option Listener) :
    (ring.reportMismatches targets logger).Avoids .error := by
  apply Logged.avoids_forM
  intro coordinates _
  split
  · exact Logged.avoids_tell (by decide) _ _
  · exact Logged.avoids_pure _ _

theorem removeDuplicates_avoids_error (ring : Ring) (targets : List TextureTarget)
    (logger : Option Listener) :
    (ring.removeDuplicates targets logger).Avoids .error := by
  apply (ring.reportMismatches_avoids_error targets logger).bind
  dsimp only
  split
  · exact (Logged.avoids_note (by decide) _).bind (Logged.avoids_pure _ _)
  · exact Logged.avoids_pure _ _

end Ring

/-! ## Bindings -/

namespace TextureTarget

theorem foldl_erase (positions : List Nat) (coordinates : TextureCoordinates) :
    positions.foldl (fun coordinates position => (coordinates.erase position).2)
        coordinates =
      { coordinates with coords := eraseAll positions coordinates.coords } := by
  induction positions generalizing coordinates with
  | nil => rfl
  | cons position rest induction =>
      rw [List.foldl_cons, induction]
      rfl

theorem follow_true (target : TextureTarget) (ring : Ring) :
    target.follow true ring =
      target.eraseFor ring.id (duplicatePositions 0 none ring.vertices) := by
  simp only [follow, eraseFor, foldl_erase, eraseAll_duplicatePositions,
    Ring.removedPlaces_true]

@[simp] theorem follow_false (target : TextureTarget) (ring : Ring) :
    target.follow false ring = target := by
  simp [follow]

@[simp] theorem followAll_nil (target : TextureTarget) (optimize : Bool) :
    target.followAll optimize [] = target := rfl

@[simp] theorem followAll_cons (target : TextureTarget) (optimize : Bool) (ring : Ring)
    (rest : List Ring) :
    target.followAll optimize (ring :: rest) =
      (target.follow optimize ring).followAll optimize rest := rfl

@[simp] theorem followAll_false (target : TextureTarget) (rings : List Ring) :
    target.followAll false rings = target := by
  induction rings with
  | nil => rfl
  | cons ring rest induction => rw [followAll_cons, follow_false, induction]

/-- Following a ring changes what is found for its id, and nothing else. -/
theorem coordinatesFor?_follow (target : TextureTarget) (optimize : Bool) (ring : Ring)
    (ringId : String) :
    (target.follow optimize ring).coordinatesFor? ringId =
      (target.coordinatesFor? ringId).map fun coordinates =>
        if coordinates.targets ring.id then
          { coordinates with
            coords := outside (ring.removedPlaces optimize) coordinates.coords }
        else
          coordinates := by
  rw [coordinatesFor?, follow, List.find?_map]
  congr 2
  funext coordinates
  simp only [Function.comp]
  split <;> rfl

theorem targets_of_coordinatesFor? {target : TextureTarget} {ringId : String}
    {coordinates : TextureCoordinates}
    (found : target.coordinatesFor? ringId = some coordinates) :
    coordinates.targetRingId = ringId := by
  simpa [TextureCoordinates.targets] using List.find?_some found

theorem coordinatesFor?_follow_self (target : TextureTarget) (optimize : Bool)
    (ring : Ring) :
    (target.follow optimize ring).coordinatesFor? ring.id =
      (target.coordinatesFor? ring.id).map fun coordinates =>
        { coordinates with
          coords := outside (ring.removedPlaces optimize) coordinates.coords } := by
  rw [coordinatesFor?_follow]
  cases found : target.coordinatesFor? ring.id with
  | none => rfl
  | some coordinates =>
      have targets := targets_of_coordinatesFor? found
      simp [TextureCoordinates.targets, targets]

theorem coordinatesFor?_follow_of_ne {ring : Ring} {ringId : String}
    (different : ringId ≠ ring.id) (target : TextureTarget) (optimize : Bool) :
    (target.follow optimize ring).coordinatesFor? ringId =
      target.coordinatesFor? ringId := by
  rw [coordinatesFor?_follow]
  cases found : target.coordinatesFor? ringId with
  | none => rfl
  | some coordinates =>
      have targets := targets_of_coordinatesFor? found
      simp [TextureCoordinates.targets, targets, different]

theorem coordinatesFor?_followAll_of_not_mem {ringId : String} {rings : List Ring}
    (notMember : ringId ∉ rings.map (·.id)) (target : TextureTarget) (optimize : Bool) :
    (target.followAll optimize rings).coordinatesFor? ringId =
      target.coordinatesFor? ringId := by
  induction rings generalizing target with
  | nil => rfl
  | cons ring rest induction =>
      rw [List.map_cons, List.mem_cons, not_or] at notMember
      rw [followAll_cons, induction notMember.2,
        coordinatesFor?_follow_of_ne notMember.1]

/-- When ring ids are distinct, the coordinates of each ring lose the items at that
ring's places, whichever rings are cleaned before and after it. -/
theorem coordinatesFor?_followAll {rings : List Ring}
    (distinct : (rings.map (·.id)).Nodup) {ring : Ring} (member : ring ∈ rings)
    (target : TextureTarget) (optimize : Bool) :
    (target.followAll optimize rings).coordinatesFor? ring.id =
      (target.coordinatesFor? ring.id).map fun coordinates =>
        { coordinates with
          coords := outside (ring.removedPlaces optimize) coordinates.coords } := by
  induction rings generalizing target with
  | nil => cases member
  | cons head rest induction =>
      rw [List.map_cons, List.nodup_cons] at distinct
      rw [followAll_cons]
      rcases List.mem_cons.mp member with equal | later
      · -- No later ring has this id, so its lists are edited here and not again.
        subst equal
        rw [coordinatesFor?_followAll_of_not_mem distinct.1,
          coordinatesFor?_follow_self]
      · have different : ring.id ≠ head.id := by
          intro equal
          exact distinct.1 (equal ▸ List.mem_map_of_mem later)
        rw [induction distinct.2 later, coordinatesFor?_follow_of_ne different]

end TextureTarget

end PlanarMesh

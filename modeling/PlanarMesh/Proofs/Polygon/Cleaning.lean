import PlanarMesh.Polygon.Finish
import PlanarMesh.Proofs.Ring.Cleaning

/-! # A cleaned polygon

Cleaning the rings one after the other, each with the bindings that the ones before
it left, comes to cleaning every ring on its own and letting every binding follow
all of them.
-/

namespace PlanarMesh.Polygon

def cleaned (polygon : Polygon) (optimize : Bool) : Polygon :=
  { polygon with
    exterior := polygon.exterior.map (·.cleaned optimize)
    interior := polygon.interior.map (·.cleaned optimize)
    appearance :=
      { polygon.appearance with
        textureTargets :=
          polygon.appearance.textureTargets.map (·.followAll optimize polygon.rings) } }

def removedCount (polygon : Polygon) (optimize : Bool) : Nat :=
  (polygon.rings.flatMap fun ring => ring.removedPlaces optimize).length

def paving : TextureTarget :=
  ⟨"courtyard", ⟨0, (Texture.named "paving" "paving.png").withTheme "summer"⟩,
    [⟨"inside", "well",
        [⟨0.25, 0.25⟩, ⟨0.25, 0.75⟩, ⟨0.75, 0.75⟩, ⟨0.75, 0.25⟩, ⟨0.25, 0.25⟩]⟩,
      ⟨"outside", "outline", [⟨0, 0⟩, ⟨1, 0⟩, ⟨1, 1⟩, ⟨0, 1⟩, ⟨0, 0⟩]⟩]⟩

/-- A paved square with a square hole. Both rings close with their first vertex. -/
def courtyard : Polygon :=
  { (named "courtyard" none).bindTexture paving with
    exterior := some ⟨"outline", true,
      [⟨0, 0, 0⟩, ⟨4, 0, 0⟩, ⟨4, 4, 0⟩, ⟨0, 4, 0⟩, ⟨0, 0, 0⟩]⟩
    interior := [⟨"well", false,
      [⟨1, 1, 0⟩, ⟨1, 3, 0⟩, ⟨3, 3, 0⟩, ⟨3, 1, 0⟩, ⟨1, 1, 0⟩]⟩] }

example : courtyard.removedCount true = 2 := by decide +kernel

/-! ## Rings -/

@[simp] theorem rings_cleaned (polygon : Polygon) (optimize : Bool) :
    (polygon.cleaned optimize).rings = polygon.rings.map (·.cleaned optimize) := by
  cases equal : polygon.exterior with
  | none => simp [rings, cleaned, equal]
  | some ring => simp [rings, cleaned, equal]

@[simp] theorem cleaned_false (polygon : Polygon) : polygon.cleaned false = polygon := by
  simp [cleaned]

@[simp] theorem removedCount_false (polygon : Polygon) : polygon.removedCount false = 0 := by
  simp [removedCount]

theorem cleanRings_value (logger : Option Listener) (rings : List Ring)
    (targets : List TextureTarget) :
    (cleanRings logger rings targets).value =
      { removed := (rings.flatMap fun ring => ring.removedPlaces true).length
        rings := rings.map (·.cleaned true)
        targets := targets.map (·.followAll true rings) } := by
  induction rings generalizing targets with
  | nil => simp [cleanRings]
  | cons ring rest induction =>
      have followed : (ring.removeDuplicates targets logger).value.targets =
          targets.map (·.follow true ring) := by
        rw [Ring.removeDuplicates_value]
        simp only [TextureTarget.follow_true]
      simp only [cleanRings, Logged.value_bind, Logged.value_pure, induction,
        Ring.removeDuplicates_ring, Ring.removeDuplicates_removed, followed,
        List.map_cons, List.flatMap_cons, List.length_append, List.map_map]
      rfl

theorem withRings_map (polygon : Polygon) (change : Ring → Ring) :
    polygon.withRings (polygon.rings.map change) =
      { polygon with
        exterior := polygon.exterior.map change
        interior := polygon.interior.map change } := by
  cases equal : polygon.exterior with
  | none => simp [withRings, rings, equal]
  | some ring => simp [withRings, rings, equal]

theorem removeDuplicates_value (polygon : Polygon) (logger : Option Listener) :
    (polygon.removeDuplicates logger).value =
      (polygon.removedCount true, polygon.cleaned true) := by
  simp only [removeDuplicates, Logged.value_bind, Logged.value_pure, cleanRings_value,
    withRings_map]
  rfl

/-! ## Sizes -/

theorem totalSize_eq_length (rings : List Ring) :
    Ring.totalSize rings = (rings.flatMap (·.vertices)).length := by
  induction rings with
  | nil => rfl
  | cons ring rest induction =>
      rw [Ring.totalSize, induction, List.flatMap_cons, List.length_append]
      rfl

theorem totalSize_cleaned (rings : List Ring) (optimize : Bool) :
    Ring.totalSize (rings.map (·.cleaned optimize)) +
        (rings.flatMap fun ring => ring.removedPlaces optimize).length =
      Ring.totalSize rings := by
  induction rings with
  | nil => rfl
  | cons ring rest induction =>
      have first := ring.size_cleaned optimize
      simp only [List.map_cons, List.flatMap_cons, List.length_append, Ring.totalSize]
      omega

/-! ## Levels -/

theorem cleanRings_avoids_error (logger : Option Listener) (rings : List Ring)
    (targets : List TextureTarget) :
    (cleanRings logger rings targets).Avoids .error := by
  induction rings generalizing targets with
  | nil => exact Logged.avoids_pure _ _
  | cons ring rest induction =>
      apply Logged.Avoids.bind
      · exact ring.removeDuplicates_avoids_error targets logger
      · exact (induction _).bind (Logged.avoids_pure _ _)

end PlanarMesh.Polygon

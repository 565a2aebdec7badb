import PlanarMesh.Polygon.Render
import PlanarMesh.Proofs.Polygon.Cleaning

/-! # Texture coordinates of a polygon

The coordinates under a theme are those of its rings one after the other, fitted to
the vertices. Cleaning a polygon changes which binding is found under a theme only
by letting it follow the rings.
-/

namespace PlanarMesh

/-! ## Fitting -/

theorem length_fitted {α : Type} (items : List α) (spare : α) (count : Nat) :
    (fitted items spare count).length = count := by
  rw [fitted, List.length_append, List.length_take, List.length_replicate]
  omega

theorem fitted_of_length_eq {α : Type} {items : List α} {count : Nat}
    (equal : items.length = count) (spare : α) : fitted items spare count = items := by
  rw [fitted, ← equal, List.take_length, Nat.sub_self]
  exact List.append_nil items

section Entries

variable {α : Type} {items : List α} {count place : Nat}

theorem getElem?_fitted_of_lt (inside : place < count) (own : place < items.length)
    (spare : α) : (fitted items spare count)[place]? = items[place]? := by
  have taken : place < (items.take count).length := by
    rw [List.length_take]
    exact Nat.lt_min.mpr ⟨inside, own⟩
  rw [fitted, List.getElem?_append_left taken, List.getElem?_take_of_lt inside]

theorem getElem?_fitted_of_le (inside : place < count) (behind : items.length ≤ place)
    (spare : α) :
    (fitted items spare count)[place]? = some (items.getLast?.getD spare) := by
  have whole : items.take count = items :=
    List.take_of_length_le (Nat.le_of_lt (Nat.lt_of_le_of_lt behind inside))
  rw [fitted, whole, List.getElem?_append_right behind,
    List.getElem?_replicate_of_lt (Nat.sub_lt_sub_right behind inside)]

end Entries

/-! ## Bindings -/

def TextureTarget.coordsFor (target : TextureTarget) (ringId : String) : List TexCoord :=
  ((target.coordinatesFor? ringId).map (·.coords)).getD []

theorem TextureTarget.coordsFor_followAll {rings : List Ring}
    (distinct : (rings.map (·.id)).Nodup) {ring : Ring} (member : ring ∈ rings)
    (target : TextureTarget) (optimize : Bool) :
    (target.followAll optimize rings).coordsFor ring.id =
      outside (ring.removedPlaces optimize) (target.coordsFor ring.id) := by
  rw [coordsFor, coordsFor, coordinatesFor?_followAll distinct member]
  cases target.coordinatesFor? ring.id with
  | none => rfl
  | some coordinates => rfl

namespace Polygon

theorem value_gatherCoords (polygon : Polygon) (target : TextureTarget) :
    (polygon.gatherCoords target).value =
      polygon.rings.flatMap fun ring => target.coordsFor ring.id := by
  rw [gatherCoords, Logged.value_bind, Logged.value_mapM, Logged.value_pure,
    List.flatMap_def]
  congr 2
  funext ring
  rw [TextureTarget.coordsFor]
  cases target.coordinatesFor? ring.id with
  | none => rfl
  | some coordinates => rfl

theorem value_texCoords {polygon : Polygon} {theme : String} {front : Bool}
    {target : TextureTarget}
    (bound : polygon.appearance.textureTarget? theme front = some target) :
    (polygon.texCoords theme front).value =
      fitted (polygon.rings.flatMap fun ring => target.coordsFor ring.id)
        TexCoord.origin polygon.vertices.length := by
  rw [texCoords, bound]
  dsimp only
  split
  · simp only [Logged.value_bind, Logged.value_pure, value_gatherCoords]
  · simp only [Logged.value_bind, Logged.value_pure, value_gatherCoords]

theorem textureTarget?_cleaned (polygon : Polygon) (optimize : Bool) (theme : String)
    (front : Bool) :
    (polygon.cleaned optimize).appearance.textureTarget? theme front =
      (polygon.appearance.textureTarget? theme front).map
        (·.followAll optimize polygon.rings) := by
  simp only [AppearanceTarget.textureTarget?, cleaned]
  cases polygon.appearance.textureIndex.find? theme front with
  | none => rfl
  | some position => exact List.getElem?_map

end Polygon

end PlanarMesh

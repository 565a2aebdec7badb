import PlanarMesh.Proofs.Polygon.Coordinates
import PlanarMesh.Proofs.Polygon.Outcome

/-! # Texture coordinates stay with their vertices

The vertices of a finished polygon and its coordinates under a theme come about on
different ways: the ones are moved out of the rings, the others are looked up by ring
id and put together when they are asked for. They meet ring by ring, since both have
lost the items at the same places of the ring.
-/

namespace PlanarMesh

/-! ## Two buffers over the same rings -/

section Buffers

variable {rings : List Ring} {vertices : Ring → List Point3}
  {coords : Ring → List TexCoord}

theorem length_flatMap_of_aligned
    (aligned : ∀ ring ∈ rings, (vertices ring).length = (coords ring).length) :
    (rings.flatMap vertices).length = (rings.flatMap coords).length := by
  rw [List.length_flatMap, List.length_flatMap, List.map_congr_left aligned]

theorem zip_flatMap_of_aligned
    (aligned : ∀ ring ∈ rings, (vertices ring).length = (coords ring).length) :
    (rings.flatMap vertices).zip (rings.flatMap coords) =
      rings.flatMap fun ring => (vertices ring).zip (coords ring) := by
  induction rings with
  | nil => rfl
  | cons ring rest induction =>
      have first := aligned ring List.mem_cons_self
      have others := fun other member => aligned other (List.mem_cons_of_mem ring member)
      rw [List.flatMap_cons, List.flatMap_cons, List.flatMap_cons, List.zip_append first,
        induction others]

end Buffers

/-- A binding has one coordinate for each vertex of each ring. -/
def TextureTarget.Fits (target : TextureTarget) (rings : List Ring) : Prop :=
  ∀ ring ∈ rings, ∃ coordinates, target.coordinatesFor? ring.id = some coordinates ∧
    coordinates.size = ring.size

theorem TextureTarget.Fits.length_coordsFor {target : TextureTarget} {rings : List Ring}
    (fits : target.Fits rings) {ring : Ring} (member : ring ∈ rings) :
    ring.vertices.length = (target.coordsFor ring.id).length := by
  rcases fits ring member with ⟨coordinates, found, size⟩
  rw [coordsFor, found]
  exact size.symm

namespace Polygon

/-! ## The coordinates of a finished polygon -/

/-- The coordinates of all rings, each without those of the vertices taken out. -/
def gatheredCoords (polygon : Polygon) (target : TextureTarget) (optimize : Bool) :
    List TexCoord :=
  polygon.rings.flatMap fun ring =>
    outside (ring.removedPlaces optimize) (target.coordsFor ring.id)

theorem value_texCoords_sealed {polygon : Polygon}
    (distinct : (polygon.rings.map (·.id)).Nodup) {theme : String} {front : Bool}
    {target : TextureTarget}
    (bound : polygon.appearance.textureTarget? theme front = some target)
    (optimize : Bool) (surface : Surface) :
    (((polygon.cleaned optimize).sealed surface).texCoords theme front).value =
      fitted (polygon.gatheredCoords target optimize) TexCoord.origin
        surface.vertices.length := by
  have followed : ((polygon.cleaned optimize).sealed surface).appearance.textureTarget?
      theme front = some (target.followAll optimize polygon.rings) := by
    rw [appearance_sealed, textureTarget?_cleaned, bound]
    rfl
  rw [value_texCoords followed, rings_sealed, rings_cleaned, List.flatMap_map,
    List.flatMap_map, vertices_sealed, gatheredCoords]
  congr 1
  apply List.flatMap_congr
  intro ring member
  change (target.followAll optimize polygon.rings).coordsFor (ring.cleaned optimize).id = _
  rw [Ring.cleaned_id]
  exact TextureTarget.coordsFor_followAll distinct member target optimize

/-- Every vertex of a finished polygon has the coordinate that it had in its ring, and
no coordinate is added or left over. -/
theorem texCoords_finish {polygon : Polygon} (isOpen : polygon.isFinished = false)
    (distinct : (polygon.rings.map (·.id)).Nodup) {theme : String} {front : Bool}
    {target : TextureTarget}
    (bound : polygon.appearance.textureTarget? theme front = some target)
    (fits : target.Fits polygon.rings) (options : BuildOptions)
    (tessellator : EarClipTessellator) (logger : Option Listener)
    (succeeded :
      (polygon.finish options tessellator logger).value.outcome.isOk = true) :
    let finished := (polygon.finish options tessellator logger).value.polygon
    let coords := (finished.texCoords theme front).value
    coords.length = finished.vertices.length ∧
      finished.vertices.zip coords =
        (polygon.rings.flatMap fun ring =>
          outside (ring.removedPlaces options.optimize)
            (ring.vertices.zip (target.coordsFor ring.id))) ∧
      ∀ ring ∈ polygon.rings,
        outside (ring.removedPlaces options.optimize) ring.vertices =
          (ring.cleaned options.optimize).vertices := by
  have survivors := fun ring : Ring => (ring.cleaned_vertices options.optimize).symm
  have aligned : ∀ ring ∈ polygon.rings,
      (ring.cleaned options.optimize).vertices.length =
        (outside (ring.removedPlaces options.optimize)
          (target.coordsFor ring.id)).length := by
    intro ring member
    rw [← survivors]
    exact length_outsideFrom _ 0 _ _ (fits.length_coordsFor member)
  have lengths : (polygon.gatheredCoords target options.optimize).length =
      (polygon.gathered options.optimize).length :=
    (length_flatMap_of_aligned aligned).symm
  rcases polygon_of_isOk isOpen options tessellator logger succeeded with
    ⟨indices, statistics, equal⟩
  rw [equal]
  dsimp only
  rw [value_texCoords_sealed distinct bound, vertices_sealed, fitted_of_length_eq lengths]
  refine ⟨lengths, ?_, fun ring _ => survivors ring⟩
  rw [gathered, gatheredCoords, zip_flatMap_of_aligned aligned]
  apply List.flatMap_congr
  intro ring member
  rw [← survivors, outside, outside, outside, outsideFrom_zip]

theorem texCoords_finish_courtyard :
    let finished := (courtyard.finish ⟨true, true⟩ worn none).value.polygon
    let coords := (finished.texCoords "summer" true).value
    coords.length = finished.vertices.length ∧
      finished.vertices.zip coords =
        (courtyard.rings.flatMap fun ring =>
          outside (ring.removedPlaces true)
            (ring.vertices.zip (paving.coordsFor ring.id))) ∧
      ∀ ring ∈ courtyard.rings,
        outside (ring.removedPlaces true) ring.vertices = (ring.cleaned true).vertices := by
  have distinct : (courtyard.rings.map (·.id)).Nodup := by decide
  have fits : paving.Fits courtyard.rings := by
    intro ring member
    rcases List.mem_cons.mp member with rfl | later
    · exact ⟨_, rfl, rfl⟩
    · rcases List.mem_singleton.mp later with rfl
      exact ⟨_, rfl, rfl⟩
  exact texCoords_finish rfl distinct rfl fits ⟨true, true⟩ worn none courtyard_isOk

end Polygon

end PlanarMesh

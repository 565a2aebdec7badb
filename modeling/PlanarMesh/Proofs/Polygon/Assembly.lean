import PlanarMesh.Proofs.Log.Delivery
import PlanarMesh.Proofs.Polygon.Meshes

/-! # Texture coordinates put together

A binding lists coordinates by ring ids, and nothing makes these lists fit the rings: some
may be missing, repeated, too short, too long or for no ring of the polygon. Whatever the
mix, every vertex gets a coordinate, and the listener of the polygon learns of the lists
that are missing.
-/

namespace PlanarMesh

/-! ## Telling warnings -/

def toldWarnings (logger : Option Listener) (texts : List String) : List Emission :=
  (texts.forM fun text => Logged.tell logger .warning (.formatted fun _ => text)).emissions

theorem toldWarnings_eq_flatMap (logger : Option Listener) (texts : List String) :
    toldWarnings logger texts =
      texts.flatMap fun text =>
        (Logged.tell logger .warning (.formatted fun _ => text)).emissions :=
  Logged.emissions_forM _ _

theorem toldWarnings_cons (logger : Option Listener) (text : String) (rest : List String) :
    toldWarnings logger (text :: rest) =
      (Logged.tell logger .warning (.formatted fun _ => text)).emissions ++
        toldWarnings logger rest := rfl

theorem toldWarnings_append (logger : Option Listener) (texts others : List String) :
    toldWarnings logger (texts ++ others) =
      toldWarnings logger texts ++ toldWarnings logger others := by
  rw [toldWarnings_eq_flatMap, List.flatMap_append, ← toldWarnings_eq_flatMap,
    ← toldWarnings_eq_flatMap]

theorem toldWarnings_none (texts : List String) : toldWarnings none texts = [] := by
  rw [toldWarnings_eq_flatMap, List.flatMap_eq_nil_iff]
  intro text member
  rfl

theorem toldWarnings_some (listener : Listener) (texts : List String) :
    toldWarnings (some listener) texts =
      texts.map fun text => ⟨listener, .warning, .formatted fun _ => text⟩ := by
  rw [toldWarnings_eq_flatMap, List.map_eq_flatMap]
  rfl

theorem getElem?_recorders_toldWarnings {book : LogBook} {place : Nat} {recorder : Recorder}
    (found : book.recorders[place]? = some recorder)
    (accepts : recorder.minimum ≤ .warning) (texts : List String) :
    (book.deliver (toldWarnings (some (.recorder place)) texts)).recorders[place]? =
      some
        { recorder with
          records := recorder.records ++ texts.map fun text => ⟨.warning, text⟩ } := by
  have addressed : recordsFor (.recorder place) (toldWarnings (some (.recorder place)) texts) =
      texts.map fun text => ⟨.warning, text⟩ := by
    rw [toldWarnings_some, recordsFor, List.filter_eq_self.mpr, List.map_map]
    · rfl
    · intro emission member
      rcases List.mem_map.mp member with ⟨text, _, rfl⟩
      exact beq_self_eq_true _
  have severe : (texts.map fun text => (⟨.warning, text⟩ : Record)).filter
      (fun record => recorder.minimum ≤ record.level) =
        texts.map fun text => ⟨.warning, text⟩ := by
    rw [List.filter_eq_self]
    intro record member
    rcases List.mem_map.mp member with ⟨text, _, rfl⟩
    exact decide_eq_true accepts
  rw [LogBook.getElem?_recorders_deliver, found, Option.map_some, Recorder.sendAll_eq,
    addressed, severe]

/-! ## Coordinates of all rings -/

/-- The first list for each ring, one ring behind the other. A ring that has no list
contributes nothing. -/
def TextureTarget.concatenated (target : TextureTarget) (rings : List Ring) :
    List TexCoord :=
  rings.flatMap fun ring => target.coordsFor ring.id

namespace Polygon

def missingTexts (polygon : Polygon) (target : TextureTarget) : List String :=
  (polygon.rings.filter fun ring => (target.coordinatesFor? ring.id).isNone).map fun ring =>
    missingListText target.texture.value.info.id polygon.id ring.id

/-- Before that it is reported if there are not as many lists as rings. -/
def misfitTexts (polygon : Polygon) (target : TextureTarget) : List String :=
  (if target.coordinates.length ≠ polygon.rings.length then
    [countMismatchText target.texture.value.info.id polygon.id polygon.rings.length
      target.coordinates.length]
  else
    []) ++ polygon.missingTexts target

theorem emissions_gatherCoords (polygon : Polygon) (target : TextureTarget) :
    (polygon.gatherCoords target).emissions =
      toldWarnings polygon.logger (polygon.missingTexts target) := by
  rw [gatherCoords, Logged.emissions_bind, Logged.emissions_mapM, Logged.emissions_pure,
    List.append_nil, missingTexts]
  induction polygon.rings with
  | nil => rfl
  | cons ring rest induction =>
      rw [List.flatMap_cons, induction, List.filter_cons]
      cases target.coordinatesFor? ring.id with
      | some coordinates => rfl
      | none => exact congrArg (· ++ _) (List.append_nil _)

theorem emissions_texCoords {polygon : Polygon} {theme : String} {front : Bool}
    {target : TextureTarget}
    (bound : polygon.appearance.textureTarget? theme front = some target) :
    (polygon.texCoords theme front).emissions =
      toldWarnings polygon.logger (polygon.misfitTexts target) := by
  rw [texCoords, bound, misfitTexts, toldWarnings_append, ← emissions_gatherCoords]
  dsimp only
  split
  · simp only [Logged.emissions_bind, Logged.emissions_pure, List.append_nil]
    rw [toldWarnings_cons]
    exact congrArg (· ++ _) (List.append_nil _).symm
  · simp only [Logged.emissions_bind, Logged.emissions_pure, List.append_nil]
    rfl

theorem texCoords_of_unbound {polygon : Polygon} {theme : String} {front : Bool}
    (unbound : polygon.appearance.textureTarget? theme front = none) :
    polygon.texCoords theme front = pure [] := by
  rw [texCoords, unbound]

theorem emissions_toMesh (polygon : Polygon) (theme : String) (front : Bool) :
    (polygon.toMesh (some theme) front).emissions =
      (polygon.texCoords theme front).emissions := by
  rw [toMesh, Logged.emissions_bind, Logged.emissions_pure, List.append_nil,
    Option.filter_some]
  cases bound : polygon.appearance.textureTarget? theme front with
  | none =>
      rw [texCoords_of_unbound bound]
      rfl
  | some target => exact Logged.emissions_map _ _

/-! ## Any mix of lists -/

/-- The coordinates under a binding, and what is told about them. -/
structure Assembled (polygon : Polygon) (target : TextureTarget)
    (coords : Logged (List TexCoord)) : Prop where
  length : coords.value.length = polygon.vertices.length
  own : ∀ place < polygon.vertices.length,
    place < (target.concatenated polygon.rings).length →
      coords.value[place]? = (target.concatenated polygon.rings)[place]?
  padding : ∀ place < polygon.vertices.length,
    (target.concatenated polygon.rings).length ≤ place →
      coords.value[place]? =
        some ((target.concatenated polygon.rings).getLast?.getD TexCoord.origin)
  told : ∀ listener, polygon.logger = some listener →
    coords.emissions =
      (polygon.misfitTexts target).map fun text =>
        ⟨listener, .warning, .formatted fun _ => text⟩
  silent : polygon.logger = none → coords.emissions = []
  kept : ∀ (place : Nat) (book : LogBook) (recorder : Recorder),
    polygon.logger = some (.recorder place) → book.recorders[place]? = some recorder →
      recorder.minimum ≤ .warning →
        (book.deliver coords.emissions).recorders[place]? =
          some
            { recorder with
              records := recorder.records ++
                (polygon.misfitTexts target).map fun text => ⟨.warning, text⟩ }

theorem assembled_texCoords {polygon : Polygon} {theme : String} {front : Bool}
    {target : TextureTarget}
    (bound : polygon.appearance.textureTarget? theme front = some target) :
    Assembled polygon target (polygon.texCoords theme front) := by
  have value : (polygon.texCoords theme front).value =
      fitted (target.concatenated polygon.rings) TexCoord.origin polygon.vertices.length :=
    value_texCoords bound
  have emissions := emissions_texCoords bound
  exact
    { length := by rw [value, length_fitted]
      own := by
        intro place inside own
        rw [value, getElem?_fitted_of_lt inside own]
      padding := by
        intro place inside behind
        rw [value, getElem?_fitted_of_le inside behind]
      told := by
        intro listener logger
        rw [emissions, logger, toldWarnings_some]
      silent := by
        intro logger
        rw [emissions, logger, toldWarnings_none]
      kept := by
        intro place book recorder logger found accepts
        rw [emissions, logger]
        exact getElem?_recorders_toldWarnings found accepts _ }

/-- Under a theme on a side there are no coordinates and no warnings if no texture is
bound there. Otherwise there is one for each vertex, and what does not fit is told. Asking
leaves the polygon as it is, and a mesh has the same coordinates if there is a texture. -/
theorem texCoords_assembly (polygon : Polygon) (theme : String) (front : Bool) :
    let bound := polygon.appearance.textureTarget? theme front
    let coords := polygon.texCoords theme front
    (bound = none → coords.value = [] ∧ coords.emissions = []) ∧
    (∀ target, bound = some target → Assembled polygon target coords) ∧
    (polygon.perform (.texCoords theme front)).value = polygon ∧
    (polygon.toMesh (some theme) front).value.uvs = bound.map (fun _ => coords.value) ∧
    (polygon.toMesh (some theme) front).emissions = coords.emissions ∧
    (polygon.toMesh none front).value.uvs = none := by
  refine ⟨?_, fun target bound => assembled_texCoords bound, rfl, ?_,
    polygon.emissions_toMesh theme front, polygon.uvs_toMesh none front⟩
  · intro unbound
    rw [texCoords_of_unbound unbound]
    exact ⟨rfl, rfl⟩
  · rw [uvs_toMesh, Option.filter_some]
    cases polygon.appearance.textureTarget? theme front with
    | none => rfl
    | some target => rfl

/-- Coordinates with two lists for one ring, the second of which is never read, none for
the other ring, and one for a ring that does not exist. -/
def patchwork : TextureTarget :=
  ⟨"courtyard", ⟨1, (Texture.named "patchwork" "patchwork.png").withTheme "autumn"⟩,
    [⟨"gate", "gate", [⟨0.5, 0.5⟩]⟩,
      ⟨"outside", "outline", [⟨0, 0⟩, ⟨1, 0⟩, ⟨0.25, 0.75⟩]⟩,
      ⟨"again", "outline", [⟨0, 0⟩, ⟨1, 0⟩, ⟨1, 1⟩, ⟨0, 1⟩, ⟨0, 0⟩]⟩]⟩

def patchedCourtyard : Polygon :=
  ({ courtyard with logger := some (.recorder 0) }.bindTexture patchwork |>.finish
    ⟨false, false⟩ worn none).value.polygon

theorem texCoords_assembly_patchedCourtyard :
    let coords := patchedCourtyard.texCoords "autumn" true
    coords.value.length = 10 ∧
      coords.value[2]? = some ⟨0.25, 0.75⟩ ∧ coords.value[9]? = some ⟨0.25, 0.75⟩ ∧
      coords.emissions.map (·.text) =
        [countMismatchText "patchwork" "courtyard" 2 3,
          missingListText "patchwork" "courtyard" "well"] ∧
      (patchedCourtyard.toMesh (some "autumn") true).value.uvs = some coords.value ∧
      (patchedCourtyard.texCoords "winter" true).value = [] := by
  have bound : patchedCourtyard.appearance.textureTarget? "autumn" true = some patchwork := rfl
  rcases texCoords_assembly patchedCourtyard "autumn" true with ⟨_, binds, _, uvs, _⟩
  rcases texCoords_assembly patchedCourtyard "winter" true with ⟨unbound, _⟩
  have assembled := binds patchwork bound
  have vertexCount : patchedCourtyard.vertices.length = 10 := rfl
  refine ⟨assembled.length.trans vertexCount, ?_, ?_, ?_, ?_, (unbound rfl).1⟩
  · rw [assembled.own 2 (by decide) (by decide)]
    rfl
  · rw [assembled.padding 9 (by decide) (by decide)]
    rfl
  · rw [assembled.told (.recorder 0) rfl]
    rfl
  · rw [uvs, bound]
    rfl

end Polygon

end PlanarMesh

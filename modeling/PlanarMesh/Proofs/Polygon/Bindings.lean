import PlanarMesh.Proofs.Appearance.Lookup
import PlanarMesh.Proofs.Polygon.LifeCycle

/-! # Bindings over a life

A polygon lists its bindings in the order in which they were made, those that have been
replaced included. Finishing it in between takes coordinates out of them and changes
nothing else. So what is found under a theme on a side is the binding made last, among
those whose appearance is for that side and has that theme.
-/

namespace PlanarMesh

namespace Operation

/-- Whether the appearance is edited in another way than by a binding. -/
def editsAppearance : Operation → Bool
  | .act (.editAppearance _) => true
  | _ => false

def boundTexture? : Operation → Option TextureTarget
  | .act (.bindTexture target) => some target
  | _ => none

def boundMaterial? : Operation → Option MaterialTarget
  | .act (.bindMaterial target) => some target
  | _ => none

end Operation

/-! ## Listed bindings -/

namespace TextureTarget

def withoutCoords (target : TextureTarget) : TextureTarget :=
  { target with
    coordinates := target.coordinates.map fun coordinates =>
      { coordinates with coords := [] } }

theorem withoutCoords_follow (target : TextureTarget) (optimize : Bool) (ring : Ring) :
    (target.follow optimize ring).withoutCoords = target.withoutCoords := by
  simp only [withoutCoords, follow, List.map_map]
  congr 1
  apply List.map_congr_left
  intro coordinates _
  dsimp only [Function.comp]
  split
  · rfl
  · rfl

theorem withoutCoords_followAll (target : TextureTarget) (optimize : Bool)
    (rings : List Ring) :
    (target.followAll optimize rings).withoutCoords = target.withoutCoords := by
  induction rings generalizing target with
  | nil => rfl
  | cons ring rest induction => rw [followAll_cons, induction, withoutCoords_follow]

theorem info_followAll (target : TextureTarget) (optimize : Bool) (rings : List Ring) :
    (target.followAll optimize rings).info = target.info := by
  have same := congrArg info (withoutCoords_followAll target optimize rings)
  exact same

theorem texture_of_latest? {listed made : List TextureTarget}
    (same : listed.map withoutCoords = made.map withoutCoords) (theme : String)
    (front : Bool) :
    (latest? info theme front listed).map (·.texture) =
      (latest? info theme front made).map (·.texture) := by
  have found (items : List TextureTarget) :
      (latest? info theme front (items.map withoutCoords)).map (·.texture) =
        (latest? info theme front items).map (·.texture) := by
    rw [latest?_map, Option.map_map]
    rfl
  rw [← found listed, same, found]

end TextureTarget

namespace Polygon

/-- The polygon has the bindings that were made, in order, and finds them. -/
structure Bound (polygon : Polygon) (textures : List TextureTarget)
    (materials : List MaterialTarget) : Prop where
  indexed : polygon.appearance.Indexed
  textures :
    polygon.appearance.textureTargets.map TextureTarget.withoutCoords =
      textures.map TextureTarget.withoutCoords
  materials : polygon.appearance.materialTargets = materials

theorem bound_named (id : String) (logger : Option Listener) :
    (named id logger).Bound [] [] := ⟨AppearanceTarget.indexed_empty, rfl, rfl⟩

theorem appearance_addRing (polygon : Polygon) (ring : Ring) :
    (polygon.addRing ring).value.2.appearance = polygon.appearance := by
  rw [addRing]
  split
  · rfl
  · split
    · split
      · rfl
      · rfl
    · rfl

theorem appearance_setNegNormal (polygon : Polygon) (negNormal : Bool) :
    (polygon.setNegNormal negNormal).2.appearance = polygon.appearance := by
  rw [setNegNormal]
  split
  · rfl
  · rfl

namespace Bound

variable {polygon : Polygon} {textures : List TextureTarget}
  {materials : List MaterialTarget}

theorem of_appearance {other : Polygon} (bound : polygon.Bound textures materials)
    (same : other.appearance = polygon.appearance) : other.Bound textures materials := by
  refine ⟨?_, ?_, ?_⟩
  · rw [same]
    exact bound.indexed
  · rw [same]
    exact bound.textures
  · rw [same]
    exact bound.materials

theorem bindTexture (bound : polygon.Bound textures materials) (target : TextureTarget) :
    (polygon.bindTexture target).Bound (textures ++ [target]) materials := by
  refine ⟨bound.indexed.addTexture target, ?_, bound.materials⟩
  rw [List.map_append, ← bound.textures]
  exact List.map_append

theorem bindMaterial (bound : polygon.Bound textures materials)
    (target : MaterialTarget) :
    (polygon.bindMaterial target).Bound textures (materials ++ [target]) := by
  refine ⟨bound.indexed.addMaterial target, bound.textures, ?_⟩
  rw [← bound.materials]
  rfl

theorem finish {τ : Type} [Tessellator τ] (bound : polygon.Bound textures materials)
    (options : BuildOptions) (tessellator : τ) (logger : Option Listener) :
    (polygon.finish options tessellator logger).value.polygon.Bound textures
      materials := by
  cases state : polygon.isFinished with
  | true =>
      rw [finish_of_finished state]
      exact bound
  | false =>
      rcases exists_sealed_of_finish state options tessellator logger with ⟨_, equal⟩
      rw [equal]
      have kept := fun target : TextureTarget =>
        target.info_followAll options.optimize polygon.rings
      have same : (polygon.appearance.textureTargets.map
            (·.followAll options.optimize polygon.rings)).map TextureTarget.withoutCoords =
          polygon.appearance.textureTargets.map TextureTarget.withoutCoords := by
        rw [List.map_map]
        exact List.map_congr_left fun target _ =>
          target.withoutCoords_followAll options.optimize polygon.rings
      exact ⟨bound.indexed.editTextures _ kept, same.trans bound.textures,
        bound.materials⟩

theorem carryOut (bound : polygon.Bound textures materials) {operation : Operation}
    (noEdit : operation.editsAppearance = false) :
    (polygon.carryOut operation).value.Bound
      (textures ++ operation.boundTexture?.toList)
      (materials ++ operation.boundMaterial?.toList) := by
  have unchanged : ∀ {other : Polygon}, other.Bound textures materials →
      other.Bound (textures ++ []) (materials ++ []) := by
    intro other still
    rwa [List.append_nil, List.append_nil]
  cases operation with
  | finishWith options tessellator logger =>
      exact unchanged (bound.finish options tessellator logger)
  | act action =>
      cases action with
      | addRing ring =>
          exact unchanged (bound.of_appearance (polygon.appearance_addRing ring))
      | setNegNormal negNormal =>
          exact unchanged
            (bound.of_appearance (polygon.appearance_setNegNormal negNormal))
      | bindTexture target =>
          exact (List.append_nil materials).symm ▸ bound.bindTexture target
      | bindMaterial target =>
          exact (List.append_nil textures).symm ▸ bound.bindMaterial target
      | editAppearance appearance => cases noEdit
      | texCoords theme front => exact unchanged bound
      | toMesh theme front => exact unchanged bound
      | finish options tessellator logger =>
          exact unchanged (bound.finish options tessellator logger)

theorem carryOutAll (bound : polygon.Bound textures materials)
    {operations : List Operation}
    (noEdits : ∀ operation ∈ operations, operation.editsAppearance = false) :
    (polygon.carryOutAll operations).value.Bound
      (textures ++ operations.filterMap Operation.boundTexture?)
      (materials ++ operations.filterMap Operation.boundMaterial?) := by
  rw [List.filterMap_eq_flatMap_toList, List.filterMap_eq_flatMap_toList]
  induction operations generalizing polygon textures materials with
  | nil =>
      rw [List.flatMap_nil, List.flatMap_nil, List.append_nil, List.append_nil]
      exact bound
  | cons operation rest induction =>
      have first := bound.carryOut (noEdits operation List.mem_cons_self)
      have whole := induction first fun later member =>
        noEdits later (List.mem_cons_of_mem operation member)
      rw [List.append_assoc, List.append_assoc] at whole
      rw [value_carryOutAll_cons, List.flatMap_cons, List.flatMap_cons]
      exact whole

end Bound

/-! ## What is found -/

/-- What an appearance answers after the given bindings were made. -/
structure Resolves (appearance : AppearanceTarget) (textures : List TextureTarget)
    (materials : List MaterialTarget) : Prop where
  listedTextures :
    appearance.textureTargets.map TextureTarget.withoutCoords =
      textures.map TextureTarget.withoutCoords
  listedMaterials : appearance.materialTargets = materials
  textureTarget? : ∀ theme front,
    appearance.textureTarget? theme front =
      latest? TextureTarget.info theme front appearance.textureTargets
  materialTarget? : ∀ theme front,
    appearance.materialTarget? theme front =
      latest? MaterialTarget.info theme front materials
  texture? : ∀ theme front,
    appearance.texture? theme front =
      (latest? TextureTarget.info theme front textures).map (·.texture)
  material? : ∀ theme front,
    appearance.material? theme front =
      (latest? MaterialTarget.info theme front materials).map (·.material)
  anyTexture? : ∀ theme,
    appearance.anyTexture? theme =
      if (appearance.texture? theme true).isSome then
        appearance.texture? theme true
      else
        appearance.texture? theme false
  anyMaterial? : ∀ theme,
    appearance.anyMaterial? theme =
      if (appearance.material? theme true).isSome then
        appearance.material? theme true
      else
        appearance.material? theme false
  textureThemes : ∀ front,
    (appearance.textureThemes front).Pairwise (fun earlier later => earlier < later) ∧
      ∀ theme, theme ∈ appearance.textureThemes front ↔
        (appearance.textureTarget? theme front).isSome = true
  materialThemes : ∀ front,
    (appearance.materialThemes front).Pairwise (fun earlier later => earlier < later) ∧
      ∀ theme, theme ∈ appearance.materialThemes front ↔
        (appearance.materialTarget? theme front).isSome = true

theorem or_eq_ite {α : Type} (first second : Option α) :
    first.or second = if first.isSome then first else second := by
  cases first with
  | none => rfl
  | some value => rfl

theorem Bound.resolves {polygon : Polygon} {textures : List TextureTarget}
    {materials : List MaterialTarget} (bound : polygon.Bound textures materials) :
    Resolves polygon.appearance textures materials where
  listedTextures := bound.textures
  listedMaterials := bound.materials
  textureTarget? := bound.indexed.textureTarget?_eq
  materialTarget? theme front := by
    rw [← bound.materials]
    exact bound.indexed.materialTarget?_eq theme front
  texture? theme front := by
    rw [AppearanceTarget.texture?, bound.indexed.textureTarget?_eq]
    exact TextureTarget.texture_of_latest? bound.textures theme front
  material? theme front := by
    rw [AppearanceTarget.material?, bound.indexed.materialTarget?_eq, bound.materials]
  anyTexture? theme := or_eq_ite _ _
  anyMaterial? theme := or_eq_ite _ _
  textureThemes front :=
    ⟨ThemeIndex.themes_pairwise _ front,
      fun theme => bound.indexed.mem_textureThemes theme front⟩
  materialThemes front :=
    ⟨ThemeIndex.themes_pairwise _ front,
      fun theme => bound.indexed.mem_materialThemes theme front⟩

/-- Whatever is done with a new polygon short of editing its bindings by hand, it
answers by the bindings made last, and lists all of them. -/
theorem carryOutAll_resolves (id : String) (logger : Option Listener)
    (operations : List Operation)
    (noEdits : ∀ operation ∈ operations, operation.editsAppearance = false) :
    Resolves ((named id logger).carryOutAll operations).value.appearance
      (operations.filterMap Operation.boundTexture?)
      (operations.filterMap Operation.boundMaterial?) :=
  ((bound_named id logger).carryOutAll noEdits).resolves

/-- A tile that is painted for two themes, finished, and then painted anew for one of
them. The same coat is named twice for summer. -/
def repainting : List Operation :=
  [.act (.addRing ⟨"edge", true, [⟨0, 0, 0⟩, ⟨4, 0, 0⟩, ⟨4, 0, 0⟩, ⟨4, 4, 0⟩]⟩),
    .act (.bindTexture
      ⟨"tile", ⟨0, ⟨⟨"old", ["summer", "winter", "summer"], true⟩, "old.png", false, .none,
        none⟩⟩, [⟨"list", "edge", [⟨0, 0⟩, ⟨1, 0⟩, ⟨1, 0⟩, ⟨1, 1⟩]⟩]⟩),
    .finishWith .standard worn none,
    .act (.bindTexture
      ⟨"tile", ⟨1, (Texture.named "new" "new.png").withTheme "summer"⟩, []⟩),
    .act (.bindTexture
      ⟨"tile", ⟨2, ((Texture.named "back" "back.png").withTheme "autumn").withFront false⟩,
        []⟩)]

theorem carryOutAll_resolves_repainting :
    let appearance :=
      ((named "tile" none).carryOutAll repainting).value.appearance
    (appearance.texture? "summer" true).map (·.identity) = some 1 ∧
      (appearance.texture? "winter" true).map (·.identity) = some 0 ∧
      (appearance.anyTexture? "autumn").map (·.identity) = some 2 ∧
      appearance.textureTargets.map (·.texture.identity) = [0, 1, 2] ∧
      "autumn" ∉ appearance.textureThemes true := by
  have resolves := carryOutAll_resolves "tile" none repainting (by decide)
  refine ⟨?_, ?_, ?_, ?_, ?_⟩
  · rw [resolves.texture?]
    rfl
  · rw [resolves.texture?]
    rfl
  · rw [resolves.anyTexture?, resolves.texture?, resolves.texture?]
    rfl
  · have listed := congrArg (List.map (·.texture.identity)) resolves.listedTextures
    rw [List.map_map, List.map_map] at listed
    exact listed
  · have nothing := resolves.texture? "autumn" true
    rw [AppearanceTarget.texture?] at nothing
    rw [(resolves.textureThemes true).2, ← Option.isSome_map, nothing]
    decide

end Polygon

end PlanarMesh

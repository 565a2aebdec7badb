import PlanarMesh.Appearance.Target

/-! # The binding that applies

Under a theme on a side, the binding that was added last is found, among those whose
appearance is for that side and has that theme. The index holds positions in the list of
bindings. It is in step with the list when each position it gives is that of the last
binding that applies; adding a binding and registering it keeps them in step.
-/

namespace PlanarMesh

/-! ## The last one that applies -/

def AppearanceInfo.appliesTo (info : AppearanceInfo) (theme : String) (front : Bool) :
    Bool :=
  info.isFront == front && info.themes.contains theme

section Latest

variable {α β : Type} (info : α → AppearanceInfo) (theme : String) (front : Bool)

def latest? (items : List α) : Option α :=
  items.reverse.find? fun item => (info item).appliesTo theme front

theorem latest?_append_singleton (items : List α) (last : α) :
    latest? info theme front (items ++ [last]) =
      if (info last).appliesTo theme front then
        some last
      else
        latest? info theme front items := by
  rw [latest?, List.reverse_append, List.reverse_singleton, List.singleton_append,
    List.find?_cons]
  cases (info last).appliesTo theme front with
  | false => rfl
  | true => rfl

theorem latest?_map (change : β → α) (items : List β) :
    latest? info theme front (items.map change) =
      (latest? (fun item => info (change item)) theme front items).map change := by
  rw [latest?, ← List.map_reverse, List.find?_map]
  rfl

theorem mem_of_latest? {items : List α} {item : α}
    (found : latest? info theme front items = some item) : item ∈ items :=
  List.mem_reverse.mp (List.mem_of_find?_eq_some found)

def latestPlaced? (items : List α) : Option (α × Nat) :=
  latest? (fun entry => info entry.1) theme front items.zipIdx

theorem latestPlaced?_append_singleton (items : List α) (last : α) :
    latestPlaced? info theme front (items ++ [last]) =
      if (info last).appliesTo theme front then
        some (last, items.length)
      else
        latestPlaced? info theme front items := by
  rw [latestPlaced?, List.zipIdx_append, List.zipIdx_singleton, Nat.zero_add]
  exact latest?_append_singleton _ theme front items.zipIdx (last, items.length)

theorem latest?_eq_latestPlaced? (items : List α) :
    latest? info theme front items =
      (latestPlaced? info theme front items).map (·.1) := by
  have paired := latest?_map info theme front Prod.fst items.zipIdx
  rw [List.zipIdx_map_fst] at paired
  exact paired

theorem latestPlaced?_map (change : β → α) (items : List β) :
    latestPlaced? info theme front (items.map change) =
      (latestPlaced? (fun item => info (change item)) theme front items).map
        (Prod.map change id) := by
  rw [latestPlaced?, ← List.map_zipIdx]
  exact latest?_map _ theme front (Prod.map change id) items.zipIdx

theorem getElem?_of_latestPlaced? {items : List α} {item : α} {position : Nat}
    (found : latestPlaced? info theme front items = some (item, position)) :
    items[position]? = some item :=
  List.mk_mem_zipIdx_iff_getElem?.mp (mem_of_latest? _ theme front found)

end Latest

/-! ## The index -/

namespace ThemeIndex

theorem find?_insert (index : ThemeIndex) (theme sought : String)
    (side front : Bool) (position : Nat) :
    (index.insert theme side position).find? sought front =
      if side = front ∧ theme = sought then
        some position
      else
        index.find? sought front := by
  have here (map : Std.TreeMap String Nat) : (map.insert theme position)[sought]? =
      if theme = sought then some position else map[sought]? := by
    rw [Std.TreeMap.getElem?_insert]
    simp only [Std.LawfulEqCmp.compare_eq_iff_eq]
  cases side
  all_goals
    cases front
    all_goals simp [insert, find?, ThemeIndex.side, here]

theorem find?_register (index : ThemeIndex) (info : AppearanceInfo) (position : Nat)
    (theme : String) (front : Bool) :
    (index.register info position).find? theme front =
      if info.appliesTo theme front then
        some position
      else
        index.find? theme front := by
  rcases info with ⟨id, themes, side⟩
  rw [register, AppearanceInfo.appliesTo]
  dsimp only
  induction themes generalizing index with
  | nil => simp
  | cons first rest induction =>
      rw [List.foldl_cons, induction, find?_insert]
      by_cases sameSide : side = front
      · by_cases later : theme ∈ rest
        · simp [sameSide, later]
        · simp [sameSide, later, eq_comm]
      · simp [sameSide]

theorem themes_pairwise (index : ThemeIndex) (front : Bool) :
    (index.themes front).Pairwise fun earlier later => earlier < later := by
  refine Std.TreeMap.ordered_keys.imp ?_
  intro earlier later ascending
  exact compareOfLessAndEq_eq_lt.mp ascending

theorem mem_themes (index : ThemeIndex) (theme : String) (front : Bool) :
    theme ∈ index.themes front ↔ (index.find? theme front).isSome = true := by
  rw [themes, Std.TreeMap.mem_keys, find?, Std.TreeMap.isSome_getElem?_iff_mem]

/-- Every position that the index gives is that of the last appearance that applies. -/
def InStep (index : ThemeIndex) (infos : List AppearanceInfo) : Prop :=
  ∀ theme front,
    index.find? theme front = (latestPlaced? id theme front infos).map (·.2)

theorem inStep_empty : empty.InStep [] := by
  intro theme front
  cases front
  · rfl
  · rfl

theorem InStep.register {index : ThemeIndex} {infos : List AppearanceInfo}
    (inStep : index.InStep infos) (info : AppearanceInfo) :
    (index.register info infos.length).InStep (infos ++ [info]) := by
  intro theme front
  rw [find?_register, latestPlaced?_append_singleton, inStep theme front, id]
  split
  · rfl
  · rfl

section Bindings

variable {α : Type} {info : α → AppearanceInfo} {index : ThemeIndex} {bindings : List α}
  (inStep : index.InStep (bindings.map info))

include inStep

theorem InStep.find?_eq (theme : String) (front : Bool) :
    index.find? theme front = (latestPlaced? info theme front bindings).map (·.2) := by
  rw [inStep theme front, latestPlaced?_map, Option.map_map]
  rfl

theorem InStep.bind_find? (theme : String) (front : Bool) :
    (index.find? theme front).bind (bindings[·]?) =
      latest? info theme front bindings := by
  rw [inStep.find?_eq, latest?_eq_latestPlaced?]
  cases found : latestPlaced? info theme front bindings with
  | none => rfl
  | some entry => exact getElem?_of_latestPlaced? info theme front found

theorem InStep.mem_themes_iff (theme : String) (front : Bool) :
    theme ∈ index.themes front ↔
      (latest? info theme front bindings).isSome = true := by
  rw [mem_themes, inStep.find?_eq, latest?_eq_latestPlaced?, Option.isSome_map,
    Option.isSome_map]

end Bindings

end ThemeIndex

/-! ## Appearances of a polygon -/

def TextureTarget.info (target : TextureTarget) : AppearanceInfo :=
  target.texture.value.info

def MaterialTarget.info (target : MaterialTarget) : AppearanceInfo :=
  target.material.value.info

namespace AppearanceTarget

structure Indexed (appearance : AppearanceTarget) : Prop where
  textures :
    appearance.textureIndex.InStep (appearance.textureTargets.map TextureTarget.info)
  materials :
    appearance.materialIndex.InStep (appearance.materialTargets.map MaterialTarget.info)

theorem indexed_empty : empty.Indexed := ⟨ThemeIndex.inStep_empty, ThemeIndex.inStep_empty⟩

namespace Indexed

variable {appearance : AppearanceTarget} (indexed : appearance.Indexed)

include indexed

theorem addTexture (target : TextureTarget) : (appearance.addTexture target).Indexed := by
  refine ⟨?_, indexed.materials⟩
  have registered := indexed.textures.register target.info
  rw [List.length_map] at registered
  rw [AppearanceTarget.addTexture, List.map_append]
  exact registered

theorem addMaterial (target : MaterialTarget) :
    (appearance.addMaterial target).Indexed := by
  refine ⟨indexed.textures, ?_⟩
  have registered := indexed.materials.register target.info
  rw [List.length_map] at registered
  rw [AppearanceTarget.addMaterial, List.map_append]
  exact registered

theorem editTextures (edit : TextureTarget → TextureTarget)
    (sameInfo : ∀ target, (edit target).info = target.info) :
    { appearance with
      textureTargets := appearance.textureTargets.map edit }.Indexed := by
  refine ⟨?_, indexed.materials⟩
  have same : (appearance.textureTargets.map edit).map TextureTarget.info =
      appearance.textureTargets.map TextureTarget.info := by
    rw [List.map_map]
    exact List.map_congr_left fun target _ => sameInfo target
  rw [same]
  exact indexed.textures

theorem textureTarget?_eq (theme : String) (front : Bool) :
    appearance.textureTarget? theme front =
      latest? TextureTarget.info theme front appearance.textureTargets :=
  indexed.textures.bind_find? theme front

theorem materialTarget?_eq (theme : String) (front : Bool) :
    appearance.materialTarget? theme front =
      latest? MaterialTarget.info theme front appearance.materialTargets :=
  indexed.materials.bind_find? theme front

theorem mem_textureThemes (theme : String) (front : Bool) :
    theme ∈ appearance.textureThemes front ↔
      (appearance.textureTarget? theme front).isSome = true := by
  rw [indexed.textureTarget?_eq]
  exact indexed.textures.mem_themes_iff theme front

theorem mem_materialThemes (theme : String) (front : Bool) :
    theme ∈ appearance.materialThemes front ↔
      (appearance.materialTarget? theme front).isSome = true := by
  rw [indexed.materialTarget?_eq]
  exact indexed.materials.mem_themes_iff theme front

end Indexed

end AppearanceTarget

end PlanarMesh

import PlanarMesh.Proofs.CommandLine.Tree

/-! # Closed trees of files

In a tree where everything lies in a directory, a path that never goes up leads to
whatever lies at its location.
-/

namespace PlanarMesh.CommandLine.FileTree

variable {tree after : FileTree} {location : Location} {path content : String}

def Closed (tree : FileTree) : Prop :=
  ∀ location part, (tree.entryAt? (location ++ [part])).isSome = true →
    tree.isDirectory location = true

theorem closed_empty : empty.Closed := by
  intro location part present
  rw [entryAt?] at present
  split at present
  · rename_i outside
    rw [isOutside, List.all_append, Bool.and_eq_true] at outside
    exact isDirectory_of_isOutside outside.1
  · cases present

theorem Closed.isDirectory_of_append (closed : tree.Closed) {parts : List String}
    (directory : tree.isDirectory (location ++ parts) = true) :
    tree.isDirectory location = true := by
  induction parts generalizing location with
  | nil => rwa [List.append_nil] at directory
  | cons part parts induction =>
      rw [← List.singleton_append, ← List.append_assoc] at directory
      refine closed location part ?_
      rw [isDirectory_iff.mp (induction directory)]
      rfl

/-- From a directory only a name leads to something that is no directory. -/
theorem Closed.follow_eq (closed : tree.Closed) (directory : tree.isDirectory location = true)
    {part : String} (notDirectory : tree.isDirectory (follow location part) = false) :
    follow location part = location ++ [part] := by
  rw [follow] at notDirectory ⊢
  split at notDirectory
  · rw [directory] at notDirectory
    cases notDirectory
  · rename_i notHere
    rw [if_neg notHere]
    split at notDirectory
    · suffices tree.isDirectory (parentOf location) = true by
        rw [this] at notDirectory
        cases notDirectory
      rw [parentOf]
      split
      · exact directory
      · split
        · rename_i outside
          refine isDirectory_of_isOutside ?_
          rw [isOutside, List.all_append, ← isOutside, outside]
          rfl
        · rcases List.eq_nil_or_concat location with rfl | ⟨parts, last, rfl⟩
          · exact directory
          · rw [List.concat_eq_append] at directory ⊢
            rw [List.dropLast_concat]
            exact closed.isDirectory_of_append directory
    · rename_i notUp
      rw [if_neg notUp]

theorem Closed.put (closed : tree.Closed) (directory : tree.isDirectory location = true)
    {part : String} (notDirectory : tree.isDirectory (location ++ [part]) = false)
    (entry : Entry) : (tree.put (location ++ [part]) entry).Closed := by
  intro other last present
  rw [entryAt?_put (isOutside_eq_false notDirectory)] at present
  refine isDirectory_put notDirectory ?_ entry
  split at present
  · rename_i same
    rw [(List.append_inj' same rfl).1]
    exact directory
  · exact closed other last present

theorem Closed.makeAlong {fresh : Bool} {parts : List String} (closed : tree.Closed)
    (directory : tree.isDirectory location = true) :
    (tree.makeAlong location fresh parts).2.Closed := by
  induction parts generalizing tree location fresh with
  | nil => exact closed
  | cons part parts induction =>
      rw [FileTree.makeAlong]
      cases equal : tree.entryAt? (follow location part) with
      | none =>
          dsimp only
          split
          · exact closed
          · have notDirectory := isDirectory_eq_false equal
            have named := closed.follow_eq directory notDirectory
            refine induction ?_ ?_
            · rw [named] at notDirectory ⊢
              exact closed.put directory notDirectory _
            · rw [isDirectory_iff, entryAt?_put (isOutside_eq_false notDirectory), if_pos rfl]
      | some entry =>
          cases entry with
          | file content =>
              dsimp only
              split
              · exact closed
              · exact closed
          | directory => exact induction closed (isDirectory_iff.mpr equal)

theorem Closed.makeParent (closed : tree.Closed) (path : String) :
    (tree.makeParent path).2.Closed := by
  rw [FileTree.makeParent]
  split
  · exact closed
  · rename_i parent _
    dsimp only
    rw [makeDirectories]
    split
    · exact closed
    · exact closed.makeAlong (isDirectory_of_isOutside (isOutside_pathOrigin parent))

theorem Closed.locate_eq (closed : tree.Closed)
    (created : tree.create path content = .ok after) :
    ∃ parts last, (pathOrigin path).2 = parts ++ [last] ∧
      locate path = parts.foldl follow (pathOrigin path).1 ++ [last] ∧
      tree.isDirectory (parts.foldl follow (pathOrigin path).1) = true := by
  rcases create_cases created with ⟨⟨reached, resolved, directory⟩, notDirectory, _, _⟩
  rcases exists_last path with ⟨parts, last, whole, front, _, located⟩
  rw [front] at resolved
  rw [resolve?_eq resolved] at directory
  rw [located] at notDirectory ⊢
  exact ⟨parts, last, whole, closed.follow_eq directory notDirectory, directory⟩

theorem Closed.exists_grown (closed : tree.Closed)
    (written : tree.write path content = (.ok (), after)) :
    ∃ grown : FileTree, grown.Closed ∧ grown.create path content = .ok after := by
  rcases write_cases written with ⟨grown, made, created⟩
  have grownClosed := closed.makeParent path
  rw [made] at grownClosed
  exact ⟨grown, grownClosed, created⟩

theorem Closed.write (closed : tree.Closed)
    (written : tree.write path content = (.ok (), after)) : after.Closed := by
  rcases closed.exists_grown written with ⟨grown, grownClosed, created⟩
  rcases grownClosed.locate_eq created with ⟨parts, last, _, located, directory⟩
  rcases create_cases created with ⟨_, notDirectory, rfl, _⟩
  rw [located] at notDirectory ⊢
  exact grownClosed.put directory notDirectory _

theorem Closed.exists_name_of_write (closed : tree.Closed)
    (written : tree.write path content = (.ok (), after)) :
    ∃ parts last, (pathOrigin path).2 = parts ++ [last] ∧
      locate path = parts.foldl follow (pathOrigin path).1 ++ [last] := by
  rcases closed.exists_grown written with ⟨grown, grownClosed, created⟩
  rcases grownClosed.locate_eq created with ⟨parts, last, whole, located, _⟩
  exact ⟨parts, last, whole, located⟩

theorem closed_ofFiles (files : List (String × String)) : (ofFiles files).Closed := by
  rw [ofFiles]
  refine List.foldlRecOn files _ closed_empty fun tree closed file _ => ?_
  rcases file with ⟨path, content⟩
  dsimp only
  split
  · rename_i written
    exact closed.write written
  · exact closed

theorem Closed.resolve?_of_isDirectory (closed : tree.Closed) {parts : List String}
    (noReturn : ".." ∉ parts)
    (directory : tree.isDirectory (parts.foldl follow location) = true) :
    tree.resolve? location parts = some (parts.foldl follow location) := by
  induction parts generalizing location with
  | nil => rfl
  | cons part parts induction =>
      rcases foldl_follow_append noReturn location with ⟨suffix, reached⟩
      have here : tree.isDirectory location = true := by
        rw [reached] at directory
        exact closed.isDirectory_of_append directory
      rw [resolve?, if_pos here]
      exact induction (fun member => noReturn (List.mem_cons_of_mem _ member)) directory

/-- Only a path that goes up somewhere can miss a file that lies at its location. -/
theorem Closed.mem_pathParts (closed : tree.Closed) {parts : List String} {last : String}
    (whole : (pathOrigin path).2 = parts ++ [last])
    (located : locate path = parts.foldl follow (pathOrigin path).1 ++ [last])
    (missed : tree.resolve? (pathOrigin path).1 (pathOrigin path).2 = none) {old : String}
    (existed : tree.fileAt? (locate path) = some old) : ".." ∈ pathParts path := by
  refine Decidable.by_contra fun noReturn => ?_
  have inside : tree.isDirectory (parts.foldl follow (pathOrigin path).1) = true := by
    refine closed _ last ?_
    rw [← located, fileAt?_eq_some_iff.mp existed]
    rfl
  have reached := closed.resolve?_of_isDirectory (fun member => noReturn <|
    mem_pathParts_of_mem_pathOrigin <| whole ▸ List.mem_append_left _ member) inside
  rw [whole, resolve?_append, reached, Option.bind_some, resolve?, if_pos inside] at missed
  cases missed

end PlanarMesh.CommandLine.FileTree

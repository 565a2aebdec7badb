import PlanarMesh.Proofs.CommandLine.Paths

/-! # Writing into a tree of files

A file that is written has its content at the location of its path, and every other file
stays what it was. Directories are only added. A path that did not lead anywhere before its
file is written can lead to a file all the same, but only back up through a directory that
was missing.
-/

namespace PlanarMesh.CommandLine

namespace FileTree

variable {tree after : FileTree} {location other : Location}

/-! ## Entries -/

def fileAt? (tree : FileTree) (location : Location) : Option String :=
  match tree.entryAt? location with
  | some (.file content) => some content
  | _ => none

theorem lookup_filter_ne {entries : List (Location × Entry)} (different : other ≠ location) :
    (entries.filter fun entry => entry.1 != location).lookup other = entries.lookup other := by
  induction entries with
  | nil => rfl
  | cons entry entries induction =>
      by_cases isHere : entry.1 = location
      · have notOther : (other == entry.1) = false := by simpa [isHere] using different
        rw [List.filter_cons_of_neg (by simpa using isHere), induction, List.lookup_cons,
          notOther]
      · rw [List.filter_cons_of_pos (by simpa using isHere), List.lookup_cons,
          List.lookup_cons, induction]

theorem lookup_filter_self (entries : List (Location × Entry)) (location : Location) :
    (entries.filter fun entry => entry.1 != location).lookup location = none := by
  rw [List.lookup_eq_none_iff]
  intro entry member
  have different := (List.mem_filter.mp member).2
  simp only [bne_iff_ne, ne_eq] at different
  exact bne_iff_ne.mpr (Ne.symm different)

theorem entryAt?_put (inside : isOutside location = false) (entry : Entry) (other : Location) :
    (tree.put location entry).entryAt? other =
      if other = location then some entry else tree.entryAt? other := by
  by_cases same : other = location
  · rw [if_pos same, same, entryAt?, inside, put, List.lookup_append, lookup_filter_self]
    simp
  · rw [if_neg same, entryAt?, entryAt?, put, List.lookup_append, lookup_filter_ne same]
    have missing : [(location, entry)].lookup other = none := by
      rw [List.lookup_cons, beq_false_of_ne same]
      rfl
    rw [missing, Option.or_none]

theorem isDirectory_iff : tree.isDirectory location = true ↔
    tree.entryAt? location = some .directory := by
  rw [isDirectory, beq_iff_eq]

theorem isDirectory_of_isOutside (outside : isOutside location = true) :
    tree.isDirectory location = true := by
  rw [isDirectory_iff, entryAt?, if_pos outside]

theorem isOutside_eq_false (notDirectory : tree.isDirectory location = false) :
    isOutside location = false := by
  cases outside : isOutside location with
  | false => rfl
  | true =>
      rw [isDirectory_of_isOutside outside] at notDirectory
      cases notDirectory

theorem isDirectory_eq_false (missing : tree.entryAt? location = none) :
    tree.isDirectory location = false := by
  rw [isDirectory, missing]
  rfl

theorem fileAt?_eq_some_iff {content : String} :
    tree.fileAt? location = some content ↔ tree.entryAt? location = some (.file content) := by
  rw [fileAt?]
  split <;> simp_all

theorem isDirectory_put (notDirectory : tree.isDirectory location = false) {other : Location}
    (directory : tree.isDirectory other = true) (entry : Entry) :
    (tree.put location entry).isDirectory other = true := by
  have different : other ≠ location := by
    rintro rfl
    rw [directory] at notDirectory
    cases notDirectory
  rw [isDirectory_iff, entryAt?_put (isOutside_eq_false notDirectory), if_neg different]
  exact isDirectory_iff.mp directory

/-! ## Growing -/

/-- Directories were added, and nothing else was changed. -/
def Grows (tree after : FileTree) : Prop :=
  ∀ location, after.entryAt? location = tree.entryAt? location ∨
    tree.entryAt? location = none ∧ after.entryAt? location = some .directory

theorem Grows.refl (tree : FileTree) : tree.Grows tree := fun _ => Or.inl rfl

theorem Grows.trans {last : FileTree} (first : tree.Grows after) (second : after.Grows last) :
    tree.Grows last := by
  intro location
  rcases first location with same | ⟨missing, added⟩
  · rcases second location with alsoSame | ⟨alsoMissing, added⟩
    · exact Or.inl (alsoSame.trans same)
    · exact Or.inr ⟨same ▸ alsoMissing, added⟩
  · rcases second location with alsoSame | ⟨alsoMissing, _⟩
    · exact Or.inr ⟨missing, alsoSame.trans added⟩
    · rw [added] at alsoMissing
      cases alsoMissing

theorem Grows.fileAt? (grows : tree.Grows after) (location : Location) :
    after.fileAt? location = tree.fileAt? location := by
  rw [FileTree.fileAt?, FileTree.fileAt?]
  rcases grows location with same | ⟨missing, added⟩
  · rw [same]
  · rw [missing, added]

theorem Grows.isDirectory (grows : tree.Grows after)
    (directory : tree.isDirectory location = true) : after.isDirectory location = true := by
  rw [isDirectory_iff] at directory ⊢
  rcases grows location with same | ⟨missing, added⟩
  · rw [same, directory]
  · exact added

theorem grows_put (missing : tree.entryAt? location = none) :
    tree.Grows (tree.put location .directory) := by
  intro other
  rw [entryAt?_put (isOutside_eq_false (isDirectory_eq_false missing))]
  by_cases same : other = location
  · rw [if_pos same, same]
    exact Or.inr ⟨missing, rfl⟩
  · rw [if_neg same]
    exact Or.inl rfl

/-! ## Paths -/

theorem resolve?_eq {parts : List String} {found : Location}
    (resolved : tree.resolve? location parts = some found) :
    found = parts.foldl follow location := by
  induction parts generalizing location with
  | nil => exact (Option.some.inj resolved).symm
  | cons part parts induction =>
      rw [resolve?] at resolved
      split at resolved
      · exact induction resolved
      · cases resolved

theorem resolve?_of_isDirectory
    (kept : ∀ location, tree.isDirectory location = true → after.isDirectory location = true)
    {parts : List String} {found : Location}
    (resolved : tree.resolve? location parts = some found) :
    after.resolve? location parts = some found := by
  induction parts generalizing location with
  | nil => exact resolved
  | cons part parts induction =>
      rw [resolve?] at resolved ⊢
      split at resolved
      · rename_i directory
        rw [if_pos (kept location directory)]
        exact induction resolved
      · cases resolved

theorem resolve?_append (first second : List String) :
    tree.resolve? location (first ++ second) =
      (tree.resolve? location first).bind fun found => tree.resolve? found second := by
  induction first generalizing location with
  | nil => rfl
  | cons part first induction =>
      rw [List.cons_append, resolve?, resolve?]
      split
      · exact induction
      · rfl

/-! ## Making directories -/

variable {fresh : Bool} {path content : String}

theorem grows_makeAlong (tree : FileTree) (location : Location) (fresh : Bool)
    (parts : List String) : tree.Grows (tree.makeAlong location fresh parts).2 := by
  induction parts generalizing tree location fresh with
  | nil => exact Grows.refl tree
  | cons part parts induction =>
      rw [makeAlong]
      cases equal : tree.entryAt? (follow location part) with
      | none =>
          dsimp only
          split
          · exact Grows.refl tree
          · exact (grows_put equal).trans (induction _ _ true)
      | some entry =>
          cases entry with
          | file content =>
              dsimp only
              split
              · exact Grows.refl tree
              · exact Grows.refl tree
          | directory => exact induction tree _ fresh

theorem resolve?_makeAlong {parts : List String}
    (made : tree.makeAlong location fresh parts = (.ok (), after))
    (directory : tree.isDirectory location = true) :
    after.resolve? location parts = some (parts.foldl follow location) ∧
      after.isDirectory (parts.foldl follow location) = true := by
  induction parts generalizing tree location fresh with
  | nil =>
      cases made
      exact ⟨rfl, directory⟩
  | cons part parts induction =>
      have grows := tree.grows_makeAlong location fresh (part :: parts)
      rw [made] at grows
      rw [resolve?, if_pos (grows.isDirectory directory)]
      rw [makeAlong] at made
      cases equal : tree.entryAt? (follow location part) with
      | none =>
          rw [equal] at made
          dsimp only at made
          split at made
          · cases made
          · refine induction made ?_
            rw [isDirectory_iff, entryAt?_put (isOutside_eq_false (isDirectory_eq_false equal)),
              if_pos rfl]
      | some entry =>
          rw [equal] at made
          cases entry with
          | file content =>
              dsimp only at made
              split at made
              · cases made
              · cases made
          | directory => exact induction made (isDirectory_iff.mpr equal)

theorem grows_makeDirectories (tree : FileTree) (path : String) :
    tree.Grows (tree.makeDirectories path).2 := by
  rw [makeDirectories]
  split
  · exact Grows.refl tree
  · exact tree.grows_makeAlong _ _ _

theorem grows_makeParent (tree : FileTree) (path : String) :
    tree.Grows (tree.makeParent path).2 := by
  rw [makeParent]
  split
  · exact Grows.refl tree
  · exact tree.grows_makeDirectories _

/-! ## Creating files -/

theorem enter_eq {parts : List String} {found : Location}
    (entered : tree.enter location parts = .ok found) :
    tree.resolve? location parts = some found ∧ tree.isDirectory found = true := by
  induction parts generalizing location with
  | nil =>
      rw [enter] at entered
      split at entered
      · cases entered
      · cases entered
      · rename_i directory
        cases entered
        exact ⟨rfl, isDirectory_iff.mpr directory⟩
  | cons part parts induction =>
      rw [enter] at entered
      split at entered
      · cases entered
      · cases entered
      · rename_i directory
        rw [resolve?, if_pos (isDirectory_iff.mpr directory)]
        exact induction entered

theorem dropEnd_concat_of_not {drops : String → Bool} {last : String}
    (kept : drops last = false) (parts : List String) :
    dropEnd drops (parts ++ [last]) = parts ++ [last] := by
  rw [dropEnd, List.reverse_append, List.reverse_singleton, List.singleton_append,
    List.dropWhile_cons_of_neg (by simp [kept]), List.reverse_cons, List.reverse_reverse]

/-- A file is created in a directory that its path leads to, where no directory is. -/
theorem create_cases (created : tree.create path content = .ok after) :
    (∃ directory, tree.resolve? (pathOrigin path).1 (pathOrigin path).2.dropLast =
        some directory ∧ tree.isDirectory directory = true) ∧
      tree.isDirectory (locate path) = false ∧
      after = tree.put (locate path) (.file content) ∧ path.isEmpty = false := by
  rcases exists_last path with ⟨parts, last, whole, front, back, located⟩
  rw [create] at created
  split at created
  · cases created
  · rename_i nonempty
    simp only [back] at created
    cases entered : tree.enter (pathOrigin path).1
        (dropEnd (·.isEmpty) (pathOrigin path).2).dropLast with
    | error fault =>
        rw [entered] at created
        cases created
    | ok directory =>
        rcases enter_eq entered with ⟨resolved, isDirectory⟩
        simp only [entered, bind, Except.bind] at created
        split at created
        · cases created
        · rename_i notDirectory
          rw [Bool.not_eq_true] at notDirectory
          -- A slash at the end would lead to the directory itself.
          have proper : last.isEmpty = false := by
            rw [Bool.eq_false_iff]
            intro isEmpty
            rw [String.isEmpty_iff.mp isEmpty, follow, if_pos (by decide), isDirectory]
              at notDirectory
            cases notDirectory
          rw [whole, dropEnd_concat_of_not proper, List.dropLast_concat] at resolved
          have there : follow directory last = locate path := by
            rw [located, resolve?_eq resolved]
          rw [there] at created notDirectory
          exact ⟨⟨directory, front ▸ resolved, isDirectory⟩, notDirectory,
            (Except.ok.inj created).symm, by simpa using nonempty⟩

/-! ## Writing -/

theorem write_cases (written : tree.write path content = (.ok (), after)) :
    ∃ grown, tree.makeParent path = (.ok (), grown) ∧ grown.create path content = .ok after := by
  rw [write] at written
  split at written
  · cases written
  · rename_i grown made
    refine ⟨grown, made, ?_⟩
    split at written
    · cases written
    · cases written
      assumption

theorem exists_grown_of_write (written : tree.write path content = (.ok (), after)) :
    ∃ grown, tree.Grows grown ∧ grown.create path content = .ok after := by
  rcases write_cases written with ⟨grown, made, created⟩
  have grows := tree.grows_makeParent path
  rw [made] at grows
  exact ⟨grown, grows, created⟩

theorem grows_of_write {fault : WriteFault}
    (failed : tree.write path content = (.error fault, after)) : tree.Grows after := by
  have grows := tree.grows_makeParent path
  rw [write] at failed
  split at failed
  · rename_i made
    cases failed
    rwa [made] at grows
  · rename_i made
    rw [made] at grows
    split at failed
    · cases failed
      exact grows
    · cases failed

theorem fileAt?_write (written : tree.write path content = (.ok (), after))
    (location : Location) :
    after.fileAt? location =
      if location = locate path then some content else tree.fileAt? location := by
  rcases exists_grown_of_write written with ⟨grown, grows, created⟩
  rcases create_cases created with ⟨_, notDirectory, rfl, _⟩
  rw [← grows.fileAt? location, fileAt?, fileAt?, entryAt?_put (isOutside_eq_false notDirectory)]
  by_cases same : location = locate path
  · rw [if_pos same, if_pos same]
  · rw [if_neg same, if_neg same]

theorem isDirectory_write (written : tree.write path content = (.ok (), after))
    (location : Location) (directory : tree.isDirectory location = true) :
    after.isDirectory location = true := by
  rcases exists_grown_of_write written with ⟨grown, grows, created⟩
  rcases create_cases created with ⟨_, notDirectory, rfl, _⟩
  exact isDirectory_put notDirectory (grows.isDirectory directory) _

theorem find?_write (written : tree.write path content = (.ok (), after)) :
    after.find? path = some (.file content) := by
  rcases exists_grown_of_write written with ⟨grown, _, created⟩
  rcases create_cases created with ⟨⟨reached, resolved, directory⟩, notDirectory, rfl, nonempty⟩
  rcases exists_last path with ⟨parts, last, whole, front, _, located⟩
  rw [front] at resolved
  have kept : ∀ other, grown.isDirectory other = true →
      (grown.put (locate path) (.file content)).isDirectory other = true :=
    fun other directory => isDirectory_put notDirectory directory _
  have there : follow reached last = locate path := by
    rw [located, resolve?_eq resolved]
  rw [find?, nonempty, if_neg Bool.false_ne_true, whole, resolve?_append,
    resolve?_of_isDirectory kept resolved, Option.bind_some, resolve?,
    if_pos (kept _ directory), there, resolve?, Option.bind_some,
    entryAt?_put (isOutside_eq_false notDirectory), if_pos rfl]

/-- A file that is overwritten although nothing was found under its path lies behind a
place that was no directory. -/
theorem resolve?_eq_none_of_write (written : tree.write path content = (.ok (), after))
    (notFound : tree.find? path = none) {old : String}
    (existed : tree.fileAt? (locate path) = some old) :
    tree.resolve? (pathOrigin path).1 (pathOrigin path).2 = none := by
  rcases exists_grown_of_write written with ⟨_, _, created⟩
  rcases create_cases created with ⟨_, _, _, nonempty⟩
  rw [find?, nonempty, if_neg Bool.false_ne_true] at notFound
  cases resolved : tree.resolve? (pathOrigin path).1 (pathOrigin path).2 with
  | none => rfl
  | some found =>
      rw [resolved, resolve?_eq resolved, Option.bind_some] at notFound
      have present := fileAt?_eq_some_iff.mp existed
      rw [locate, notFound] at present
      cases present

/-! ## Output directories -/

theorem resolve?_joinPath {directory name : String} (plain : '/' ∉ name.toList)
    (made : tree.makeDirectories directory = (.ok (), after)) :
    (after.resolve? (pathOrigin (joinPath directory name)).1
      (pathOrigin (joinPath directory name)).2).isSome = true := by
  rcases pathOrigin_joinPath directory plain with
      ⟨_, joined⟩ | ⟨nonempty, origin, parts, outer, joined⟩
  · rw [joined, resolve?, if_pos (isDirectory_of_isOutside rfl)]
    rfl
  · suffices ∃ last, after.resolve? origin parts = some last ∧ after.isDirectory last = true by
      rcases this with ⟨last, reached, directory⟩
      rw [joined, resolve?_append, reached, Option.bind_some, resolve?, if_pos directory]
      rfl
    rw [makeDirectories, if_neg (by simpa using nonempty)] at made
    have reached := resolve?_makeAlong made
      (isDirectory_of_isOutside (isOutside_pathOrigin directory))
    rcases outer with outer | outer
    · rw [outer] at reached
      exact ⟨_, reached⟩
    · rw [outer, resolve?_append] at reached
      rcases Option.bind_eq_some_iff.mp reached.1 with ⟨front, toFront, stay⟩
      refine ⟨front, toFront, ?_⟩
      rw [resolve?] at stay
      split at stay
      · assumption
      · cases stay

end FileTree

end PlanarMesh.CommandLine

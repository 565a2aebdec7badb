import PlanarMesh.CommandLine.Files

/-! # Paths of files

A path names a location, whether or not anything is there.
-/

namespace PlanarMesh.CommandLine

def locate (path : String) : Location :=
  (pathOrigin path).2.foldl follow (pathOrigin path).1

/-! ## Origins -/

theorem pathParts_ne_nil (path : String) : pathParts path ≠ [] := by
  rw [pathParts, ne_eq, List.map_eq_nil_iff]
  exact List.splitOn_ne_nil _ _

theorem pathOrigin_cases (path : String) :
    (pathOrigin path = ([], pathParts path)) ∨
      ∃ part parts, pathParts path = "" :: part :: parts ∧
        pathOrigin path = (["/"], part :: parts) := by
  rw [pathOrigin]
  split
  · rename_i part parts equal
    exact Or.inr ⟨part, parts, equal, rfl⟩
  · exact Or.inl rfl

theorem pathOrigin_ne_nil (path : String) : (pathOrigin path).2 ≠ [] := by
  rcases pathOrigin_cases path with relative | ⟨part, parts, _, absolute⟩
  · rw [relative]
    exact pathParts_ne_nil path
  · rw [absolute]
    exact List.cons_ne_nil _ _

theorem isOutside_pathOrigin (path : String) : isOutside (pathOrigin path).1 = true := by
  rcases pathOrigin_cases path with relative | ⟨part, parts, _, absolute⟩
  · rw [relative]
    rfl
  · rw [absolute]
    rfl

theorem mem_pathParts_of_mem_pathOrigin {path part : String}
    (member : part ∈ (pathOrigin path).2) : part ∈ pathParts path := by
  rcases pathOrigin_cases path with relative | ⟨first, parts, equal, absolute⟩
  · rwa [relative] at member
  · rw [absolute] at member
    rw [equal]
    exact List.mem_cons_of_mem _ member

theorem exists_last (path : String) :
    ∃ parts last, (pathOrigin path).2 = parts ++ [last] ∧
      (pathOrigin path).2.dropLast = parts ∧ (pathOrigin path).2.getLast?.getD "" = last ∧
      locate path = follow (parts.foldl follow (pathOrigin path).1) last := by
  rcases List.eq_nil_or_concat (pathOrigin path).2 with none | ⟨parts, last, whole⟩
  · exact absurd none (pathOrigin_ne_nil path)
  · rw [List.concat_eq_append] at whole
    refine ⟨parts, last, whole, ?_, ?_, ?_⟩
    · rw [whole, List.dropLast_concat]
    · rw [whole, List.getLast?_concat]
      rfl
    · rw [locate, whole, List.foldl_append]
      rfl

theorem foldl_follow_append {parts : List String} (noReturn : ".." ∉ parts)
    (location : Location) : ∃ suffix, parts.foldl follow location = location ++ suffix := by
  induction parts generalizing location with
  | nil => exact ⟨[], (List.append_nil location).symm⟩
  | cons part parts induction =>
      rw [List.mem_cons, not_or] at noReturn
      rcases induction noReturn.2 (follow location part) with ⟨suffix, reached⟩
      have next : follow location part = location ∨
          follow location part = location ++ [part] := by
        rw [follow]
        split
        · exact Or.inl rfl
        · rw [if_neg (by simpa using Ne.symm noReturn.1)]
          exact Or.inr rfl
      rw [List.foldl_cons, reached]
      rcases next with same | named
      · exact ⟨suffix, by rw [same]⟩
      · exact ⟨part :: suffix, by rw [named, List.append_assoc, List.singleton_append]⟩

/-! ## Files in a directory -/

theorem pathParts_append (directory name : List Char) (plain : '/' ∉ name) :
    pathParts (String.ofList (directory ++ '/' :: name)) =
      pathParts (String.ofList directory) ++ [String.ofList name] := by
  rw [pathParts, pathParts, String.toList_ofList, String.toList_ofList,
    List.splitOn_append_cons_self, List.splitOn_eq_singleton plain, List.map_append]
  rfl

theorem pathOrigin_of_absolute {path part : String} {parts : List String}
    (equal : pathParts path = "" :: part :: parts) :
    pathOrigin path = (["/"], part :: parts) := by
  simp only [pathOrigin, equal]

theorem pathOrigin_of_relative {path first : String} {parts : List String}
    (equal : pathParts path = first :: parts) (relative : first ≠ "" ∨ parts = []) :
    pathOrigin path = ([], first :: parts) := by
  rw [pathOrigin, equal]
  split
  · rename_i headed
    cases headed
    rcases relative with named | lone
    · exact absurd rfl named
    · cases lone
  · rfl

theorem pathOrigin_of_append {path other : String} {parts : List String} {last otherLast : String}
    (nonempty : parts ≠ []) (equal : pathParts path = parts ++ [last])
    (otherEqual : pathParts other = parts ++ [otherLast]) :
    ∃ origin front, pathOrigin path = (origin, front ++ [last]) ∧
      pathOrigin other = (origin, front ++ [otherLast]) := by
  rcases parts with _ | ⟨first, parts⟩
  · exact absurd rfl nonempty
  · by_cases absolute : first = ""
    · subst absolute
      cases parts with
      | nil =>
          exact ⟨["/"], [], pathOrigin_of_absolute equal, pathOrigin_of_absolute otherEqual⟩
      | cons second parts =>
          exact ⟨["/"], second :: parts, pathOrigin_of_absolute equal,
            pathOrigin_of_absolute otherEqual⟩
    · exact ⟨[], first :: parts, pathOrigin_of_relative equal (Or.inl absolute),
        pathOrigin_of_relative otherEqual (Or.inl absolute)⟩

theorem pathParts_eq_singleton {path : String} (plain : '/' ∉ path.toList) :
    pathParts path = [path] := by
  rw [pathParts, List.splitOn_eq_singleton plain, List.map_singleton, String.ofList_toList]

theorem eq_empty_of_pathParts {path : String} (equal : pathParts path = [""]) : path = "" := by
  have joined : ['/'].intercalate (path.toList.splitOn '/') = path.toList :=
    List.intercalate_splitOn '/'
  rw [pathParts, List.map_eq_singleton_iff] at equal
  rcases equal with ⟨part, single, isEmpty⟩
  rw [single, List.intercalate_singleton] at joined
  rw [← isEmpty, joined, String.ofList_toList]

/-- A file in a directory is reached through the directory, which may be named with or
without a slash at its end. -/
theorem pathOrigin_joinPath (directory : String) {name : String} (plain : '/' ∉ name.toList) :
    directory = "" ∧ pathOrigin (joinPath directory name) = ([], [name]) ∨
      directory ≠ "" ∧ ∃ origin parts, (pathOrigin directory = (origin, parts) ∨
          pathOrigin directory = (origin, parts ++ [""])) ∧
        pathOrigin (joinPath directory name) = (origin, parts ++ [name]) := by
  rw [joinPath]
  split
  · rename_i noLast
    refine Or.inl ⟨String.toList_eq_nil_iff.mp (List.getLast?_eq_none_iff.mp noLast), ?_⟩
    exact pathOrigin_of_relative (pathParts_eq_singleton plain) (Or.inr rfl)
  · rename_i lastSlash
    rcases List.getLast?_eq_some_iff.mp lastSlash with ⟨front, split⟩
    have whole : directory = String.ofList (front ++ ['/']) := by
      rw [← split, String.ofList_toList]
    have joined : directory ++ name = String.ofList (front ++ '/' :: name.toList) := by
      rw [← String.toList_inj]
      simp [split]
    rcases pathOrigin_of_append (pathParts_ne_nil _) (whole ▸ pathParts_append front [] (by simp))
      (joined ▸ pathParts_append front name.toList plain) with ⟨origin, parts, outer, inner⟩
    rw [String.ofList_toList] at inner
    refine Or.inr ⟨?_, origin, parts, Or.inr outer, inner⟩
    rintro rfl
    cases lastSlash
  · rename_i last hasLast
    have joined : directory ++ "/" ++ name =
        String.ofList (directory.toList ++ '/' :: name.toList) := by
      rw [← String.toList_inj]
      simp
    have inner := pathParts_append directory.toList name.toList plain
    rw [← joined, String.ofList_toList, String.ofList_toList] at inner
    have nonempty : directory ≠ "" := by
      rintro rfl
      cases hasLast
    refine Or.inr ⟨nonempty, ?_⟩
    cases equal : pathParts directory with
    | nil => exact absurd equal (pathParts_ne_nil directory)
    | cons first parts =>
        rw [equal] at inner
        by_cases absolute : first = ""
        · subst absolute
          cases parts with
          | nil => exact absurd (eq_empty_of_pathParts equal) nonempty
          | cons second parts =>
              exact ⟨["/"], second :: parts, Or.inl (pathOrigin_of_absolute equal),
                pathOrigin_of_absolute inner⟩
        · exact ⟨[], first :: parts, Or.inl (pathOrigin_of_relative equal (Or.inl absolute)),
            pathOrigin_of_relative inner (Or.inl absolute)⟩

end PlanarMesh.CommandLine

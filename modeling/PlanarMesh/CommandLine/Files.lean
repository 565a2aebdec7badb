/-! # Trees of files

Paths are read part by part from a starting directory. A part that is empty or a
dot stays where it is, two dots go one directory up. Locations are paths without
such parts; those outside the starting directory begin with a slash or two dots.
-/

namespace PlanarMesh.CommandLine

abbrev Location := List String

inductive Entry where
  | directory
  | file (content : String)
deriving DecidableEq, Repr

inductive FileFault where
  | missing
  | alreadyThere
  | notDirectory
  | isDirectory
deriving DecidableEq, Repr

namespace FileFault

def message : FileFault → String
  | .missing => "No such file or directory (os error 2)"
  | .alreadyThere => "File exists (os error 17)"
  | .notDirectory => "Not a directory (os error 20)"
  | .isDirectory => "Is a directory (os error 21)"

end FileFault

/-! ## Paths -/

def pathParts (path : String) : List String :=
  (path.toList.splitOn '/').map String.ofList

/-- Where a path begins, and the parts to follow from there. -/
def pathOrigin (path : String) : Location × List String :=
  match pathParts path with
  | "" :: part :: parts => (["/"], part :: parts)
  | parts => ([], parts)

/-- A location no parts of which lie in a known directory. -/
def isOutside (location : Location) : Bool :=
  location.all fun part => part == ".." || part == "/"

def parentOf (location : Location) : Location :=
  if location == ["/"] then location
  else if isOutside location then location ++ [".."]
  else location.dropLast

def stays (part : String) : Bool :=
  part == "" || part == "."

def follow (location : Location) (part : String) : Location :=
  if stays part then location
  else if part == ".." then parentOf location
  else location ++ [part]

def joinPath (directory name : String) : String :=
  match directory.toList.getLast? with
  | none => name
  | some '/' => directory ++ name
  | some _ => directory ++ "/" ++ name

def locationText (location : Location) : String :=
  match location with
  | "/" :: parts => "/" ++ "/".intercalate parts
  | parts => "/".intercalate parts

def dropEnd (drops : String → Bool) (parts : List String) : List String :=
  (parts.reverse.dropWhile drops).reverse

/-- The path of the directory that a path puts its file into. -/
def parentPath? (path : String) : Option String :=
  let (origin, parts) := pathOrigin path
  match dropEnd stays parts with
  | [] => none
  | own => some (locationText (origin ++ dropEnd stays own.dropLast))

/-! ## Trees -/

inductive WriteFault where
  | noDirectory (path : String) (fault : FileFault)
  | noFile (path : String) (fault : FileFault)
deriving DecidableEq, Repr

def WriteFault.message : WriteFault → String
  | .noDirectory path fault => s!"create dir {path}: " ++ fault.message
  | .noFile path fault => s!"create {path}: " ++ fault.message

structure FileTree where
  entries : List (Location × Entry)

namespace FileTree

def empty : FileTree := ⟨[]⟩

/-- What lies at a location. The starting directory and those above it are always
there. -/
def entryAt? (tree : FileTree) (location : Location) : Option Entry :=
  if isOutside location then some .directory else tree.entries.lookup location

def isDirectory (tree : FileTree) (location : Location) : Bool :=
  tree.entryAt? location == some .directory

def put (tree : FileTree) (location : Location) (entry : Entry) : FileTree :=
  ⟨tree.entries.filter (fun other => other.1 != location) ++ [(location, entry)]⟩

def resolve? (tree : FileTree) (location : Location) : List String → Option Location
  | [] => some location
  | part :: parts =>
      if tree.isDirectory location then tree.resolve? (follow location part) parts else none

/-- What a path leads to. The empty path leads nowhere. -/
def find? (tree : FileTree) (path : String) : Option Entry :=
  if path.isEmpty then
    none
  else
    (tree.resolve? (pathOrigin path).1 (pathOrigin path).2).bind tree.entryAt?

/-! ## Changes

A change that stops at a fault leaves what was done by then. -/

def makeAlong (tree : FileTree) (location : Location) (fresh : Bool) :
    List String → Except FileFault Unit × FileTree
  | [] => (.ok (), tree)
  | part :: parts =>
      let next := follow location part
      match tree.entryAt? next with
      | some .directory => tree.makeAlong next fresh parts
      | some (.file _) =>
          -- The whole path is tried first. What is in its way is met as a directory to
          -- be made only if it comes last or another one was missing before.
          if parts.all (·.isEmpty) || fresh && !parts.all stays then
            (.error .alreadyThere, tree)
          else
            (.error .notDirectory, tree)
      | none =>
          -- A directory cannot be made under a name that ends with a dot.
          if parts.contains "." && parts.all stays then
            (.error .missing, tree)
          else
            (tree.put next .directory).makeAlong next true parts

def makeDirectories (tree : FileTree) (path : String) : Except FileFault Unit × FileTree :=
  if path.isEmpty then
    (.ok (), tree)
  else
    tree.makeAlong (pathOrigin path).1 false (pathOrigin path).2

def enter (tree : FileTree) (location : Location) (parts : List String) :
    Except FileFault Location :=
  match tree.entryAt? location with
  | none => .error .missing
  | some (.file _) => .error .notDirectory
  | some .directory =>
      match parts with
      | [] => .ok location
      | part :: parts => tree.enter (follow location part) parts

def create (tree : FileTree) (path content : String) : Except FileFault FileTree := do
  if path.isEmpty then
    .error .missing
  else
    let (origin, parts) := pathOrigin path
    let directory ← tree.enter origin (dropEnd (·.isEmpty) parts).dropLast
    let location := follow directory (parts.getLast?.getD "")
    if tree.isDirectory location then
      .error .isDirectory
    else
      .ok (tree.put location (.file content))

def makeParent (tree : FileTree) (path : String) : Except WriteFault Unit × FileTree :=
  match parentPath? path with
  | none => (.ok (), tree)
  | some parent =>
      let (made, grown) := tree.makeDirectories parent
      (made.mapError (.noDirectory parent), grown)

/-- Writes a file, in directories that are made where they are missing. -/
def write (tree : FileTree) (path content : String) : Except WriteFault Unit × FileTree :=
  match tree.makeParent path with
  | (.error fault, grown) => (.error fault, grown)
  | (.ok (), grown) =>
      match grown.create path content with
      | .error fault => (.error (.noFile path fault), grown)
      | .ok after => (.ok (), after)

def files (tree : FileTree) : List (Location × String) :=
  tree.entries.filterMap fun (location, entry) =>
    match entry with
    | .file content => some (location, content)
    | .directory => none

def directories (tree : FileTree) : List Location :=
  tree.entries.filterMap fun (location, entry) =>
    if entry = .directory then some location else none

/-- Files given by their paths, each with the directories above it. A path that
cannot be used is left out. -/
def ofFiles (files : List (String × String)) : FileTree :=
  files.foldl
    (fun tree (path, content) =>
      match tree.write path content with
      | (.ok (), after) => after
      | (.error _, _) => tree)
    empty

end FileTree

end PlanarMesh.CommandLine

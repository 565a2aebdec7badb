import PlanarMesh.CommandLine.Run

/-! # The program

Looks at the files that a command line may touch, lets `CommandLine.run` decide, and
carries out what it decided.
-/

namespace PlanarMesh.CommandLine

def locationsAlong (path : String) : List Location :=
  let (origin, parts) := pathOrigin path
  (parts.foldl (fun (location, passed) part =>
    let next := follow location part
    (next, passed ++ [next])) (origin, [])).2

def lookAt (tree : FileTree) (location : Location) : IO FileTree := do
  let place := (← IO.currentDir) / locationText location
  if isOutside location then pure tree
  else if ← place.isDir then pure (tree.put location .directory)
  else if ← place.pathExists then pure (tree.put location (.file ""))
  else pure tree

/-- Makes the directories and files in which a tree differs from what was there. -/
def carryOut (before after : FileTree) : IO Unit := do
  let here ← IO.currentDir
  for location in after.directories do
    if !before.isDirectory location then
      IO.FS.createDirAll (here / locationText location)
  for (location, content) in after.files do
    if before.entryAt? location != some (.file content) then
      IO.FS.writeFile (here / locationText location) content

def runProgram (arguments : List String) : IO UInt32 := do
  let before ← ((outputPaths arguments).flatMap locationsAlong).foldlM lookAt FileTree.empty
  let ending := run arguments before
  carryOut before ending.terminal.tree
  IO.print ending.terminal.stdout
  IO.eprint ending.terminal.stderr
  pure ending.exitCode

end PlanarMesh.CommandLine

def main (arguments : List String) : IO UInt32 := do
  try
    PlanarMesh.CommandLine.runProgram arguments
  catch error =>
    IO.eprintln s!"polygon_cli error: {error}"
    pure 1

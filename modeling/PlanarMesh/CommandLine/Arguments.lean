import PlanarMesh.Polygon.Finish

/-! # Arguments of the command line

The arguments are read from left to right. An option takes the argument after it as
its value, whatever that looks like; of a repeated option the last value counts.
-/

namespace PlanarMesh.CommandLine

inductive ArgumentFault where
  | unknownCommand (name : String)
  | missingScenario
  | missingValue (option : String)
  | unknownOption (name : String)
deriving DecidableEq, Repr

structure Request where
  scenario : String
  outDir : Option String
  objPath : Option String
  jsonPath : Option String
  overwrite : Bool
  options : BuildOptions
deriving DecidableEq, Repr

inductive Command where
  | help
  | list
  | run (request : Request)
deriving DecidableEq, Repr

def readOptions (request : Request) : List String → Except ArgumentFault Command
  | [] => .ok (.run request)
  | "--out-dir" :: value :: rest => readOptions { request with outDir := some value } rest
  | "--obj" :: value :: rest => readOptions { request with objPath := some value } rest
  | "--json" :: value :: rest => readOptions { request with jsonPath := some value } rest
  | "--overwrite" :: rest => readOptions { request with overwrite := true } rest
  | "--no-tesselate" :: rest =>
      readOptions { request with options := { request.options with tessellate := false } } rest
  | "--no-optimize" :: rest =>
      readOptions { request with options := { request.options with optimize := false } } rest
  | "-h" :: _ => .ok .help
  | "--help" :: _ => .ok .help
  | option :: _ =>
      if option = "--out-dir" ∨ option = "--obj" ∨ option = "--json" then
        .error (.missingValue option)
      else
        .error (.unknownOption option)

def readCommand : List String → Except ArgumentFault Command
  | [] => .ok .help
  | "list" :: _ => .ok .list
  | ["run"] => .error .missingScenario
  | "run" :: scenario :: rest => readOptions ⟨scenario, none, none, none, false, .standard⟩ rest
  | "-h" :: _ => .ok .help
  | "--help" :: _ => .ok .help
  | "help" :: _ => .ok .help
  | name :: _ => .error (.unknownCommand name)

end PlanarMesh.CommandLine

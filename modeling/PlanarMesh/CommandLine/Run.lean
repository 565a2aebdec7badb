import PlanarMesh.CommandLine.Arguments
import PlanarMesh.CommandLine.Files
import PlanarMesh.CommandLine.Scenario
import PlanarMesh.Mesh.Obj

/-! # The command line

A command works on a `Terminal`: the files it sees and the two texts it prints. If
it fails, what it had written and printed before stays, and the fault is printed
last.
-/

namespace PlanarMesh.CommandLine

def usageLines : List String :=
  [ "polygon_cli (citygml-polygon)",
    "",
    "USAGE:",
    "  polygon_cli list",
    "  polygon_cli run <scenario|all> [options]",
    "",
    "SCENARIOS:",
    "  unit_square",
    "  square_with_hole",
    "  concave_l",
    "  textured_square",
    "",
    "OPTIONS (run):",
    "  --out-dir <dir>    Write <scenario>.obj and <scenario>.json to this dir (required for `all`)",
    "  --obj <path>       Write OBJ (single scenario only)",
    "  --json <path>      Write mesh and diagnostics as JSON (single scenario only)",
    "  --no-tesselate     Use the fan instead of the tesselator",
    "  --no-optimize      Keep duplicate ring vertices",
    "  --overwrite        Overwrite existing output files",
    "  -h, --help         Show this help" ]

def textOfLines (lines : List String) : String :=
  String.join (lines.map (· ++ "\n"))

def usage : String := textOfLines usageLines

/-! ## Faults -/

inductive CommandFault where
  | arguments (fault : ArgumentFault)
  | conflictingOutputs
  | allNeedsDirectory
  | unknownScenario (name : String)
  | polygon (error : PolygonError)
  | invalidMesh (fault : MeshFault)
  | refused (path : String)
  | noOutDirectory (fault : FileFault)
  | notWritten (fault : WriteFault)

def ArgumentFault.message : ArgumentFault → String
  | .unknownCommand name => s!"unknown command `{name}`\n\n" ++ usage
  | .missingScenario => "missing scenario name"
  | .missingValue option => s!"missing value for {option}"
  | .unknownOption name => s!"unknown option `{name}`\n\n" ++ usage

def CommandFault.message : CommandFault → String
  | .arguments fault => fault.message
  | .conflictingOutputs => "use either --out-dir or --obj/--json (not both)"
  | .allNeedsDirectory => "`run all` requires --out-dir"
  | .unknownScenario name =>
      s!"unknown scenario `{name}`\n\navailable scenarios:\n" ++
        textOfLines (Scenario.all.map fun scenario => "  " ++ scenario.name)
  | .polygon error => error.message
  | .invalidMesh fault => "mesh validation failed: " ++ fault.message
  | .refused path => s!"refusing to overwrite existing file {path} (use --overwrite)"
  | .noOutDirectory fault => "create out dir: " ++ fault.message
  | .notWritten fault => fault.message

/-! ## Terminals -/

structure Terminal where
  tree : FileTree
  stdout : String
  stderr : String

/-- A step of a command; a fault keeps the terminal as it is by then. -/
abbrev Action := ExceptT CommandFault (StateM Terminal)

def print (text : String) : Action Unit :=
  modify fun terminal => { terminal with stdout := terminal.stdout ++ text }

def printError (text : String) : Action Unit :=
  modify fun terminal => { terminal with stderr := terminal.stderr ++ text }

/-- Writes an output file, unless one is there already and must be kept. -/
def writeOutput (path content : String) (overwrite : Bool) : Action Unit := do
  let terminal ← get
  if (terminal.tree.find? path).isSome && !overwrite then
    throw (.refused path)
  let (outcome, tree) := terminal.tree.write path content
  set { terminal with tree }
  match outcome with
  | .error fault => throw (.notWritten fault)
  | .ok () => printError s!"wrote {path}\n"

def writeObj (path : String) (output : Scenario.Output) (overwrite : Bool) : Action Unit := do
  match output.mesh.validate with
  | .error fault => throw (.invalidMesh fault)
  | .ok () => writeOutput path (output.mesh.objText output.name) overwrite

def outputDocument (output : Scenario.Output) : Json.Document :=
  .object
    [("name", .text output.name),
      ("mesh", output.mesh.document),
      ("diagnostics", output.diagnostics.document)]

def writeJson (path : String) (output : Scenario.Output) (overwrite : Bool) : Action Unit :=
  writeOutput path ((outputDocument output).prettyText ++ "\n") overwrite

def report (output : Scenario.Output) : Action Unit := do
  for record in output.log do
    let level := record.level.name
    let text := record.text
    printError s!"[{level}] {text}\n"
  let name := output.name
  let vertices := output.mesh.vertexCount
  let triangles := output.mesh.triangleCount
  let summary := output.diagnostics.summary
  printError s!"{name}: vertices={vertices} triangles={triangles} | {summary}\n"

/-! ## Commands -/

def findScenario (name : String) : Action Scenario :=
  match Scenario.ofName? name with
  | some scenario => pure scenario
  | none => throw (.unknownScenario name)

def runScenario (scenario : Scenario) (options : BuildOptions) : Action Scenario.Output :=
  match scenario.run options with
  | .ok output => pure output
  | .error error => throw (.polygon error)

def runIntoDirectory (request : Request) (directory : String) : Action Unit := do
  if request.objPath.isSome || request.jsonPath.isSome then
    throw .conflictingOutputs
  let terminal ← get
  let (outcome, tree) := terminal.tree.makeDirectories directory
  set { terminal with tree }
  if let .error fault := outcome then
    throw (.noOutDirectory fault)
  let scenarios ←
    if request.scenario = "all" then pure Scenario.all
    else do pure [← findScenario request.scenario]
  for scenario in scenarios do
    let output ← runScenario scenario request.options
    let path := joinPath directory output.name
    writeObj (path ++ ".obj") output request.overwrite
    writeJson (path ++ ".json") output request.overwrite
    report output

def runSingle (request : Request) : Action Unit := do
  if request.scenario = "all" then
    throw .allNeedsDirectory
  let scenario ← findScenario request.scenario
  let output ← runScenario scenario request.options
  if let some path := request.objPath then
    writeObj path output request.overwrite
  if let some path := request.jsonPath then
    writeJson path output request.overwrite
  if request.objPath.isNone && request.jsonPath.isNone then
    print output.diagnostics.report
  report output

def execute : Command → Action Unit
  | .help => print (usage ++ "\n")
  | .list => print (textOfLines (Scenario.all.map Scenario.name))
  | .run request =>
      match request.outDir with
      | some directory => runIntoDirectory request directory
      | none => runSingle request

def perform (arguments : List String) : Action Unit :=
  match readCommand arguments with
  | .ok command => execute command
  | .error fault => throw (.arguments fault)

structure Ending where
  exitCode : UInt32
  terminal : Terminal

/-- Runs a command line on a tree of files. -/
def run (arguments : List String) (tree : FileTree) : Ending :=
  match (perform arguments).run ⟨tree, "", ""⟩ with
  | (.ok (), terminal) => ⟨0, terminal⟩
  | (.error fault, terminal) =>
      let message := fault.message
      ⟨1, { terminal with stderr := terminal.stderr ++ s!"polygon_cli error: {message}\n" }⟩

def outputPaths (arguments : List String) : List String :=
  match readCommand arguments with
  | .ok (.run request) =>
      let inDirectory := request.outDir.toList.flatMap fun directory =>
        Scenario.all.flatMap fun scenario =>
          let path := joinPath directory scenario.name
          [path ++ ".obj", path ++ ".json"]
      inDirectory ++ request.objPath.toList ++ request.jsonPath.toList
  | _ => []

end PlanarMesh.CommandLine

import PlanarMesh.Proofs.CommandLine.Outputs

/-! # Outputs of a request

A request names its output files. Each is written in turn, after its directory was made.
-/

namespace PlanarMesh.CommandLine

namespace Request

variable {request : Request}

def scenarios (request : Request) : List Scenario :=
  if request.scenario = "all" then Scenario.all
  else (Scenario.ofName? request.scenario).toList

def outputsOf (request : Request) (output : Scenario.Output) : List OutputFile :=
  match request.outDir with
  | some directory =>
      [(joinPath directory output.name ++ ".obj", output.mesh.objText output.name),
        (joinPath directory output.name ++ ".json", jsonText output)]
  | none =>
      request.objPath.toList.map (fun path => (path, output.mesh.objText output.name)) ++
        request.jsonPath.toList.map fun path => (path, jsonText output)

def outputs (request : Request) : List OutputFile :=
  request.scenarios.flatMap fun scenario =>
    match scenario.run request.options with
    | .ok output => request.outputsOf output
    | .error _ => []

end Request

variable {request : Request} {directory : String} {terminal : Terminal}

/-! ## Into a directory -/

def writeScenario (request : Request) (directory : String) (scenario : Scenario) :
    Action Unit := do
  let output ← runScenario scenario request.options
  let path := joinPath directory output.name
  writeObj (path ++ ".obj") output request.overwrite
  writeJson (path ++ ".json") output request.overwrite
  report output

theorem carries_writeScenario (toDirectory : request.outDir = some directory)
    (scenario : Scenario) : Carries (writeScenario request directory scenario) request.overwrite
      (match scenario.run request.options with
        | .ok output => request.outputsOf output
        | .error _ => []) := by
  rcases scenario.exists_output request.options with ⟨output, ran, _, valid⟩
  rw [writeScenario, runScenario, ran, pure_bind]
  simp only [Request.outputsOf, toDirectory]
  exact (carries_writeObj valid _).bind fun _ =>
    (carries_writeJson _ output).bind fun _ => carries_report output

def writeScenarios (request : Request) (directory : String) : Action Unit := do
  if request.scenarios.isEmpty then
    throw (.unknownScenario request.scenario)
  forIn request.scenarios () fun scenario _ => do
    writeScenario request directory scenario
    pure (.yield ())

section Directory

variable (noObj : request.objPath = none) (noJson : request.jsonPath = none)
include noObj noJson

theorem run_runIntoDirectory_of_error {fault : FileFault} {tree : FileTree}
    (refused : terminal.tree.makeDirectories directory = (.error fault, tree)) :
    (runIntoDirectory request directory).run terminal =
      (.error (.noOutDirectory fault), { terminal with tree }) := by
  have known : (get : Action Terminal).run terminal = (.ok terminal, terminal) := rfl
  rw [runIntoDirectory, noObj, noJson, if_neg (by decide), run_bind, known]
  simp only [refused]
  rfl

theorem run_runIntoDirectory_of_ok {tree : FileTree}
    (made : terminal.tree.makeDirectories directory = (.ok (), tree)) :
    (runIntoDirectory request directory).run terminal =
      (writeScenarios request directory).run { terminal with tree } := by
  have known : (get : Action Terminal).run terminal = (.ok terminal, terminal) := rfl
  rw [runIntoDirectory, noObj, noJson, if_neg (by decide), run_bind, known]
  simp only [made, writeScenarios, writeScenario, bind_assoc, Request.scenarios]
  by_cases isAll : request.scenario = "all"
  · simp only [if_pos isAll, pure_bind, bind_pure_unit]
    rfl
  · simp only [if_neg isAll, findScenario, bind_pure_unit]
    cases Scenario.ofName? request.scenario with
    | none => rfl
    | some scenario =>
        simp only [pure_bind]
        rfl

end Directory

theorem carries_writeScenarios (toDirectory : request.outDir = some directory)
    (known : request.scenarios ≠ []) :
    Carries (writeScenarios request directory) request.overwrite request.outputs := by
  rw [writeScenarios, if_neg (by simpa using known)]
  exact carries_forIn (carries_writeScenario toDirectory) _

/-! ## Single files -/

theorem carries_runSingle (nowhere : request.outDir = none) (notAll : request.scenario ≠ "all")
    (known : request.scenarios ≠ []) :
    Carries (runSingle request) request.overwrite request.outputs := by
  rw [Request.scenarios, if_neg notAll] at known
  cases named : Scenario.ofName? request.scenario with
  | none => simp [named] at known
  | some scenario =>
      rcases scenario.exists_output request.options with ⟨output, ran, _, valid⟩
      have planned : request.outputs = request.outputsOf output := by
        rw [Request.outputs, Request.scenarios, if_neg notAll, named]
        simp [ran]
      rw [planned, Request.outputsOf, nowhere, runSingle, if_neg notAll, findScenario, named,
        pure_bind]
      simp only [runScenario, ran, pure_bind]
      cases request.objPath with
      | none =>
          cases request.jsonPath with
          | none => exact (carries_print _).bind fun _ => carries_report output
          | some jsonPath =>
              exact (carries_writeJson jsonPath output).bind fun _ => carries_report output
      | some objPath =>
          refine (carries_writeObj valid objPath).bind fun _ => ?_
          cases request.jsonPath with
          | none => exact carries_report output
          | some jsonPath =>
              exact (carries_writeJson jsonPath output).bind fun _ => carries_report output

/-! ## Output paths -/

theorem mem_outputs {output : OutputFile} (member : output ∈ request.outputs) :
    ∃ scenario result, Scenario.run scenario request.options = .ok result ∧
      result.name = scenario.name ∧ output ∈ request.outputsOf result := by
  rw [Request.outputs, List.mem_flatMap] at member
  rcases member with ⟨scenario, _, member⟩
  rcases scenario.exists_output request.options with ⟨result, ran, named, _⟩
  rw [ran] at member
  exact ⟨scenario, result, ran, named, member⟩

theorem outputs_ne_nil (toDirectory : request.outDir = some directory)
    (known : request.scenarios ≠ []) : request.outputs ≠ [] := by
  rcases List.exists_mem_of_ne_nil _ known with ⟨scenario, member⟩
  rcases scenario.exists_output request.options with ⟨result, ran, _, _⟩
  have inside : (joinPath directory result.name ++ ".obj", result.mesh.objText result.name) ∈
      request.outputs := by
    rw [Request.outputs, List.mem_flatMap]
    refine ⟨scenario, member, ?_⟩
    simp [ran, Request.outputsOf, toDirectory]
  exact List.ne_nil_of_mem inside

theorem joinPath_append (directory name ending : String) :
    joinPath directory name ++ ending = joinPath directory (name ++ ending) := by
  rw [joinPath, joinPath]
  split <;> simp only [String.append_assoc]

theorem Scenario.plain_name (scenario : Scenario) :
    '/' ∉ (scenario.name ++ ".obj").toList ∧ '/' ∉ (scenario.name ++ ".json").toList := by
  cases scenario <;> decide

theorem exists_name_of_mem_outputs (toDirectory : request.outDir = some directory)
    {output : OutputFile} (member : output ∈ request.outputs) :
    ∃ name : String, '/' ∉ name.toList ∧ output.1 = joinPath directory name := by
  rcases mem_outputs member with ⟨scenario, result, _, named, member⟩
  simp only [Request.outputsOf, toDirectory, List.mem_cons, List.not_mem_nil, or_false] at member
  rcases member with rfl | rfl
  · exact ⟨scenario.name ++ ".obj", scenario.plain_name.1, by rw [joinPath_append, named]⟩
  · exact ⟨scenario.name ++ ".json", scenario.plain_name.2, by rw [joinPath_append, named]⟩

theorem path_of_mem_outputs (nowhere : request.outDir = none) {output : OutputFile}
    (member : output ∈ request.outputs) :
    request.objPath = some output.1 ∨ request.jsonPath = some output.1 := by
  rcases mem_outputs member with ⟨_, result, _, _, member⟩
  simp only [Request.outputsOf, nowhere, List.mem_append, List.mem_map, Option.mem_toList]
    at member
  rcases member with ⟨path, given, rfl⟩ | ⟨path, given, rfl⟩
  · exact Or.inl given
  · exact Or.inr given

end PlanarMesh.CommandLine

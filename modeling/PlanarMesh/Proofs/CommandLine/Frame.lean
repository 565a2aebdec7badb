import PlanarMesh.Proofs.CommandLine.Closed
import PlanarMesh.Proofs.CommandLine.Requests
import PlanarMesh.Proofs.CommandLine.Settings

/-! # What a command line leaves alone

A command line that is not a complete request leaves every file as it is. Any other
writes the first of its outputs, up to all of them, and no other file.
-/

namespace PlanarMesh.CommandLine

variable {arguments : List String} {scenario : String} {settings : List Setting}
  {request : Request} {tree start after : FileTree} {outputs written rest : List OutputFile}
  {location : Location}

/-! ## Files after writing -/

def lastAt? (location : Location) (outputs : List OutputFile) : Option String :=
  (outputs.reverse.find? fun output => locate output.1 == location).map (·.2)

theorem lastAt?_cons (output : OutputFile) (outputs : List OutputFile) :
    lastAt? location (output :: outputs) = (lastAt? location outputs).or
      (if location = locate output.1 then some output.2 else none) := by
  rw [lastAt?, lastAt?, List.reverse_cons, List.find?_append, Option.map_or]
  congr 1
  by_cases here : location = locate output.1
  · rw [if_pos here, List.find?_cons_of_pos (by simpa using here.symm)]
    rfl
  · rw [if_neg here, List.find?_cons_of_neg (by simpa using Ne.symm here)]
    rfl

theorem Wrote.fileAt? {overwrite : Bool} (wrote : Wrote overwrite tree outputs after)
    (location : Location) :
    after.fileAt? location = (lastAt? location outputs).or (tree.fileAt? location) := by
  induction wrote with
  | done => rfl
  | next allowed written _ induction =>
      rw [induction, FileTree.fileAt?_write written, lastAt?_cons, Option.or_assoc]
      congr 1
      split <;> rfl

theorem Wrote.isDirectory {overwrite : Bool} (wrote : Wrote overwrite tree outputs after)
    (directory : tree.isDirectory location = true) : after.isDirectory location = true := by
  induction wrote with
  | done => exact directory
  | next allowed written _ induction =>
      exact induction (FileTree.isDirectory_write written _ directory)

/-- A file that is lost although nothing may be overwritten was there under a path that
led nowhere. -/
theorem Wrote.mem_of_lost (wrote : Wrote false tree outputs after) {content : String}
    (existed : tree.fileAt? location = some content)
    (lost : after.fileAt? location ≠ some content) :
    ∃ output ∈ outputs, locate output.1 = location ∧
      tree.resolve? (pathOrigin output.1).1 (pathOrigin output.1).2 = none ∧
      (tree.Closed → ".." ∈ pathParts output.1) := by
  induction wrote with
  | done => exact absurd existed lost
  | @next tree middle after path text outputs allowed written _ induction =>
      by_cases here : location = locate path
      · subst here
        have missed := FileTree.resolve?_eq_none_of_write written
          (allowed.resolve_left Bool.false_ne_true) existed
        refine ⟨_, List.mem_cons_self, rfl, missed, fun closed => ?_⟩
        rcases closed.exists_name_of_write written with ⟨parts, last, whole, located⟩
        exact closed.mem_pathParts whole located missed existed
      · have remains : middle.fileAt? location = some content := by
          rw [FileTree.fileAt?_write written, if_neg here, existed]
        rcases induction remains lost with ⟨output, member, there, missed, upward⟩
        refine ⟨output, List.mem_cons_of_mem _ member, there, ?_,
          fun closed => upward (closed.write written)⟩
        cases found : tree.resolve? (pathOrigin output.1).1 (pathOrigin output.1).2 with
        | none => rfl
        | some reached =>
            rw [FileTree.resolve?_of_isDirectory (FileTree.isDirectory_write written) found]
              at missed
            cases missed

/-! ## Requests that are not complete -/

/-- Command lines that leave all files alone: no run, no scenario, an argument at which
reading stops, outputs of two kinds, no directory for many scenarios, or a scenario that
is not known. -/
inductive Idle : List String → Prop
  | nothing : Idle []
  | otherCommand {command : String} {rest : List String} (notRun : command ≠ "run") :
      Idle (command :: rest)
  | nameless : Idle ["run"]
  | stopped {scenario : String} {settings : List Setting} {stop : List String}
      (stops : Stops stop) :
      Idle ("run" :: scenario :: (settings.flatMap Setting.words ++ stop))
  | conflicting {scenario directory path : String} {settings : List Setting}
      (toDirectory : .outDir directory ∈ settings)
      (single : .objPath path ∈ settings ∨ .jsonPath path ∈ settings) :
      Idle (runWords scenario settings)
  | allWithoutDirectory {settings : List Setting}
      (nowhere : ∀ directory, .outDir directory ∉ settings) : Idle (runWords "all" settings)
  | unknownScenario {scenario : String} {settings : List Setting} (notAll : scenario ≠ "all")
      (unknown : ∀ known : Scenario, known.name ≠ scenario) : Idle (runWords scenario settings)

theorem exists_of_not_idle (busy : ¬ Idle arguments) :
    ∃ scenario settings, arguments = runWords scenario settings := by
  rcases arguments with _ | ⟨command, arguments⟩
  · exact (busy .nothing).elim
  · by_cases isRun : command = "run"
    · subst isRun
      rcases arguments with _ | ⟨scenario, arguments⟩
      · exact (busy .nameless).elim
      · rcases exists_settings arguments with ⟨settings, stop, rfl, isEnd | stops⟩
        · exact ⟨scenario, settings, by rw [isEnd, List.append_nil, runWords]⟩
        · exact (busy (.stopped stops)).elim
    · exact (busy (.otherCommand isRun)).elim

def Request.isComplete (request : Request) : Bool :=
  !request.scenarios.isEmpty &&
    match request.outDir with
    | some _ => request.objPath.isNone && request.jsonPath.isNone
    | none => request.scenario != "all"

theorem scenarios_eq_nil_iff : (requestOf scenario settings).scenarios = [] ↔
    scenario ≠ "all" ∧ ∀ known : Scenario, known.name ≠ scenario := by
  have listed : ∀ known : Scenario, known ∈ Scenario.all := by
    intro known
    cases known <;> decide
  rw [Request.scenarios]
  split
  · rename_i isAll
    exact iff_of_false (by decide) fun unknown => unknown.1 isAll
  · rename_i notAll
    rw [Option.toList_eq_nil_iff, Scenario.ofName?, List.find?_eq_none]
    simp only [beq_iff_eq]
    exact ⟨fun unknown => ⟨notAll, fun known => unknown known (listed known)⟩,
      fun unknown known _ => unknown.2 known⟩

theorem isComplete_of_not_idle (busy : ¬ Idle (runWords scenario settings)) :
    (requestOf scenario settings).isComplete = true := by
  have known : (requestOf scenario settings).scenarios.isEmpty = false := by
    rw [List.isEmpty_eq_false_iff]
    intro noScenarios
    rw [scenarios_eq_nil_iff] at noScenarios
    exact busy (.unknownScenario noScenarios.1 noScenarios.2)
  rw [Request.isComplete, known]
  cases outDir : (requestOf scenario settings).outDir with
  | some directory =>
      have noObj : (requestOf scenario settings).objPath = none :=
        objPath_eq_none_iff.mpr fun path member =>
          busy (.conflicting (mem_of_outDir outDir) (Or.inl member))
      have noJson : (requestOf scenario settings).jsonPath = none :=
        jsonPath_eq_none_iff.mpr fun path member =>
          busy (.conflicting (mem_of_outDir outDir) (Or.inr member))
      rw [noObj, noJson]
      rfl
  | none =>
      have notAll : scenario ≠ "all" := by
        rintro rfl
        exact busy (.allWithoutDirectory (outDir_eq_none_iff.mp outDir))
      simpa [requestOf] using notAll

theorem not_isComplete_of_idle (idle : Idle arguments)
    (read : readCommand arguments = .ok (.run request)) : request.isComplete = false := by
  cases idle with
  | nothing => cases read
  | otherCommand notRun => exact (readCommand_of_ne notRun _ _ read).elim
  | nameless => cases read
  | stopped stops => exact (readCommand_of_stops stops _ read).elim
  | @conflicting scenario directory path settings toDirectory single =>
      rw [readCommand_runWords] at read
      cases read
      cases outDir : (requestOf scenario settings).outDir with
      | none => exact (outDir_eq_none_iff.mp outDir directory toDirectory).elim
      | some other =>
          simp only [Request.isComplete, outDir, Bool.and_eq_false_iff, Option.isNone_eq_false_iff,
            Option.isSome_iff_ne_none]
          exact Or.inr (single.imp (fun member none => objPath_eq_none_iff.mp none path member)
            fun member none => jsonPath_eq_none_iff.mp none path member)
  | allWithoutDirectory nowhere =>
      rw [readCommand_runWords] at read
      cases read
      rw [Request.isComplete, outDir_eq_none_iff.mpr nowhere]
      exact Bool.and_false _
  | unknownScenario notAll unknown =>
      rw [readCommand_runWords] at read
      cases read
      rw [Request.isComplete, scenarios_eq_nil_iff.mpr ⟨notAll, unknown⟩]
      rfl

/-- A command line is idle just if no complete request is read from it. -/
theorem idle_iff : Idle arguments ↔ ∀ request,
    readCommand arguments = .ok (.run request) → request.isComplete = false := by
  refine ⟨fun idle request read => not_isComplete_of_idle idle read, fun incomplete => ?_⟩
  refine Classical.byContradiction fun busy => ?_
  rcases exists_of_not_idle busy with ⟨scenario, settings, rfl⟩
  have complete := isComplete_of_not_idle busy
  rw [incomplete _ (readCommand_runWords scenario settings)] at complete
  cases complete

/-! ## Running -/

theorem tree_run (arguments : List String) (tree : FileTree) :
    (run arguments tree).terminal.tree =
      ((perform arguments).run ⟨tree, "", ""⟩).2.tree := by
  rw [run]
  split <;> simp_all

theorem exitCode_run (arguments : List String) (tree : FileTree) :
    (run arguments tree).exitCode =
      match ((perform arguments).run ⟨tree, "", ""⟩).1 with
      | .ok _ => 0
      | .error _ => 1 := by
  rw [run]
  split <;> simp_all

theorem tree_of_conflict {directory : String}
    (conflicting : (request.objPath.isNone && request.jsonPath.isNone) = false)
    (terminal : Terminal) :
    ((runIntoDirectory request directory).run terminal).2.tree = terminal.tree := by
  rw [runIntoDirectory, if_pos]
  · rfl
  · cases obj : request.objPath with
    | some path => rfl
    | none =>
        rw [obj] at conflicting
        simpa using conflicting

theorem fileAt?_of_incomplete (incomplete : request.isComplete = false) (terminal : Terminal)
    (location : Location) :
    ((execute (.run request)).run terminal).2.tree.fileAt? location =
      terminal.tree.fileAt? location := by
  rw [execute]
  rw [Request.isComplete] at incomplete
  cases outDir : request.outDir with
  | none =>
      rw [outDir] at incomplete
      by_cases isAll : request.scenario = "all"
      · simp only [runSingle, if_pos isAll]
        rfl
      · have unknown : Scenario.ofName? request.scenario = none := by
          simpa [Request.scenarios, isAll] using incomplete
        simp only [runSingle, if_neg isAll, findScenario, unknown]
        rfl
  | some directory =>
      simp only [outDir] at incomplete ⊢
      cases single : request.objPath.isNone && request.jsonPath.isNone with
      | false => rw [tree_of_conflict single]
      | true =>
          rw [single, Bool.and_true, Bool.not_eq_false'] at incomplete
          rw [Bool.and_eq_true, Option.isNone_iff_eq_none, Option.isNone_iff_eq_none] at single
          have grows := terminal.tree.grows_makeDirectories directory
          rcases made : terminal.tree.makeDirectories directory with ⟨fault | _, tree⟩
          · rw [made] at grows
            rw [run_runIntoDirectory_of_error single.1 single.2 made]
            exact grows.fileAt? location
          · rw [made] at grows
            rw [run_runIntoDirectory_of_ok single.1 single.2 made]
            simp only [writeScenarios, if_pos incomplete]
            exact grows.fileAt? location

theorem fileAt?_run_of_idle (idle : Idle arguments) (tree : FileTree) (location : Location) :
    (run arguments tree).terminal.tree.fileAt? location = tree.fileAt? location := by
  rw [tree_run, perform]
  cases read : readCommand arguments with
  | error fault => rfl
  | ok command =>
      cases command with
      | help => rfl
      | list => rfl
      | run request =>
          exact fileAt?_of_incomplete (not_isComplete_of_idle idle read) ⟨tree, "", ""⟩ location

/-! ## Effects -/

/-- What a run does to the files: it writes some first part of the outputs it was asked for,
each completely, and it stops there only if the next may not or cannot be written. -/
structure Frame (request : Request) (tree : FileTree) (ending : Ending)
    (written rest : List OutputFile) : Prop where
  planned : request.outputs = written ++ rest
  files : ∀ location, ending.terminal.tree.fileAt? location =
    (lastAt? location written).or (tree.fileAt? location)
  exitCode : ending.exitCode = if rest.isEmpty then 0 else 1
  stopped : ∀ output later, rest = output :: later →
    (∃ before : FileTree, before.Grows ending.terminal.tree ∧
      IsBlocked request.overwrite before output ending.terminal.tree) ∨
      ∃ directory fault, request.outDir = some directory ∧
        tree.makeDirectories directory = (.error fault, ending.terminal.tree)
  /-- Without leave to overwrite, a file is replaced only behind a path of its own that led
  nowhere, through a directory that was missing and up again. -/
  kept : request.overwrite = false → ∀ location content,
    tree.fileAt? location = some content →
    ending.terminal.tree.fileAt? location = some content ∨
      ∃ path, (request.objPath = some path ∨ request.jsonPath = some path) ∧
        locate path = location ∧
        tree.resolve? (pathOrigin path).1 (pathOrigin path).2 = none ∧
        (tree.Closed → ".." ∈ pathParts path)

/-- Only a path of its own can lead nowhere when writing starts. -/
def Exposes (request : Request) (tree start : FileTree) : Prop :=
  ∀ output ∈ request.outputs,
    start.resolve? (pathOrigin output.1).1 (pathOrigin output.1).2 = none →
      start = tree ∧ (request.objPath = some output.1 ∨ request.jsonPath = some output.1)

theorem Wrote.kept (wrote : Wrote request.overwrite start written after)
    (grows : tree.Grows start) (exposed : Exposes request tree start)
    (planned : request.outputs = written ++ rest) (noOverwrite : request.overwrite = false)
    {content : String} (existed : tree.fileAt? location = some content) :
    after.fileAt? location = some content ∨
      ∃ path, (request.objPath = some path ∨ request.jsonPath = some path) ∧
        locate path = location ∧
        tree.resolve? (pathOrigin path).1 (pathOrigin path).2 = none ∧
        (tree.Closed → ".." ∈ pathParts path) := by
  rw [noOverwrite] at wrote
  by_cases same : after.fileAt? location = some content
  · exact Or.inl same
  · rw [← grows.fileAt? location] at existed
    rcases wrote.mem_of_lost existed same with ⟨output, member, there, missed, upward⟩
    have asked : output ∈ request.outputs := planned ▸ List.mem_append_left _ member
    rcases exposed output asked missed with ⟨rfl, given⟩
    exact Or.inr ⟨output.1, given, there, missed, upward⟩

theorem frame_of_ends (grows : tree.Grows start) (exposed : Exposes request tree start)
    (ends : Ends request.overwrite start request.outputs
      ((perform arguments).run ⟨tree, "", ""⟩)) :
    ∃ written rest, Frame request tree (run arguments tree) written rest := by
  have sameTree := tree_run arguments tree
  have sameCode := exitCode_run arguments tree
  generalize (perform arguments).run ⟨tree, "", ""⟩ = result at *
  cases ends with
  | complete wrote =>
      rw [← sameTree] at wrote
      exact ⟨request.outputs, [], {
        planned := (List.append_nil _).symm
        files := fun location => by rw [wrote.fileAt?, grows.fileAt?]
        exitCode := sameCode
        stopped := fun _ _ none => by cases none
        kept := fun noOverwrite _ _ existed =>
          wrote.kept grows exposed (List.append_nil _).symm noOverwrite existed }⟩
  | @stopped fault middle terminal written later output whole wrote blocked =>
      rw [← sameTree] at blocked
      refine ⟨written, output :: later, {
        planned := whole
        files := fun location => by rw [blocked.grows.fileAt?, wrote.fileAt?, grows.fileAt?]
        exitCode := sameCode
        stopped := fun next others equal => ?_
        kept := fun noOverwrite location _ existed => ?_ }⟩
      · cases equal
        exact Or.inl ⟨middle, blocked.grows, blocked⟩
      · rw [blocked.grows.fileAt? location]
        exact wrote.kept grows exposed whole noOverwrite existed

theorem exists_frame (complete : request.isComplete = true)
    (performed : perform arguments = execute (.run request)) (tree : FileTree) :
    ∃ written rest, Frame request tree (run arguments tree) written rest := by
  rw [Request.isComplete, Bool.and_eq_true, Bool.not_eq_true', List.isEmpty_eq_false_iff]
    at complete
  rcases complete with ⟨known, complete⟩
  cases outDir : request.outDir with
  | none =>
      have notAll : request.scenario ≠ "all" := by
        rw [outDir] at complete
        simpa using complete
      refine frame_of_ends (FileTree.Grows.refl tree)
        (fun output member _ => ⟨rfl, path_of_mem_outputs outDir member⟩) ?_
      rw [performed, execute, outDir]
      exact carries_runSingle outDir notAll known ⟨tree, "", ""⟩
  | some directory =>
      rw [outDir, Bool.and_eq_true, Option.isNone_iff_eq_none, Option.isNone_iff_eq_none]
        at complete
      have ending : (perform arguments).run ⟨tree, "", ""⟩ =
          (runIntoDirectory request directory).run ⟨tree, "", ""⟩ := by
        rw [performed, execute, outDir]
      have grows := tree.grows_makeDirectories directory
      rcases made : tree.makeDirectories directory with ⟨fault | _, start⟩
      · rw [made] at grows
        have sameTree := tree_run arguments tree
        have sameCode := exitCode_run arguments tree
        rw [ending, run_runIntoDirectory_of_error complete.1 complete.2 made] at sameTree sameCode
        refine ⟨[], request.outputs, {
          planned := rfl
          files := fun location => by rw [sameTree, grows.fileAt?]; rfl
          exitCode := ?_
          stopped := fun _ _ _ => Or.inr ⟨directory, fault, outDir, by rw [sameTree, made]⟩
          kept := fun _ location content existed =>
            Or.inl (by rw [sameTree, grows.fileAt?, existed]) }⟩
        rw [if_neg (by simpa using outputs_ne_nil outDir known)]
        exact sameCode
      · rw [made] at grows
        refine frame_of_ends grows ?_ ?_
        · intro output member missed
          rcases exists_name_of_mem_outputs outDir member with ⟨name, plain, located⟩
          have reached := FileTree.resolve?_joinPath plain made
          rw [← located, missed] at reached
          cases reached
        · rw [ending, run_runIntoDirectory_of_ok complete.1 complete.2 made]
          exact carries_writeScenarios outDir known ⟨start, "", ""⟩

/-- A command line that is not a complete request leaves every file as it is. Any other
consists of a scenario and settings, and writes what they ask for. -/
theorem run_frame (arguments : List String) (tree : FileTree) :
    (Idle arguments → ∀ location,
      (run arguments tree).terminal.tree.fileAt? location = tree.fileAt? location) ∧
    (¬ Idle arguments → ∃ scenario settings written rest,
      arguments = runWords scenario settings ∧
        Frame (requestOf scenario settings) tree (run arguments tree) written rest) := by
  refine ⟨fun idle location => fileAt?_run_of_idle idle tree location, fun busy => ?_⟩
  rcases exists_of_not_idle busy with ⟨scenario, settings, rfl⟩
  have performed : perform (runWords scenario settings) =
      execute (.run (requestOf scenario settings)) := by
    rw [perform, readCommand_runWords]
  rcases exists_frame (isComplete_of_not_idle busy) performed tree with ⟨written, rest, frame⟩
  exact ⟨scenario, settings, written, rest, rfl, frame⟩

/-! ## A file that is lost -/

instance : Decidable (Idle arguments) :=
  decidable_of_iff ((match readCommand arguments with
      | .ok (.run request) => request.isComplete
      | _ => false) = false) <| by
    rw [idle_iff]
    split
    · rename_i request read
      refine ⟨fun incomplete other equal => ?_, fun incomplete => incomplete request read⟩
      rw [read] at equal
      cases equal
      exact incomplete
    · rename_i notRun
      exact iff_of_true rfl fun request read => (notRun request read).elim

def keepsake : FileTree := .ofFiles [("keep.txt", "old")]

def roundabout : List String := runWords "unit_square" [.objPath "x/../keep.txt"]

theorem run_frame_roundabout : ¬ Idle roundabout ∧ ∃ scenario settings written rest,
    roundabout = runWords scenario settings ∧
      Frame (requestOf scenario settings) keepsake (run roundabout keepsake) written rest :=
  ⟨by decide, (run_frame roundabout keepsake).2 (by decide)⟩

/-- The check for existing files is made before the directories are. -/
theorem keepsake_not_kept : "--overwrite" ∉ roundabout ∧
    keepsake.fileAt? ["keep.txt"] = some "old" ∧
    (run roundabout keepsake).exitCode = 0 ∧
    (run roundabout keepsake).terminal.tree.fileAt? ["keep.txt"] ≠ some "old" := by
  decide +kernel

end PlanarMesh.CommandLine

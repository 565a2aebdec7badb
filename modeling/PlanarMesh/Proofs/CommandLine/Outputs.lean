import PlanarMesh.CommandLine.Run
import PlanarMesh.Proofs.CommandLine.Tree

/-! # Writing outputs

A command writes its outputs in order, and stops at the first that it may not or cannot
write.
-/

namespace PlanarMesh.CommandLine

abbrev OutputFile := String × String

/-- Outputs written one after the other, each over no file unless that is allowed. -/
inductive Wrote (overwrite : Bool) : FileTree → List OutputFile → FileTree → Prop
  | done (tree : FileTree) : Wrote overwrite tree [] tree
  | next {tree middle after : FileTree} {path content : String} {outputs : List OutputFile}
      (allowed : overwrite = true ∨ tree.find? path = none)
      (written : tree.write path content = (.ok (), middle))
      (further : Wrote overwrite middle outputs after) :
      Wrote overwrite tree ((path, content) :: outputs) after

/-- An output is refused, and nothing happens, or the files have no place for it. -/
def IsBlocked (overwrite : Bool) (tree : FileTree) (output : OutputFile) (after : FileTree) :
    Prop :=
  overwrite = false ∧ (tree.find? output.1).isSome = true ∧ after = tree ∨
    ∃ fault, tree.write output.1 output.2 = (.error fault, after)

/-- How an action on outputs can end: it succeeds with all of them written, or it fails and
stops before the first that is blocked. -/
inductive Ends (overwrite : Bool) (tree : FileTree) (outputs : List OutputFile) {α : Type} :
    Except CommandFault α × Terminal → Prop
  | complete {value : α} {terminal : Terminal}
      (wrote : Wrote overwrite tree outputs terminal.tree) :
      Ends overwrite tree outputs (.ok value, terminal)
  | stopped {fault : CommandFault} {middle : FileTree} {terminal : Terminal}
      {written later : List OutputFile} {output : OutputFile}
      (whole : outputs = written ++ output :: later)
      (wrote : Wrote overwrite tree written middle)
      (blocked : IsBlocked overwrite middle output terminal.tree) :
      Ends overwrite tree outputs (.error fault, terminal)

/-- An action writes certain outputs, in their order, and changes no other file. -/
def Carries {α : Type} (action : Action α) (overwrite : Bool) (outputs : List OutputFile) :
    Prop :=
  ∀ terminal : Terminal, Ends overwrite terminal.tree outputs (action.run terminal)

variable {overwrite : Bool} {tree middle after : FileTree} {outputs more : List OutputFile}

theorem Wrote.append (first : Wrote overwrite tree outputs middle)
    (second : Wrote overwrite middle more after) :
    Wrote overwrite tree (outputs ++ more) after := by
  induction first with
  | done => exact second
  | next allowed written _ induction => exact .next allowed written (induction second)

theorem IsBlocked.grows {output : OutputFile} (blocked : IsBlocked overwrite tree output after) :
    tree.Grows after := by
  rcases blocked with ⟨_, _, rfl⟩ | ⟨fault, failed⟩
  · exact .refl _
  · exact FileTree.grows_of_write failed

/-! ## Actions -/

theorem run_bind {α β : Type} (action : Action α) (next : α → Action β) (terminal : Terminal) :
    (action >>= next).run terminal =
      match action.run terminal with
      | (.ok value, middle) => (next value).run middle
      | (.error fault, middle) => (.error fault, middle) := by
  rw [ExceptT.run_bind]
  simp only [bind, StateT.bind]
  rcases action.run terminal with ⟨outcome, middle⟩
  cases outcome <;> rfl

theorem carries_pure {α : Type} (value : α) : Carries (pure value : Action α) overwrite [] :=
  fun _ => .complete (.done _)

theorem Carries.bind {α β : Type} {action : Action α} {next : α → Action β}
    (first : Carries action overwrite outputs)
    (second : ∀ value, Carries (next value) overwrite more) :
    Carries (action >>= next) overwrite (outputs ++ more) := by
  intro terminal
  rw [run_bind]
  have ending := first terminal
  generalize action.run terminal = result at ending
  cases ending with
  | @complete value middle wrote =>
      have further := second value middle
      dsimp only
      generalize (next value).run middle = result at further
      cases further with
      | complete alsoWrote => exact .complete (wrote.append alsoWrote)
      | stopped whole alsoWrote blocked =>
          exact .stopped (by rw [whole, List.append_assoc]) (wrote.append alsoWrote) blocked
  | stopped whole wrote blocked =>
      exact .stopped (by rw [whole, List.append_assoc, List.cons_append]) wrote blocked

theorem carries_print (text : String) : Carries (print text) overwrite [] :=
  fun _ => .complete (.done _)

theorem carries_printError (text : String) : Carries (printError text) overwrite [] :=
  fun _ => .complete (.done _)

theorem run_writeOutput (path content : String) (overwrite : Bool) (terminal : Terminal) :
    (writeOutput path content overwrite).run terminal =
      if (terminal.tree.find? path).isSome && !overwrite then (.error (.refused path), terminal)
      else match terminal.tree.write path content with
        | (.error fault, tree) => (.error (.notWritten fault), { terminal with tree })
        | (.ok (), tree) => (printError s!"wrote {path}\n").run { terminal with tree } := by
  have known : (get : Action Terminal).run terminal = (.ok terminal, terminal) := rfl
  rw [writeOutput, run_bind, known]
  dsimp only
  split
  · rfl
  · rcases terminal.tree.write path content with ⟨fault | _, tree⟩
    · rfl
    · rfl

theorem find?_of_run_writeOutput {path content : String} {terminal ending : Terminal}
    (wrote : (writeOutput path content overwrite).run terminal = (.ok (), ending)) :
    ending.tree.find? path = some (.file content) := by
  rw [run_writeOutput] at wrote
  split at wrote
  · cases wrote
  · rcases written : terminal.tree.write path content with ⟨fault | _, tree⟩
    · rw [written] at wrote
      cases wrote
    · rw [written] at wrote
      cases wrote
      exact FileTree.find?_write written

theorem carries_writeOutput (path content : String) :
    Carries (writeOutput path content overwrite) overwrite [(path, content)] := by
  intro terminal
  rw [run_writeOutput]
  by_cases refused : ((terminal.tree.find? path).isSome && !overwrite) = true
  · rw [if_pos refused]
    rw [Bool.and_eq_true, Bool.not_eq_true'] at refused
    exact .stopped (List.nil_append _).symm (.done _) (Or.inl ⟨refused.2, refused.1, rfl⟩)
  · rw [if_neg refused]
    rcases written : terminal.tree.write path content with ⟨fault | _, tree⟩
    · exact .stopped (List.nil_append _).symm (.done _) (Or.inr ⟨fault, written⟩)
    · have allowed : overwrite = true ∨ terminal.tree.find? path = none := by
        cases overwrite <;> simp_all
      exact .complete (.next allowed written (.done _))

theorem carries_writeObj {output : Scenario.Output} (valid : output.mesh.validate = .ok ())
    (path : String) : Carries (writeObj path output overwrite) overwrite
      [(path, output.mesh.objText output.name)] := by
  rw [writeObj, valid]
  exact carries_writeOutput path _

def jsonText (output : Scenario.Output) : String :=
  (outputDocument output).prettyText ++ "\n"

theorem carries_writeJson (path : String) (output : Scenario.Output) :
    Carries (writeJson path output overwrite) overwrite [(path, jsonText output)] :=
  carries_writeOutput path _

theorem carries_forIn {α : Type} {action : α → Action Unit} {outputsOf : α → List OutputFile}
    (round : ∀ value, Carries (action value) overwrite (outputsOf value)) (values : List α) :
    Carries (forIn values () fun value _ => do action value; pure (.yield ())) overwrite
      (values.flatMap outputsOf) := by
  induction values with
  | nil => exact carries_pure ()
  | cons value values induction =>
      rw [List.forIn_cons, List.flatMap_cons, bind_assoc]
      simp only [pure_bind]
      exact (round value).bind fun _ => induction

theorem carries_report (output : Scenario.Output) : Carries (report output) overwrite [] := by
  have loop := carries_forIn (fun record : Record =>
    show Carries (printError s!"[{record.level.name}] {record.text}\n") overwrite [] from
      carries_printError _) output.log
  rw [List.flatMap_eq_nil_iff.mpr fun _ _ => rfl] at loop
  exact loop.bind fun _ => carries_printError _

/-! ## Scenarios -/

theorem Scenario.validates_run (scenario : Scenario) (tessellate optimize : Bool) :
    ((scenario.run ⟨tessellate, optimize⟩).toOption.any fun output =>
      output.mesh.validate.toOption.isSome) = true := by
  revert tessellate optimize
  cases scenario <;> decide +kernel

theorem Scenario.name_run (scenario : Scenario) {options : BuildOptions}
    {output : Scenario.Output} (ran : scenario.run options = .ok output) :
    output.name = scenario.name := by
  rw [run] at ran
  cases rendered : (scenario.render options).value with
  | error error =>
      simp only [rendered] at ran
      cases ran
  | ok result =>
      simp only [rendered] at ran
      cases ran
      rfl

theorem Scenario.exists_output (scenario : Scenario) (options : BuildOptions) :
    ∃ output, scenario.run options = .ok output ∧ output.name = scenario.name ∧
      output.mesh.validate = .ok () := by
  have validates := scenario.validates_run options.tessellate options.optimize
  cases ran : scenario.run options with
  | error error =>
      rw [ran] at validates
      cases validates
  | ok output =>
      refine ⟨output, rfl, scenario.name_run ran, ?_⟩
      rw [ran] at validates
      cases checked : output.mesh.validate with
      | error fault => simp [checked, Except.toOption] at validates
      | ok checked => rfl

end PlanarMesh.CommandLine

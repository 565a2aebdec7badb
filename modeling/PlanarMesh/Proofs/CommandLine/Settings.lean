import PlanarMesh.CommandLine.Arguments

/-! # Settings of a run

What follows the scenario's name is a sequence of settings, one or two words each, up to
the end or to a word at which reading stops.
-/

namespace PlanarMesh.CommandLine

inductive Setting where
  | outDir (path : String)
  | objPath (path : String)
  | jsonPath (path : String)
  | overwrite
  | noTessellation
  | noOptimization
deriving DecidableEq, Repr

namespace Setting

def words : Setting → List String
  | outDir path => ["--out-dir", path]
  | objPath path => ["--obj", path]
  | jsonPath path => ["--json", path]
  | overwrite => ["--overwrite"]
  | noTessellation => ["--no-tesselate"]
  | noOptimization => ["--no-optimize"]

def apply (request : Request) : Setting → Request
  | outDir path => { request with outDir := some path }
  | objPath path => { request with objPath := some path }
  | jsonPath path => { request with jsonPath := some path }
  | overwrite => { request with overwrite := true }
  | noTessellation => { request with options := { request.options with tessellate := false } }
  | noOptimization => { request with options := { request.options with optimize := false } }

def outDir? : Setting → Option String
  | outDir path => some path
  | _ => none

def objPath? : Setting → Option String
  | objPath path => some path
  | _ => none

def jsonPath? : Setting → Option String
  | jsonPath path => some path
  | _ => none

end Setting

def valueOptions : List String := ["--out-dir", "--obj", "--json"]

def helpWords : List String := ["-h", "--help"]

def flagOptions : List String := ["--overwrite", "--no-tesselate", "--no-optimize"]

/-- Arguments at the first of which reading ends without a run: it asks for help, lacks its
value or is no option. -/
inductive Stops : List String → Prop
  | help {word : String} {rest : List String} (isHelp : word ∈ helpWords) : Stops (word :: rest)
  | valueless {option : String} (takesValue : option ∈ valueOptions) : Stops [option]
  | unknown {word : String} {rest : List String}
      (isUnknown : word ∉ valueOptions ++ flagOptions ++ helpWords) : Stops (word :: rest)

/-- What a run is asked to do by a scenario's name and its settings. Of several values of
one option the last counts. -/
def requestOf (scenario : String) (settings : List Setting) : Request where
  scenario
  outDir := (settings.filterMap Setting.outDir?).getLast?
  objPath := (settings.filterMap Setting.objPath?).getLast?
  jsonPath := (settings.filterMap Setting.jsonPath?).getLast?
  overwrite := settings.contains .overwrite
  options := ⟨!settings.contains .noTessellation, !settings.contains .noOptimization⟩

theorem getLast?_filterMap_eq_none {value? : Setting → Option String}
    {setting : String → Setting} (settings : List Setting)
    (named : ∀ other path, value? other = some path ↔ other = setting path) :
    (settings.filterMap value?).getLast? = none ↔ ∀ path, setting path ∉ settings := by
  rw [List.getLast?_eq_none_iff, List.filterMap_eq_nil_iff]
  constructor
  · intro none path member
    have given := (named _ path).mpr rfl
    rw [none _ member] at given
    cases given
  · intro absent other member
    cases given : value? other with
    | none => rfl
    | some path => exact (absent path ((named other path).mp given ▸ member)).elim

theorem outDir_eq_none_iff {scenario : String} {settings : List Setting} :
    (requestOf scenario settings).outDir = none ↔ ∀ path, .outDir path ∉ settings :=
  getLast?_filterMap_eq_none settings fun other path => by
    cases other <;> simp [Setting.outDir?]

theorem mem_of_outDir {scenario directory : String} {settings : List Setting}
    (toDirectory : (requestOf scenario settings).outDir = some directory) :
    .outDir directory ∈ settings := by
  rcases List.mem_filterMap.mp (List.mem_of_getLast? toDirectory) with ⟨setting, member, named⟩
  cases setting <;> cases named
  exact member

theorem objPath_eq_none_iff {scenario : String} {settings : List Setting} :
    (requestOf scenario settings).objPath = none ↔ ∀ path, .objPath path ∉ settings :=
  getLast?_filterMap_eq_none settings fun other path => by
    cases other <;> simp [Setting.objPath?]

theorem jsonPath_eq_none_iff {scenario : String} {settings : List Setting} :
    (requestOf scenario settings).jsonPath = none ↔ ∀ path, .jsonPath path ∉ settings :=
  getLast?_filterMap_eq_none settings fun other path => by
    cases other <;> simp [Setting.jsonPath?]

variable {request : Request}

theorem foldl_apply (settings : List Setting) :
    settings.foldl Setting.apply request =
      { scenario := request.scenario
        outDir := (settings.filterMap Setting.outDir?).getLast?.or request.outDir
        objPath := (settings.filterMap Setting.objPath?).getLast?.or request.objPath
        jsonPath := (settings.filterMap Setting.jsonPath?).getLast?.or request.jsonPath
        overwrite := settings.contains .overwrite || request.overwrite
        options :=
          ⟨!settings.contains .noTessellation && request.options.tessellate,
            !settings.contains .noOptimization && request.options.optimize⟩ } := by
  induction settings generalizing request with
  | nil => rfl
  | cons setting settings induction =>
      rw [List.foldl_cons, induction]
      cases setting <;>
        simp [Setting.apply, Setting.outDir?, Setting.objPath?, Setting.jsonPath?,
          List.getLast?_cons, Option.or_some]

theorem readOptions_words (settings : List Setting) (rest : List String) :
    readOptions request (settings.flatMap Setting.words ++ rest) =
      readOptions (settings.foldl Setting.apply request) rest := by
  induction settings generalizing request with
  | nil => rfl
  | cons setting settings induction =>
      rw [List.flatMap_cons, List.append_assoc, List.foldl_cons, ← induction]
      cases setting <;> rfl

theorem readOptions_of_stops {stop : List String} (stops : Stops stop) (asked : Request) :
    readOptions request stop ≠ .ok (.run asked) := by
  cases stops with
  | help isHelp =>
      simp only [helpWords, List.mem_cons, List.not_mem_nil, or_false] at isHelp
      rcases isHelp with rfl | rfl <;> simp [readOptions]
  | valueless takesValue =>
      simp only [valueOptions, List.mem_cons, List.not_mem_nil, or_false] at takesValue
      rcases takesValue with rfl | rfl | rfl <;> simp [readOptions]
  | unknown isUnknown =>
      rw [valueOptions, flagOptions, helpWords] at isUnknown
      unfold readOptions
      split <;> simp_all

/-- Any arguments are settings up to the end or to where reading stops. -/
theorem exists_settings (arguments : List String) :
    ∃ (settings : List Setting) (stop : List String),
      arguments = settings.flatMap Setting.words ++ stop ∧ (stop = [] ∨ Stops stop) := by
  have further (setting : Setting) {rest : List String}
      (split : ∃ (settings : List Setting) (stop : List String),
        rest = settings.flatMap Setting.words ++ stop ∧ (stop = [] ∨ Stops stop)) :
      ∃ (settings : List Setting) (stop : List String),
        setting.words ++ rest = settings.flatMap Setting.words ++ stop ∧
          (stop = [] ∨ Stops stop) := by
    rcases split with ⟨settings, stop, whole, ends⟩
    exact ⟨setting :: settings, stop,
      by rw [whole, List.flatMap_cons, List.append_assoc], ends⟩
  -- the request that is read does not matter, only where each option ends
  fun_induction readOptions (requestOf "" []) arguments with
  | case1 => exact ⟨[], [], rfl, Or.inl rfl⟩
  | case2 request path rest induction => exact further (.outDir path) induction
  | case3 request path rest induction => exact further (.objPath path) induction
  | case4 request path rest induction => exact further (.jsonPath path) induction
  | case5 request rest induction => exact further .overwrite induction
  | case6 request rest induction => exact further .noTessellation induction
  | case7 request rest induction => exact further .noOptimization induction
  | case8 request rest => exact ⟨[], _, rfl, Or.inr (.help (by decide))⟩
  | case9 request rest => exact ⟨[], _, rfl, Or.inr (.help (by decide))⟩
  | case10 request option rest noOutDir noObj noJson _ _ _ _ _ takesValue =>
      have last : rest = [] := by
        cases rest with
        | nil => rfl
        | cons value rest =>
            rcases takesValue with isOption | isOption | isOption
            · exact (noOutDir value rest isOption rfl).elim
            · exact (noObj value rest isOption rfl).elim
            · exact (noJson value rest isOption rfl).elim
      subst last
      exact ⟨[], _, rfl, Or.inr (.valueless (by simpa [valueOptions] using takesValue))⟩
  | case11 request option rest _ _ _ notOverwrite notTessellate notOptimize notShort notHelp
      notValue =>
      refine ⟨[], _, rfl, Or.inr (.unknown ?_)⟩
      rw [not_or, not_or] at notValue
      simp only [valueOptions, flagOptions, helpWords, List.mem_append, List.mem_cons,
        List.not_mem_nil, or_false, not_or]
      exact ⟨⟨notValue, notOverwrite, notTessellate, notOptimize⟩, notShort, notHelp⟩

/-! ## Commands -/

def runWords (scenario : String) (settings : List Setting) : List String :=
  "run" :: scenario :: settings.flatMap Setting.words

theorem readCommand_runWords (scenario : String) (settings : List Setting) :
    readCommand (runWords scenario settings) = .ok (.run (requestOf scenario settings)) := by
  rw [runWords, readCommand, ← List.append_nil (settings.flatMap _), readOptions_words,
    foldl_apply]
  simp [readOptions, requestOf, BuildOptions.standard]

theorem readCommand_of_stops {scenario : String} {settings : List Setting} {stop : List String}
    (stops : Stops stop) (asked : Request) :
    readCommand ("run" :: scenario :: (settings.flatMap Setting.words ++ stop)) ≠
      .ok (.run asked) := by
  rw [readCommand, readOptions_words]
  exact readOptions_of_stops stops asked

theorem readCommand_of_ne {command : String} (notRun : command ≠ "run") (rest : List String)
    (asked : Request) : readCommand (command :: rest) ≠ .ok (.run asked) := by
  unfold readCommand
  split <;> simp_all

end PlanarMesh.CommandLine

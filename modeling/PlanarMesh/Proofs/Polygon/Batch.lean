import PlanarMesh.Polygon.Batch
import PlanarMesh.Proofs.Polygon.Outcome

/-! # Batches

All polygons of a batch are finished with one tessellator. What it holds when the turn
of a polygon comes differs from a fresh one, but its tolerance does not, and nothing
else has a say in how the polygon ends.
-/

namespace PlanarMesh.Polygon

/-! ## Tessellators of one tolerance -/

/-- Two finishes that nobody can tell apart but by the tessellators they leave. -/
structure SameFinish (left right : Logged (Finished EarClipTessellator)) : Prop where
  outcome : left.value.outcome = right.value.outcome
  polygon : left.value.polygon = right.value.polygon
  emissions : left.emissions = right.emissions

theorem finish_congr {left right : EarClipTessellator}
    (equal : left.tolerance = right.tolerance) (polygon : Polygon)
    (options : BuildOptions) (logger : Option Listener) :
    SameFinish (polygon.finish options left logger)
      (polygon.finish options right logger) := by
  cases state : polygon.isFinished with
  | true =>
      rw [finish_of_finished state, finish_of_finished state]
      exact ⟨rfl, rfl, rfl⟩
  | false =>
      rcases options with ⟨tessellate, optimize⟩
      cases tessellate with
      | false =>
          rw [finish_of_open state, finish_of_open state]
          exact ⟨rfl, rfl, rfl⟩
      | true =>
          have filled : polygon.filling ⟨true, optimize⟩ left =
              polygon.filling ⟨true, optimize⟩ right :=
            tessellatedBuffers_congr equal _ _
          rw [finish_of_open state, finish_of_open state, filled]
          exact ⟨rfl, rfl, rfl⟩

theorem closing_tessellator (polygon : Polygon) (options : BuildOptions)
    (logger : Option Listener)
    (filled : Except TessellationError Buffers × EarClipTessellator) :
    (polygon.closing options logger filled).value.tessellator = filled.2 := by
  rcases filled with ⟨_ | _, computed⟩
  · rfl
  · rfl

theorem filling_tolerance (polygon : Polygon) (options : BuildOptions)
    (tessellator : EarClipTessellator) :
    (polygon.filling options tessellator).value.2.tolerance = tessellator.tolerance := by
  cases tessellate : options.tessellate with
  | false =>
      rw [filling, tessellate]
      rfl
  | true =>
      rw [polygon.filling_of_tessellate tessellate, Logged.value_bind, Logged.value_pure,
        readBuffers_tessellator, EarClipTessellator.computeBy_tolerance]
      rfl

theorem finish_tolerance (polygon : Polygon) (options : BuildOptions)
    (tessellator : EarClipTessellator) (logger : Option Listener) :
    (polygon.finish options tessellator logger).value.tessellator.tolerance =
      tessellator.tolerance := by
  cases state : polygon.isFinished with
  | true =>
      rw [finish_of_finished state]
      rfl
  | false =>
      rw [finish_value_of_open state, closing_tessellator, filling_tolerance]

/-! ## One polygon on its own -/

def finishAlone (options : BuildOptions) (tolerance : Tolerance)
    (logger : Option Listener) (polygon : Polygon) :
    Logged (Finished EarClipTessellator) :=
  polygon.finish options (.withTolerance tolerance) logger

structure Failed where
  position : Nat
  polygon : Polygon
  error : PolygonError

namespace Failed

def entry (failed : Failed) : Nat × PolygonError :=
  (failed.position, failed.error)

def report (logger : Option Listener) (failed : Failed) : List Emission :=
  logger.toList.map fun receiver =>
    ⟨receiver, .error, .formatted fun _ => failed.polygon.failureText failed.error⟩

end Failed

section Batch

variable (options : BuildOptions) (tolerance : Tolerance) (logger : Option Listener)

def failedFrom (position : Nat) (polygons : List Polygon) : List Failed :=
  (polygons.zipIdx position).filterMap fun (polygon, position) =>
    match (finishAlone options tolerance logger polygon).value.outcome with
    | .ok () => none
    | .error error => some ⟨position, polygon, error⟩

theorem mem_failedFrom {position : Nat} {polygons : List Polygon} {failed : Failed} :
    failed ∈ failedFrom options tolerance logger position polygons ↔
      (failed.polygon, failed.position) ∈ polygons.zipIdx position ∧
        (finishAlone options tolerance logger failed.polygon).value.outcome =
          .error failed.error := by
  rw [failedFrom, List.mem_filterMap]
  constructor
  · rintro ⟨⟨polygon, place⟩, member, chosen⟩
    dsimp only at chosen
    split at chosen
    · cases chosen
    · rename_i error outcome
      cases chosen
      exact ⟨member, outcome⟩
  · rintro ⟨member, outcome⟩
    refine ⟨_, member, ?_⟩
    dsimp only
    rw [outcome]

theorem failedFrom_cons (position : Nat) (polygon : Polygon) (rest : List Polygon) :
    failedFrom options tolerance logger position (polygon :: rest) =
      match (finishAlone options tolerance logger polygon).value.outcome with
      | .ok () => failedFrom options tolerance logger (position + 1) rest
      | .error error =>
          ⟨position, polygon, error⟩ ::
            failedFrom options tolerance logger (position + 1) rest := by
  rw [failedFrom, List.zipIdx_cons, List.filterMap_cons]
  dsimp only
  cases (finishAlone options tolerance logger polygon).value.outcome with
  | error error => rfl
  | ok _ => rfl

theorem failedFrom_pairwise (position : Nat) (polygons : List Polygon) :
    (failedFrom options tolerance logger position polygons).Pairwise
      fun earlier later => earlier.position < later.position := by
  induction polygons generalizing position with
  | nil => exact .nil
  | cons polygon rest induction =>
      rw [failedFrom_cons]
      cases (finishAlone options tolerance logger polygon).value.outcome with
      | ok _ => exact induction (position + 1)
      | error error =>
          refine .cons ?_ (induction (position + 1))
          intro later member
          have placed := ((mem_failedFrom options tolerance logger).mp member).1
          exact List.le_snd_of_mem_zipIdx placed

/-! ## A batch, polygon by polygon -/

theorem finishFrom_eq {tessellator : EarClipTessellator}
    (equal : tessellator.tolerance = tolerance) (position : Nat)
    (polygons : List Polygon) :
    let batch := finishFrom options logger position tessellator polygons
    batch.value.failures =
        (failedFrom options tolerance logger position polygons).map Failed.entry ∧
      batch.value.polygons =
        (polygons.map fun polygon =>
          (finishAlone options tolerance logger polygon).value.polygon) ∧
      batch.emissions =
        polygons.flatMap fun polygon =>
          (finishAlone options tolerance logger polygon).emissions := by
  induction polygons generalizing position tessellator with
  | nil => exact ⟨rfl, rfl, rfl⟩
  | cons polygon rest induction =>
      -- The tessellator is another one for every polygon; only its tolerance stays.
      have same : SameFinish (polygon.finish options tessellator logger)
          (finishAlone options tolerance logger polygon) :=
        finish_congr equal polygon options logger
      have kept := (polygon.finish_tolerance options tessellator logger).trans equal
      rcases induction kept (position + 1) with ⟨failures, polygons, emissions⟩
      dsimp only
      refine ⟨?_, ?_, ?_⟩
      · rw [failedFrom_cons, finishFrom]
        simp only [Logged.value_bind, Logged.value_pure, same.outcome, failures]
        cases (finishAlone options tolerance logger polygon).value.outcome with
        | ok _ => rfl
        | error error => rfl
      · rw [finishFrom, List.map_cons, ← polygons, ← same.polygon]
        rfl
      · rw [finishFrom, List.flatMap_cons, ← emissions, ← same.emissions]
        simp

end Batch

/-! ## Whole batches -/

section FinishAll

variable (polygons : List Polygon) (context : BuildContext)

def aloneIn (polygon : Polygon) : Logged (Finished EarClipTessellator) :=
  finishAlone context.options context.tessellator.tolerance context.logger polygon

def failedIn : List Failed :=
  failedFrom context.options context.tessellator.tolerance context.logger 0 polygons

theorem polygons_finishAll :
    (finishAll polygons context).value.polygons =
      polygons.map fun polygon => (aloneIn context polygon).value.polygon :=
  (finishFrom_eq _ _ _ rfl 0 polygons).2.1

theorem failures_finishAll :
    (finishAll polygons context).value.failures =
      (failedIn polygons context).map Failed.entry :=
  (finishFrom_eq _ _ _ rfl 0 polygons).1

variable {polygons context}

theorem mem_failedIn {failed : Failed} :
    failed ∈ failedIn polygons context ↔
      polygons[failed.position]? = some failed.polygon ∧
        (aloneIn context failed.polygon).value.outcome = .error failed.error := by
  rw [failedIn, mem_failedFrom, List.mk_mem_zipIdx_iff_getElem?]
  rfl

theorem mem_failures_finishAll {position : Nat} {error : PolygonError} :
    (position, error) ∈ (finishAll polygons context).value.failures ↔
      ∃ polygon, polygons[position]? = some polygon ∧
        (aloneIn context polygon).value.outcome = .error error := by
  rw [failures_finishAll, List.mem_map]
  constructor
  · rintro ⟨failed, member, equal⟩
    cases equal
    exact ⟨failed.polygon, mem_failedIn.mp member⟩
  · rintro ⟨polygon, found, outcome⟩
    exact ⟨⟨position, polygon, error⟩, mem_failedIn.mpr ⟨found, outcome⟩, rfl⟩

theorem failures_finishAll_pairwise :
    (finishAll polygons context).value.failures.Pairwise
      fun earlier later => earlier.1 < later.1 := by
  rw [failures_finishAll, List.pairwise_map]
  exact failedFrom_pairwise _ _ _ 0 polygons

theorem getElem?_polygons_finishAll (context : BuildContext) {position : Nat}
    {polygon : Polygon} (found : polygons[position]? = some polygon) :
    (finishAll polygons context).value.polygons[position]? =
      some (aloneIn context polygon).value.polygon := by
  rw [polygons_finishAll, List.getElem?_map, found]
  rfl

theorem aloneIn_of_finished (context : BuildContext) {polygon : Polygon}
    (finished : polygon.isFinished = true) :
    aloneIn context polygon =
      pure ⟨.ok (), polygon, .withTolerance context.tessellator.tolerance⟩ :=
  finish_of_finished finished _ _ _

theorem isFinished_of_mem_finishAll {polygon : Polygon}
    (member : polygon ∈ (finishAll polygons context).value.polygons) :
    polygon.isFinished = true := by
  rw [polygons_finishAll] at member
  rcases List.mem_map.mp member with ⟨before, _, rfl⟩
  exact before.isFinished_finish _ _ _

theorem finishAll_of_finished
    (finished : ∀ polygon ∈ polygons, polygon.isFinished = true) :
    (finishAll polygons context).value.failures = [] ∧
      (finishAll polygons context).value.polygons = polygons := by
  constructor
  · apply List.eq_nil_iff_forall_not_mem.mpr
    rintro ⟨position, error⟩ member
    rcases mem_failures_finishAll.mp member with ⟨polygon, found, outcome⟩
    rw [aloneIn_of_finished context (finished polygon (List.mem_of_getElem? found))]
      at outcome
    cases outcome
  · rw [polygons_finishAll]
    refine (List.map_congr_left ?_).trans (List.map_id' polygons)
    intro polygon member
    rw [aloneIn_of_finished context (finished polygon member), Logged.value_pure]

/-! ## What the logger is told -/

theorem failureText_congr {left right : Polygon} (equal : left.id = right.id)
    (error : PolygonError) : left.failureText error = right.failureText error := by
  unfold failureText
  rw [equal]

def reports (logger : Option Listener) (batch : FinishedBatch) : List Emission :=
  batch.failures.flatMap fun failure =>
    (batch.polygons[failure.1]?).toList.flatMap fun polygon =>
      logger.toList.map fun receiver =>
        ⟨receiver, .error, .formatted fun _ => polygon.failureText failure.2⟩

theorem emissions_finishAll_eq :
    (finishAll polygons context).emissions =
      ⟨.facade, .debug, .formatted fun _ => startText polygons.length⟩ ::
        (finishFrom context.options context.logger 0 context.tessellator
          polygons).emissions ++
        reports context.logger (finishAll polygons context).value := by
  simp only [finishAll, Logged.emissions_bind, Logged.emissions_forM,
    Logged.emissions_pure, List.append_nil]
  rfl

/-- There is one report for each polygon that fails on its own. -/
theorem reports_finishAll :
    reports context.logger (finishAll polygons context).value =
      (failedIn polygons context).flatMap (Failed.report context.logger) := by
  rw [reports, failures_finishAll, List.flatMap_map]
  apply List.flatMap_congr
  intro failed member
  have found := getElem?_polygons_finishAll context (mem_failedIn.mp member).1
  have sameId : (aloneIn context failed.polygon).value.polygon.id = failed.polygon.id :=
    id_finish _ _ _ _
  dsimp only [Failed.entry]
  rw [found, Option.toList_some, List.flatMap_singleton, failureText_congr sameId]
  rfl

theorem emissions_finishAll :
    (finishAll polygons context).emissions =
      ⟨.facade, .debug, .formatted fun _ => startText polygons.length⟩ ::
        (polygons.flatMap fun polygon => (aloneIn context polygon).emissions) ++
        (failedIn polygons context).flatMap (Failed.report context.logger) := by
  have each := (finishFrom_eq context.options context.tessellator.tolerance
    context.logger rfl 0 polygons).2.2
  rw [emissions_finishAll_eq, reports_finishAll, each]
  rfl

end FinishAll

/-- Every polygon of a batch ends as it would alone, whatever the others are and
whatever the tessellator did before. Doing it again has no effect. -/
theorem finishAll_independent (polygons : List Polygon) (context : BuildContext) :
    let batch := finishAll polygons context
    let alone := fun polygon : Polygon =>
      polygon.finish context.options
        (EarClipTessellator.withTolerance context.tessellator.tolerance) context.logger
    batch.value.polygons = polygons.map (fun polygon => (alone polygon).value.polygon) ∧
      (∀ position error,
        (position, error) ∈ batch.value.failures ↔
          ∃ polygon, polygons[position]? = some polygon ∧
            (alone polygon).value.outcome = .error error) ∧
      batch.value.failures.Pairwise (fun earlier later => earlier.1 < later.1) ∧
      (∀ position polygon, polygons[position]? = some polygon →
        polygon.isFinished = true →
          batch.value.polygons[position]? = some polygon ∧
            ∀ error, (position, error) ∉ batch.value.failures) ∧
      (∀ polygon ∈ batch.value.polygons, polygon.isFinished = true) ∧
      batch.value.failures = (failedIn polygons context).map Failed.entry ∧
      batch.emissions =
        ⟨.facade, .debug, .formatted fun _ => startText polygons.length⟩ ::
          (polygons.flatMap fun polygon => (alone polygon).emissions) ++
          (failedIn polygons context).flatMap (Failed.report context.logger) ∧
      ∀ later,
        (finishAll batch.value.polygons later).value.failures = [] ∧
          (finishAll batch.value.polygons later).value.polygons =
            batch.value.polygons := by
  refine ⟨polygons_finishAll polygons context, fun _ _ => mem_failures_finishAll,
    failures_finishAll_pairwise, ?_, fun _ => isFinished_of_mem_finishAll,
    failures_finishAll polygons context, emissions_finishAll,
    fun _ => finishAll_of_finished fun _ => isFinished_of_mem_finishAll⟩
  intro position polygon found finished
  have alone := aloneIn_of_finished context finished
  constructor
  · rw [getElem?_polygons_finishAll context found, alone]
    rfl
  · intro error member
    rcases mem_failures_finishAll.mp member with ⟨other, sameFound, outcome⟩
    rw [found] at sameFound
    cases sameFound
    rw [alone] at outcome
    cases outcome

def spike : Polygon :=
  { named "spike" none with
    exterior := some ⟨"edge", true, [⟨0, 0, 0⟩, ⟨4, 0, 0⟩, ⟨4, 0.0 / 0.0, 0⟩]⟩ }

theorem finishAll_independent_spike :
    let shut := (named "shut" none).sealed .blank
    let batch := finishAll [courtyard, spike, shut] ⟨⟨true, true⟩, worn, none⟩
    (∀ error, (0, error) ∉ batch.value.failures) ∧
      (∃ error, (1, error) ∈ batch.value.failures) ∧
      batch.value.polygons[2]? = some shut := by
  rcases finishAll_independent [courtyard, spike, (named "shut" none).sealed .blank]
    ⟨⟨true, true⟩, worn, none⟩ with ⟨_, failures, _, untouched, _⟩
  dsimp only at failures
  refine ⟨?_, ?_, (untouched 2 _ rfl rfl).1⟩
  · intro error member
    rcases (failures 0 error).mp member with ⟨polygon, found, outcome⟩
    cases found
    have fresh : worn.tolerance = (EarClipTessellator.withTolerance worn.tolerance).tolerance :=
      rfl
    have succeeds := courtyard_isOk
    rw [(finish_congr fresh courtyard ⟨true, true⟩ none).outcome, outcome] at succeeds
    cases succeeds
  · have fails : (spike.finish ⟨true, true⟩
        (EarClipTessellator.withTolerance worn.tolerance) none).value.outcome.isOk = false := by
      decide +kernel
    cases outcome : (spike.finish ⟨true, true⟩
        (EarClipTessellator.withTolerance worn.tolerance) none).value.outcome with
    | ok _ =>
        rw [outcome] at fails
        cases fails
    | error error => exact ⟨error, (failures 1 error).mpr ⟨spike, rfl, outcome⟩⟩

end PlanarMesh.Polygon

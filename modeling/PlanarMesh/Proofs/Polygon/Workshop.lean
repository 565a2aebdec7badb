import Mathlib.Logic.Function.Basic
import PlanarMesh.Proofs.Log.Delivery
import PlanarMesh.Proofs.Polygon.Batch
import PlanarMesh.Proofs.Polygon.Listeners

/-! # Work on many polygons

A workshop has polygons, tessellators of any kinds and the contexts of batches, and
carries out one task after the other while a log book receives what is told. Two
workshops that differ in their loggers only, given tasks that differ in their loggers
only, give the same answers and end in states that differ in their loggers only,
whatever their log books accept.
-/

namespace PlanarMesh

variable {ι : Type} {kind : ι → Type}

inductive Task (ι : Type) where
  | addRing (place : Nat) (ring : Ring)
  | finish (place : Nat) (tool : ι) (options : BuildOptions) (logger : Option Listener)
  | finishIn (place context : Nat)
  | finishAll (start count context : Nat)
  | texCoords (place : Nat) (theme : String) (front : Bool)

def Task.silenced : Task ι → Task ι
  | .finish place tool options _ => .finish place tool options none
  | task => task

inductive Answer where
  | nothing
  | outcome (outcome : Except PolygonError Unit)
  | failures (failures : List (Nat × PolygonError))
  | coords (coords : List TexCoord)

structure Workshop (kind : ι → Type) where
  polygons : List Polygon
  tools : (tool : ι) → kind tool
  contexts : List BuildContext

theorem eq_of_maps {α β γ : Type} {first : α → β} {second : α → γ}
    (settled : ∀ left right, first left = first right → second left = second right →
      left = right) {left right : List α} (firsts : left.map first = right.map first)
    (seconds : left.map second = right.map second) : left = right := by
  induction left generalizing right with
  | nil => exact (List.map_eq_nil_iff.mp firsts.symm).symm
  | cons head tail induction =>
      cases right with
      | nil => cases firsts
      | cons other rest =>
          simp only [List.map_cons, List.cons.injEq] at firsts seconds ⊢
          exact ⟨settled head other firsts.1 seconds.1, induction firsts.2 seconds.2⟩

theorem map_modify {α β : Type} (read : α → β) (change : α → α) (other : β → β)
    (commutes : ∀ item, read (change item) = other (read item)) (items : List α)
    (place : Nat) :
    (items.modify place change).map read = (items.map read).modify place other := by
  apply List.ext_getElem?
  intro position
  simp only [List.getElem?_modify, List.getElem?_map]
  cases items[position]? with
  | none => rfl
  | some item =>
      by_cases here : place = position
      · simp [here, commutes]
      · simp [here]

namespace Workshop

/-! ## Changes -/

section Changes

variable (workshop : Workshop kind)

def withPolygon (place : Nat) (polygon : Polygon) : Workshop kind :=
  { workshop with polygons := workshop.polygons.set place polygon }

def withBatch (start : Nat) (batch : List Polygon) : Workshop kind :=
  { workshop with
    polygons := workshop.polygons.take start ++ batch ++
      workshop.polygons.drop (start + batch.length) }

def withTool [DecidableEq ι] (tool : ι) (state : kind tool) : Workshop kind :=
  { workshop with tools := Function.update workshop.tools tool state }

def withContextTool (place : Nat) (tessellator : EarClipTessellator) : Workshop kind :=
  { workshop with contexts := workshop.contexts.modify place ({ · with tessellator }) }

def silenced : Workshop kind :=
  { workshop with
    polygons := workshop.polygons.map Polygon.silenced
    contexts := workshop.contexts.map BuildContext.silenced }

theorem withPolygon_silenced (place : Nat) (polygon : Polygon) :
    workshop.silenced.withPolygon place polygon.silenced =
      (workshop.withPolygon place polygon).silenced := by
  simp [withPolygon, silenced, List.map_set]

theorem withBatch_silenced (start : Nat) (batch : List Polygon) :
    workshop.silenced.withBatch start (batch.map Polygon.silenced) =
      (workshop.withBatch start batch).silenced := by
  simp [withBatch, silenced]

theorem withTool_silenced [DecidableEq ι] (tool : ι) (state : kind tool) :
    workshop.silenced.withTool tool state = (workshop.withTool tool state).silenced :=
  rfl

theorem withContextTool_silenced (place : Nat) (tessellator : EarClipTessellator) :
    workshop.silenced.withContextTool place tessellator =
      (workshop.withContextTool place tessellator).silenced := by
  have changed := map_modify BuildContext.silenced ({ · with tessellator })
    ({ · with tessellator }) (fun _ => rfl) workshop.contexts place
  rw [withContextTool, withContextTool]
  simp only [silenced, changed]

def loggers : List (Option Listener) × List (Option Listener) :=
  (workshop.polygons.map (·.logger), workshop.contexts.map (·.logger))

theorem eq_of_silenced {left right : Workshop kind} (same : left.silenced = right.silenced)
    (loggers : left.loggers = right.loggers) : left = right := by
  cases left
  cases right
  simp only [silenced, Workshop.loggers, mk.injEq, Prod.mk.injEq] at same loggers ⊢
  exact ⟨eq_of_maps (fun _ _ => Polygon.eq_of_silenced) same.1 loggers.1, same.2.1,
    eq_of_maps (fun _ _ => BuildContext.eq_of_silenced) same.2.2 loggers.2⟩

theorem loggers_withPolygon {place : Nat} {before after : Polygon}
    (found : workshop.polygons[place]? = some before) (same : after.logger = before.logger) :
    (workshop.withPolygon place after).loggers = workshop.loggers := by
  have kept : (workshop.polygons.map (·.logger))[place]? = some before.logger := by
    rw [List.getElem?_map, found]
    rfl
  rcases List.getElem?_eq_some_iff.mp kept with ⟨inside, own⟩
  rw [loggers, loggers, withPolygon, List.map_set, same, ← own, List.set_getElem_self]

theorem loggers_withContextTool (place : Nat) (tessellator : EarClipTessellator) :
    (workshop.withContextTool place tessellator).loggers = workshop.loggers := by
  have kept := map_modify BuildContext.logger ({ · with tessellator }) id (fun _ => rfl)
    workshop.contexts place
  rw [List.modify_id] at kept
  exact congrArg (Prod.mk _) kept

theorem loggers_withBatch {start : Nat} (count : Nat) {batch : List Polygon}
    (same : batch.map (·.logger) =
      ((workshop.polygons.drop start).take count).map (·.logger)) :
    (workshop.withBatch start batch).loggers = workshop.loggers := by
  have covered : ((workshop.polygons.drop start).take batch.length).map (·.logger) =
      batch.map (·.logger) := by
    have length : batch.length = ((workshop.polygons.drop start).take count).length := by
      simpa using congrArg List.length same
    rw [same, length, List.length_take, ← List.take_eq_take_min]
  rw [loggers, loggers, withBatch]
  dsimp only
  rw [List.map_append, List.map_append, ← covered, ← List.map_append, ← List.map_append,
    List.append_assoc, ← List.drop_drop, List.take_append_drop, List.take_append_drop]

end Changes

/-! ## Tasks -/

variable [DecidableEq ι] [∀ tool, Tessellator (kind tool)]

def perform (workshop : Workshop kind) : Task ι → Logged (Answer × Workshop kind)
  | .addRing place ring =>
      match workshop.polygons[place]? with
      | none => pure (.nothing, workshop)
      | some polygon => do
          let (outcome, changed) ← polygon.addRing ring
          pure (.outcome outcome, workshop.withPolygon place changed)
  | .finish place tool options logger =>
      match workshop.polygons[place]? with
      | none => pure (.nothing, workshop)
      | some polygon => do
          let finished ← polygon.finish options (workshop.tools tool) logger
          pure (.outcome finished.outcome,
            (workshop.withPolygon place finished.polygon).withTool tool finished.tessellator)
  | .finishIn place context =>
      match workshop.polygons[place]?, workshop.contexts[context]? with
      | some polygon, some settings => do
          let finished ← polygon.finishIn settings
          pure (.outcome finished.outcome,
            (workshop.withPolygon place finished.polygon).withContextTool context
              finished.tessellator)
      | _, _ => pure (.nothing, workshop)
  | .finishAll start count context =>
      match workshop.contexts[context]? with
      | none => pure (.nothing, workshop)
      | some settings => do
          let batch ← Polygon.finishAll ((workshop.polygons.drop start).take count) settings
          pure (.failures batch.failures,
            (workshop.withBatch start batch.polygons).withContextTool context
              batch.tessellator)
  | .texCoords place theme front =>
      match workshop.polygons[place]? with
      | none => pure (.nothing, workshop)
      | some polygon => do
          let coords ← polygon.texCoords theme front
          pure (.coords coords, workshop)

/-- Nothing that a task does depends on a logger. -/
theorem perform_silenced (workshop : Workshop kind) (task : Task ι) :
    (workshop.silenced.perform task.silenced).value =
      ((workshop.perform task).value.1, (workshop.perform task).value.2.silenced) := by
  have polygonAt : ∀ place : Nat, workshop.silenced.polygons[place]? =
      workshop.polygons[place]?.map Polygon.silenced := fun _ => List.getElem?_map
  have contextAt : ∀ place : Nat, workshop.silenced.contexts[place]? =
      workshop.contexts[place]?.map BuildContext.silenced := fun _ => List.getElem?_map
  cases task with
  | addRing place ring =>
      change (workshop.silenced.perform (.addRing place ring)).value = _
      rw [perform, perform, polygonAt]
      cases workshop.polygons[place]? with
      | none => rfl
      | some polygon =>
          simp only [Option.map_some, Logged.value_bind, Logged.value_pure,
            Polygon.addRing_silenced, withPolygon_silenced]
  | finish place tool options logger =>
      change (workshop.silenced.perform (.finish place tool options none)).value = _
      rw [perform, perform, polygonAt]
      cases workshop.polygons[place]? with
      | none => rfl
      | some polygon =>
          have finished := polygon.finish_silenced options (workshop.tools tool) logger
          simp only [Option.map_some, Logged.value_bind, Logged.value_pure,
            ← withTool_silenced, ← withPolygon_silenced]
          exact congrArg (fun finished : Finished (kind tool) =>
            (Answer.outcome finished.outcome,
              (workshop.silenced.withPolygon place finished.polygon).withTool tool
                finished.tessellator)) finished
  | finishIn place context =>
      change (workshop.silenced.perform (.finishIn place context)).value = _
      rw [perform, perform, polygonAt, contextAt]
      cases workshop.polygons[place]? with
      | none => rfl
      | some polygon =>
          cases workshop.contexts[context]? with
          | none => rfl
          | some settings =>
              have finished := polygon.finish_silenced settings.options
                settings.tessellator settings.logger
              simp only [Option.map_some, Logged.value_bind, Logged.value_pure,
                ← withContextTool_silenced, ← withPolygon_silenced]
              exact congrArg (fun finished : Finished EarClipTessellator =>
                (Answer.outcome finished.outcome,
                  (workshop.silenced.withPolygon place finished.polygon).withContextTool
                    context finished.tessellator)) finished
  | finishAll start count context =>
      change (workshop.silenced.perform (.finishAll start count context)).value = _
      rw [perform, perform, contextAt]
      cases workshop.contexts[context]? with
      | none => rfl
      | some settings =>
          have batch : (workshop.silenced.polygons.drop start).take count =
              ((workshop.polygons.drop start).take count).map Polygon.silenced := by
            rw [silenced, List.map_take, List.map_drop]
          simp only [Option.map_some, Logged.value_bind, Logged.value_pure, batch,
            Polygon.finishAll_silenced, ← withContextTool_silenced, ← withBatch_silenced]
          rfl
  | texCoords place theme front =>
      change (workshop.silenced.perform (.texCoords place theme front)).value = _
      rw [perform, perform, polygonAt]
      cases workshop.polygons[place]? with
      | none => rfl
      | some polygon =>
          simp only [Option.map_some, Logged.value_bind, Logged.value_pure,
            Polygon.texCoords_silenced]

theorem perform_loggers (workshop : Workshop kind) (task : Task ι) :
    (workshop.perform task).value.2.loggers = workshop.loggers := by
  cases task with
  | addRing place ring =>
      rw [perform]
      cases found : workshop.polygons[place]? with
      | none => rfl
      | some polygon =>
          exact workshop.loggers_withPolygon found (polygon.addRing_identity ring).2
  | finish place tool options logger =>
      rw [perform]
      cases found : workshop.polygons[place]? with
      | none => rfl
      | some polygon =>
          exact workshop.loggers_withPolygon found
            (polygon.logger_finish options (workshop.tools tool) logger)
  | finishIn place context =>
      rw [perform]
      cases found : workshop.polygons[place]? with
      | none => rfl
      | some polygon =>
          cases workshop.contexts[context]? with
          | none => rfl
          | some settings =>
              exact (loggers_withContextTool _ context _).trans
                (workshop.loggers_withPolygon found
                  (polygon.logger_finish settings.options settings.tessellator
                    settings.logger))
  | finishAll start count context =>
      rw [perform]
      cases workshop.contexts[context]? with
      | none => rfl
      | some settings =>
          refine (loggers_withContextTool _ context _).trans
            (workshop.loggers_withBatch count ?_)
          rw [Polygon.polygons_finishAll, List.map_map]
          apply List.map_congr_left
          intro polygon _
          exact polygon.logger_finish _ _ _
  | texCoords place theme front =>
      rw [perform]
      cases workshop.polygons[place]? with
      | none => rfl
      | some polygon => rfl

/-! ## Runs -/

def run (workshop : Workshop kind) : List (Task ι) → Logged (List Answer × Workshop kind)
  | [] => pure ([], workshop)
  | task :: rest => do
      let (answer, changed) ← workshop.perform task
      let (answers, last) ← changed.run rest
      pure (answer :: answers, last)

structure Done (kind : ι → Type) where
  answers : List Answer
  workshop : Workshop kind
  book : LogBook

/-- A run with a log book that receives everything as it is told. -/
def runIn (workshop : Workshop kind) (book : LogBook) : List (Task ι) → Done kind
  | [] => ⟨[], workshop, book⟩
  | task :: rest =>
      let ((answer, changed), later) := (workshop.perform task).into book
      let others := changed.runIn later rest
      { others with answers := answer :: others.answers }

theorem runIn_eq (workshop : Workshop kind) (book : LogBook) (tasks : List (Task ι)) :
    workshop.runIn book tasks =
      ⟨(workshop.run tasks).value.1, (workshop.run tasks).value.2,
        ((workshop.run tasks).into book).2⟩ := by
  induction tasks generalizing workshop book with
  | nil => rfl
  | cons task rest induction =>
      rw [runIn, run, Logged.into_bind, Logged.into_bind, Logged.into_pure]
      dsimp only
      rw [induction]
      rfl

theorem run_silenced (workshop : Workshop kind) (tasks : List (Task ι)) :
    (workshop.silenced.run (tasks.map Task.silenced)).value =
      ((workshop.run tasks).value.1, (workshop.run tasks).value.2.silenced) := by
  induction tasks generalizing workshop with
  | nil => rfl
  | cons task rest induction =>
      simp only [List.map_cons, run, Logged.value_bind, Logged.value_pure,
        perform_silenced, induction]

theorem run_loggers (workshop : Workshop kind) (tasks : List (Task ι)) :
    (workshop.run tasks).value.2.loggers = workshop.loggers := by
  induction tasks generalizing workshop with
  | nil => rfl
  | cons task rest induction =>
      exact (induction (workshop.perform task).value.2).trans
        (workshop.perform_loggers task)

theorem getElem?_recorders_runIn (workshop : Workshop kind) {book : LogBook} {place : Nat}
    {recorder : Recorder} (found : book.recorders[place]? = some recorder)
    (tasks : List (Task ι)) :
    (workshop.runIn book tasks).book.recorders[place]? =
      some { recorder with
        records := recorder.records ++
          (recordsFor (.recorder place) (workshop.run tasks).emissions).filter
            fun record => recorder.minimum ≤ record.level } := by
  rw [runIn_eq]
  dsimp only [Logged.into]
  rw [LogBook.getElem?_recorders_deliver, found, Option.map_some, Recorder.sendAll_eq]

/-- Whoever listens, the work is the same, and each recorder keeps exactly the severe
records of those that one in its place would keep which refuses nothing. -/
theorem runIn_indifferent {left right : Workshop kind}
    (sameWork : left.silenced = right.silenced) {leftTasks rightTasks : List (Task ι)}
    (sameTasks : leftTasks.map Task.silenced = rightTasks.map Task.silenced)
    (leftBook rightBook : LogBook) :
    let one := left.runIn leftBook leftTasks
    let other := right.runIn rightBook rightTasks
    one.answers = other.answers ∧
      one.workshop.silenced = other.workshop.silenced ∧
      one.workshop.loggers = left.loggers ∧
      (left.loggers = right.loggers → one.workshop = other.workshop) ∧
      ∀ (traced : LogBook) (place : Nat) (recorder tracer : Recorder),
        leftBook.recorders[place]? = some recorder →
        traced.recorders[place]? = some tracer → tracer.minimum = .trace →
        ∃ received : List Record,
          (left.runIn traced leftTasks).book.recorders[place]? =
            some { tracer with records := tracer.records ++ received } ∧
          one.book.recorders[place]? =
            some { recorder with
              records := recorder.records ++
                received.filter fun record => recorder.minimum ≤ record.level } := by
  have silent := (left.run_silenced leftTasks).symm
  rw [sameWork, sameTasks, right.run_silenced rightTasks, Prod.mk.injEq] at silent
  have ownLoggers := left.run_loggers leftTasks
  dsimp only
  refine ⟨?_, ?_, ?_, ?_, ?_⟩
  · rw [runIn_eq, runIn_eq]
    exact silent.1
  · rw [runIn_eq, runIn_eq]
    exact silent.2
  · rw [runIn_eq]
    exact ownLoggers
  · intro sameLoggers
    rw [runIn_eq, runIn_eq]
    refine eq_of_silenced silent.2 ?_
    rw [ownLoggers, sameLoggers, run_loggers]
  · intro traced place recorder tracer found traces least
    refine ⟨recordsFor (.recorder place) (left.run leftTasks).emissions, ?_,
      left.getElem?_recorders_runIn found leftTasks⟩
    have everything : ∀ record ∈ recordsFor (.recorder place)
        (left.run leftTasks).emissions, decide (tracer.minimum ≤ record.level) = true := by
      intro record _
      rw [least]
      exact decide_eq_true (Nat.zero_le record.level.severity)
    rw [left.getElem?_recorders_runIn traces leftTasks,
      List.filter_eq_self.mpr everything]

/-- A gate without a ring and a polygon that cannot be cut, whose loggers are one. -/
def gatehouse (logger : Option Listener) : Workshop fun _ : Fin 1 => EarClipTessellator where
  polygons := [.named "gate" logger, { Polygon.spike with logger }]
  tools := fun _ => Polygon.worn
  contexts := [⟨.standard, Polygon.worn, logger⟩]

def gatehouseTasks (logger : Option Listener) : List (Task (Fin 1)) :=
  [.addRing 0 ⟨"post", true, [⟨0, 0, 0⟩, ⟨1, 0, 0⟩]⟩,
    .addRing 0 ⟨"lintel", true, []⟩,
    .finish 0 0 .standard logger,
    .finishAll 0 2 0,
    .texCoords 0 "summer" true]

theorem runIn_indifferent_gatehouse :
    let loud := gatehouse (some (.recorder 0))
    let loudTasks := gatehouseTasks (some (.recorder 0))
    let strict : LogBook := ⟨[.withMinimum .error], ⟨none, []⟩⟩
    let traced : LogBook := ⟨[.empty], ⟨none, []⟩⟩
    (loud.runIn strict loudTasks).answers =
        ((gatehouse none).runIn traced (gatehouseTasks (some .facade))).answers ∧
      ∃ received : List Record,
        received.map (·.level) = [.warning, .warning, .error] ∧
        (loud.runIn traced loudTasks).book.recorders[0]? = some ⟨.trace, received⟩ ∧
        (loud.runIn strict loudTasks).book.recorders[0]? =
          some ⟨.error, received.filter fun record => Level.error ≤ record.level⟩ := by
  have sameWork : (gatehouse (some (.recorder 0))).silenced = (gatehouse none).silenced :=
    rfl
  have sameTasks : (gatehouseTasks (some (.recorder 0))).map Task.silenced =
      (gatehouseTasks (some .facade)).map Task.silenced := rfl
  rcases runIn_indifferent sameWork sameTasks ⟨[.withMinimum .error], ⟨none, []⟩⟩
    ⟨[.empty], ⟨none, []⟩⟩ with ⟨answers, _, _, _, filtered⟩
  rcases filtered ⟨[.empty], ⟨none, []⟩⟩ 0 (.withMinimum .error) .empty rfl rfl rfl with
    ⟨received, everything, severe⟩
  refine ⟨answers, received, ?_, everything, severe⟩
  have levels : ((gatehouse (some (.recorder 0))).runIn ⟨[.empty], ⟨none, []⟩⟩
      (gatehouseTasks (some (.recorder 0)))).book.recorders[0]?.map
        (fun recorder => recorder.records.map (·.level)) =
      some [.warning, .warning, .error] := by
    decide +kernel
  rw [everything] at levels
  exact Option.some.inj levels

end Workshop

end PlanarMesh

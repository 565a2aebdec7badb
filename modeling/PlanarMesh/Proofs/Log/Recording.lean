import Mathlib.Algebra.BigOperators.Group.List.Basic
import Mathlib.Algebra.Order.Ring.Nat
import Mathlib.Data.List.DropRight
import PlanarMesh.Proofs.Log.Delivery

/-! # What a recorder holds

Records reach a recorder in three ways. Two of them ask first whether the level is
wanted; the recorder itself refuses nothing. After any calls it holds what was recorded
without asking, and of the rest what is severe enough, since it was last cleared. Its
views by level divide that list.
-/

namespace PlanarMesh

/-! ## Calls -/

inductive RecorderCall where
  | send (level : Level) (text : String)
  | sendFormatted (level : Level) (text : Unit → String)
  | log (level : Level) (text : String)
  | clear

namespace RecorderCall

def isClear : RecorderCall → Bool
  | .clear => true
  | _ => false

def isDirect : RecorderCall → Bool
  | .log _ _ => true
  | _ => false

def record? : RecorderCall → Option Record
  | .send level text => some ⟨level, text⟩
  | .sendFormatted level text => some ⟨level, text ()⟩
  | .log level text => some ⟨level, text⟩
  | .clear => none

/-- The record of a call, if the call is direct or the level reaches a minimum. -/
def kept? (minimum : Level) (call : RecorderCall) : Option Record :=
  call.record?.filter fun record => call.isDirect || decide (minimum ≤ record.level)

/-- The same call, but for when its text is made. -/
inductive SameMessage : RecorderCall → RecorderCall → Prop
  | refl (call : RecorderCall) : SameMessage call call
  | formatted (level : Level) (text : Unit → String) :
      SameMessage (.sendFormatted level text) (.send level (text ()))

theorem eq_clear {call : RecorderCall} (clears : call.isClear = true) : call = .clear := by
  cases call with
  | clear => rfl
  | _ => cases clears

end RecorderCall

def sinceClear (calls : List RecorderCall) : List RecorderCall :=
  calls.rtakeWhile fun call => !call.isClear

theorem sinceClear_append_clear (calls : List RecorderCall) :
    sinceClear (calls ++ [.clear]) = [] := by
  rw [sinceClear, List.rtakeWhile_concat]
  rfl

theorem sinceClear_append_of_not_clear (calls : List RecorderCall) {call : RecorderCall}
    (goesOn : call.isClear = false) :
    sinceClear (calls ++ [call]) = sinceClear calls ++ [call] := by
  rw [sinceClear, List.rtakeWhile_concat, goesOn]
  rfl

theorem Level.sum_all (level : Level) :
    (all.map fun other => if level == other then 1 else 0).sum = 1 := by
  cases level with
  | trace => rfl
  | debug => rfl
  | info => rfl
  | warning => rfl
  | error => rfl

namespace Recorder

def after (recorder : Recorder) : RecorderCall → Recorder
  | .send level text => recorder.send level text
  | .sendFormatted level text => recorder.sendFormatted level text
  | .log level text => recorder.log level text
  | .clear => recorder.clear

def afterAll (recorder : Recorder) (calls : List RecorderCall) : Recorder :=
  calls.foldl after recorder

/-! ## Records -/

theorem after_of_not_clear (recorder : Recorder) {call : RecorderCall}
    (goesOn : call.isClear = false) :
    recorder.after call =
      { recorder with
        records := recorder.records ++ (call.kept? recorder.minimum).toList } := by
  have asked : ∀ level text, recorder.send level text =
      { recorder with
        records := recorder.records ++
          ((RecorderCall.send level text).kept? recorder.minimum).toList } := by
    intro level text
    rw [RecorderCall.kept?, Option.toList_filter]
    exact recorder.sendAll_eq [⟨level, text⟩]
  cases call with
  | send level text => exact asked level text
  | sendFormatted level text => exact asked level (text ())
  | log level text => rfl
  | clear => cases goesOn

theorem minimum_after (recorder : Recorder) (call : RecorderCall) :
    (recorder.after call).minimum = recorder.minimum := by
  cases cleared : call.isClear with
  | true =>
      rw [RecorderCall.eq_clear cleared]
      rfl
  | false => rw [after_of_not_clear recorder cleared]

theorem minimum_afterAll (recorder : Recorder) (calls : List RecorderCall) :
    (recorder.afterAll calls).minimum = recorder.minimum := by
  induction calls generalizing recorder with
  | nil => rfl
  | cons call rest induction => exact (induction _).trans (minimum_after recorder call)

theorem records_afterAll (minimum : Level) (calls : List RecorderCall) :
    ((withMinimum minimum).afterAll calls).records =
      (sinceClear calls).filterMap (RecorderCall.kept? minimum) := by
  -- From the end: a last call that clears makes all the others irrelevant.
  induction calls using List.reverseRecOn with
  | nil => rfl
  | append_singleton calls call induction =>
      rw [afterAll, List.foldl_concat, ← afterAll]
      cases cleared : call.isClear with
      | true =>
          rw [RecorderCall.eq_clear cleared, sinceClear_append_clear]
          rfl
      | false =>
          have same : ((withMinimum minimum).afterAll calls).minimum = minimum :=
            minimum_afterAll (withMinimum minimum) calls
          rw [after_of_not_clear _ cleared, same, induction,
            sinceClear_append_of_not_clear calls cleared, List.filterMap_append]
          rfl

/-! ## When the text is made -/

theorem after_of_sameMessage {call other : RecorderCall} (same : call.SameMessage other)
    (recorder : Recorder) : recorder.after call = recorder.after other := by
  cases same with
  | refl => rfl
  | formatted level text => rfl

theorem afterAll_of_sameMessages {calls others : List RecorderCall}
    (same : List.Forall₂ RecorderCall.SameMessage calls others) (recorder : Recorder) :
    recorder.afterAll calls = recorder.afterAll others := by
  induction same generalizing recorder with
  | nil => rfl
  | cons first _ induction =>
      rw [afterAll, List.foldl_cons, after_of_sameMessage first]
      exact induction _

/-! ## Views by level -/

theorem map_messages (recorder : Recorder) (level : Level) :
    (recorder.messages level).map (Record.mk level) =
      recorder.records.filter (·.level == level) := by
  have restored : ∀ record ∈ recorder.records.filter (·.level == level),
      (Record.mk level ∘ (·.text)) record = id record := by
    intro record member
    have atLevel : record.level = level := by simpa using (List.mem_filter.mp member).2
    subst atLevel
    rfl
  rw [messages, List.map_map, List.map_congr_left restored, List.map_id]

theorem sublist_messages_iff (recorder : Recorder) (level : Level) (texts : List String) :
    texts.Sublist (recorder.messages level) ↔
      (texts.map (Record.mk level)).Sublist recorder.records := by
  constructor
  · intro within
    have atLevel := within.map (Record.mk level)
    rw [map_messages] at atLevel
    exact atLevel.trans List.filter_sublist
  · intro within
    -- The records of the texts are all at the level, so filtering leaves them alone.
    have whole : (texts.map (Record.mk level)).filter (·.level == level) =
        texts.map (Record.mk level) := by
      simp [List.filter_eq_self]
    have read := (within.filter (·.level == level)).map (·.text)
    rw [whole, List.map_map, ← messages] at read
    exact (List.map_id texts).symm ▸ read

theorem count_eq_length_messages (recorder : Recorder) (level : Level) :
    recorder.count level = (recorder.messages level).length := by
  rw [count, messages, List.length_map, List.countP_eq_length_filter]

theorem sum_count (recorder : Recorder) :
    (Level.all.map recorder.count).sum = recorder.size := by
  rw [size]
  unfold count
  induction recorder.records with
  | nil => rfl
  | cons record rest induction =>
      simp only [List.countP_cons]
      rw [List.sum_map_add, induction, Level.sum_all, List.length_cons]

end Recorder

/-- What a recorder holds after any calls is known from the calls alone: in their order,
the records of those since it was last cleared that are direct or severe enough. When a
text is made makes no difference. Each view by level is a subsequence that misses nothing,
and the views together have as many texts as there are records. -/
theorem Recorder.recorded_since_clear (minimum : Level) (calls : List RecorderCall) :
    let recorder := (withMinimum minimum).afterAll calls
    recorder.records = (sinceClear calls).filterMap (RecorderCall.kept? minimum) ∧
      (∀ others, List.Forall₂ RecorderCall.SameMessage calls others →
        (withMinimum minimum).afterAll others = recorder) ∧
      (∀ level,
        (∀ texts : List String, texts.Sublist (recorder.messages level) ↔
          (texts.map (Record.mk level)).Sublist recorder.records) ∧
        recorder.count level = (recorder.messages level).length) ∧
      (Level.all.map recorder.count).sum = recorder.size ∧
      recorder.size = recorder.records.length := by
  intro recorder
  refine ⟨records_afterAll minimum calls, ?_, ?_, recorder.sum_count, rfl⟩
  · intro others same
    exact (afterAll_of_sameMessages same _).symm
  · intro level
    exact ⟨recorder.sublist_messages_iff level, recorder.count_eq_length_messages level⟩

/-- An afternoon in which only warnings are wanted, but somebody insists. -/
def afternoon : List RecorderCall :=
  [.send .error "early", .clear,
    .send .info "minor",
    .sendFormatted .warning fun _ => "rough",
    .log .debug "aside",
    .sendFormatted .debug fun _ => "idle",
    .send .warning "uneven"]

def plainAfternoon : List RecorderCall :=
  [.send .error "early", .clear,
    .send .info "minor",
    .send .warning "rough",
    .log .debug "aside",
    .send .debug "idle",
    .send .warning "uneven"]

theorem Recorder.recorded_since_clear_afternoon :
    List.Forall₂ RecorderCall.SameMessage afternoon plainAfternoon ∧
      ((withMinimum .warning).afterAll plainAfternoon).records =
        [⟨.warning, "rough"⟩, ⟨.debug, "aside"⟩, ⟨.warning, "uneven"⟩] ∧
      ["rough", "uneven"].Sublist
        (((withMinimum .warning).afterAll afternoon).messages .warning) := by
  have same : List.Forall₂ RecorderCall.SameMessage afternoon plainAfternoon := by
    repeat' constructor
  rcases recorded_since_clear .warning afternoon with ⟨records, exchanged, views, _⟩
  have kept : ((withMinimum .warning).afterAll afternoon).records =
      [⟨.warning, "rough"⟩, ⟨.debug, "aside"⟩, ⟨.warning, "uneven"⟩] := by
    rw [records]
    rfl
  refine ⟨same, ?_, ?_⟩
  · rw [exchanged plainAfternoon same, kept]
  · rw [(views .warning).1, kept]
    decide

end PlanarMesh

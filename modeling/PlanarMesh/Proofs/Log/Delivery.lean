import PlanarMesh.Proofs.Log.Logged

/-! # Delivery

A log book hands every emission on at once, or all of them in the end; it comes to
the same. Whatever else is in the book, a recorder keeps the records addressed to it
that are severe enough, in the order in which they were made.
-/

namespace PlanarMesh

/-! ## Delivering on the way -/

namespace Logged

variable {α β : Type}

/-- A computation that hands its emissions to a book as it makes them. -/
def into (logged : Logged α) (book : LogBook) : α × LogBook :=
  (logged.value, book.deliver logged.emissions)

@[simp] theorem into_pure (value : α) (book : LogBook) :
    (pure value : Logged α).into book = (value, book) := rfl

theorem into_bind (first : Logged α) (next : α → Logged β) (book : LogBook) :
    (first >>= next).into book =
      (next (first.into book).1).into (first.into book).2 := by
  rw [into, emissions_bind, LogBook.deliver, List.foldl_append]
  rfl

theorem into_tell (logger : Option Listener) (level : Level) (message : Message)
    (book : LogBook) :
    (tell logger level message).into book =
      ((), match logger with
        | none => book
        | some listener => book.send ⟨listener, level, message⟩) := by
  cases logger with
  | none => rfl
  | some listener => rfl

end Logged

/-! ## What a recorder keeps -/

namespace Emission

def record (emission : Emission) : Record :=
  ⟨emission.level, emission.text⟩

end Emission

def recordsFor (listener : Listener) (emissions : List Emission) : List Record :=
  (emissions.filter (·.listener == listener)).map Emission.record

theorem recordsFor_cons (listener : Listener) (emission : Emission)
    (rest : List Emission) :
    recordsFor listener (emission :: rest) =
      if emission.listener = listener then
        emission.record :: recordsFor listener rest
      else
        recordsFor listener rest := by
  by_cases own : emission.listener = listener
  · simp [recordsFor, own]
  · simp [recordsFor, own]

namespace Recorder

def sendAll (recorder : Recorder) (records : List Record) : Recorder :=
  records.foldl (fun recorder record => recorder.send record.level record.text) recorder

@[simp] theorem sendAll_cons (recorder : Recorder) (record : Record)
    (rest : List Record) :
    recorder.sendAll (record :: rest) =
      (recorder.send record.level record.text).sendAll rest := rfl

theorem send_eq (recorder : Recorder) (level : Level) (text : String) :
    recorder.send level text =
      if recorder.accepts level then recorder.log level text else recorder := rfl

/-- It makes no difference to a recorder when the text is made. -/
theorem receive_eq_send (recorder : Recorder) (level : Level) (message : Message) :
    Receiver.receive recorder level message = recorder.send level message.text := by
  cases message with
  | ready text => rfl
  | formatted text => rfl

@[simp] theorem minimum_send (recorder : Recorder) (level : Level) (text : String) :
    (recorder.send level text).minimum = recorder.minimum := by
  rw [send_eq]
  split
  · rfl
  · rfl

/-- Exactly the severe ones are kept, behind what was there. -/
theorem sendAll_eq (recorder : Recorder) (records : List Record) :
    recorder.sendAll records =
      { recorder with
        records := recorder.records ++
          records.filter fun record => recorder.minimum ≤ record.level } := by
  induction records generalizing recorder with
  | nil => simp [sendAll]
  | cons record rest induction =>
      rw [sendAll_cons, induction, minimum_send]
      by_cases severe : recorder.minimum ≤ record.level
      · simp [send_eq, accepts, log, severe]
      · simp [send_eq, accepts, severe]

end Recorder

namespace LogBook

theorem getElem?_recorders_send (book : LogBook) (emission : Emission) (place : Nat) :
    (book.send emission).recorders[place]? =
      book.recorders[place]?.map fun recorder =>
        if emission.listener = .recorder place then
          Receiver.receive recorder emission.level emission.message
        else
          recorder := by
  rcases emission with ⟨addressed | _, level, message⟩
  · by_cases own : addressed = place
    · simp [send, own]
    · simp [send, own]
  · simp [send]

/-- A recorder notices nothing of what others are told. -/
theorem getElem?_recorders_deliver (book : LogBook) (emissions : List Emission)
    (place : Nat) :
    (book.deliver emissions).recorders[place]? =
      book.recorders[place]?.map (·.sendAll (recordsFor (.recorder place) emissions)) := by
  induction emissions generalizing book with
  | nil => simp [deliver, recordsFor, Recorder.sendAll]
  | cons emission rest induction =>
      rw [deliver, List.foldl_cons, ← deliver, induction, getElem?_recorders_send,
        Option.map_map, recordsFor_cons]
      congr 1
      funext recorder
      dsimp only [Function.comp_apply]
      split
      · rw [Recorder.receive_eq_send]
        rfl
      · rfl

end LogBook

end PlanarMesh

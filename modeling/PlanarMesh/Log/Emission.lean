import PlanarMesh.Log.Recorder

/-! # Emissions

Building geometry does not write to receivers. It returns, beside its value, the
emissions that it makes, each addressed to a listener; a `LogBook` delivers them.
So a value can never depend on who listens.
-/

namespace PlanarMesh

inductive Listener where
  | recorder (place : Nat)
  | facade
deriving DecidableEq, Repr

structure Emission where
  listener : Listener
  level : Level
  message : Message

def Emission.text (emission : Emission) : String :=
  emission.message.text

/-- A value with the emissions made on the way to it, in order. -/
structure Logged (α : Type) where
  value : α
  emissions : List Emission

namespace Logged

instance : Monad Logged where
  pure value := ⟨value, []⟩
  bind first next :=
    let second := next first.value
    ⟨second.value, first.emissions ++ second.emissions⟩

def tell (listener : Option Listener) (level : Level) (message : Message) : Logged Unit :=
  ⟨(), listener.toList.map fun receiver => ⟨receiver, level, message⟩⟩

/-- Notes a step of the library's own work for whoever watches the process. -/
def note (level : Level) (text : String) : Logged Unit :=
  tell (some .facade) level (.formatted fun _ => text)

end Logged

structure LogBook where
  recorders : List Recorder
  facade : Facade

namespace LogBook

/-- Hands an emission to its listener, which keeps it if it wants the level. -/
def send (book : LogBook) (emission : Emission) : LogBook :=
  match emission.listener with
  | .recorder place =>
      { book with
        recorders := book.recorders.modify place
          (Receiver.receive · emission.level emission.message) }
  | .facade =>
      { book with
        facade := Receiver.receive book.facade emission.level emission.message }

def deliver (book : LogBook) (emissions : List Emission) : LogBook :=
  emissions.foldl send book

end LogBook

end PlanarMesh

import PlanarMesh.Log.Level

/-! # Receivers of log records

A receiver is told something in one of two ways, and both ask first whether the level
is wanted. A `Recorder` keeps what it is told in memory. A `Facade` stands for the
logging facility of the whole process: it is off, or lets through every record that is
severe enough.
-/

namespace PlanarMesh

/-- What somebody is to be told: a text that was made in any case, or one that is made
only if the level is wanted. -/
inductive Message where
  | ready (text : String)
  | formatted (text : Unit → String)

instance : Coe String Message := ⟨.ready⟩

def Message.text : Message → String
  | .ready text => text
  | .formatted text => text ()

class Receiver (ρ : Type) where
  accepts : ρ → Level → Bool
  /-- Hands a record over without asking for its level. -/
  log : ρ → Level → String → ρ

namespace Receiver

variable {ρ : Type} [Receiver ρ]

def send (receiver : ρ) (level : Level) (text : String) : ρ :=
  if accepts receiver level then log receiver level text else receiver

/-- The text is made only if the level is accepted. -/
def sendFormatted (receiver : ρ) (level : Level) (text : Unit → String) : ρ :=
  if accepts receiver level then log receiver level (text ()) else receiver

def receive (receiver : ρ) (level : Level) : Message → ρ
  | .ready text => send receiver level text
  | .formatted text => sendFormatted receiver level text

end Receiver

structure Recorder where
  minimum : Level
  records : List Record
deriving Repr

namespace Recorder

def withMinimum (minimum : Level) : Recorder := ⟨minimum, []⟩

def empty : Recorder := withMinimum .trace

def accepts (recorder : Recorder) (level : Level) : Bool :=
  decide (recorder.minimum ≤ level)

/-- Keeps a record whatever its level. -/
def log (recorder : Recorder) (level : Level) (text : String) : Recorder :=
  { recorder with records := recorder.records ++ [⟨level, text⟩] }

instance : Receiver Recorder where
  accepts := accepts
  log := log

def send (recorder : Recorder) (level : Level) (text : String) : Recorder :=
  Receiver.send recorder level text

def sendFormatted (recorder : Recorder) (level : Level) (text : Unit → String) :
    Recorder :=
  Receiver.sendFormatted recorder level text

def clear (recorder : Recorder) : Recorder :=
  { recorder with records := [] }

def size (recorder : Recorder) : Nat :=
  recorder.records.length

def isEmpty (recorder : Recorder) : Bool :=
  recorder.size == 0

def messages (recorder : Recorder) (level : Level) : List String :=
  (recorder.records.filter (·.level == level)).map (·.text)

def count (recorder : Recorder) (level : Level) : Nat :=
  recorder.records.countP (·.level == level)

end Recorder

structure Facade where
  /-- The least severe level let through; none when the facade is off. -/
  threshold : Option Level
  records : List Record

namespace Facade

def target : String := "citygml_polygon"

def accepts (facade : Facade) (level : Level) : Bool :=
  facade.threshold.any fun threshold => decide (threshold ≤ level)

def log (facade : Facade) (level : Level) (text : String) : Facade :=
  if facade.accepts level then
    { facade with records := facade.records ++ [⟨level, text⟩] }
  else
    facade

instance : Receiver Facade where
  accepts := accepts
  log := log

end Facade

end PlanarMesh

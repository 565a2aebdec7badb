/-! # Severity levels of log records -/

namespace PlanarMesh

inductive Level where
  | trace
  | debug
  | info
  | warning
  | error
deriving DecidableEq, Repr

namespace Level

def all : List Level := [.trace, .debug, .info, .warning, .error]

def severity : Level → Nat
  | .trace => 0
  | .debug => 1
  | .info => 2
  | .warning => 3
  | .error => 4

instance : LE Level where
  le left right := left.severity ≤ right.severity

instance : LT Level where
  lt left right := left.severity < right.severity

instance : DecidableLE Level :=
  fun left right => inferInstanceAs (Decidable (left.severity ≤ right.severity))

instance : DecidableLT Level :=
  fun left right => inferInstanceAs (Decidable (left.severity < right.severity))

instance : Ord Level where
  compare left right := compare left.severity right.severity

def name : Level → String
  | .trace => "TRACE"
  | .debug => "DEBUG"
  | .info => "INFO"
  | .warning => "WARNING"
  | .error => "ERROR"

/-- How the process-wide facade writes a level; it shortens one of the names. -/
def facadeName : Level → String
  | .warning => "WARN"
  | level => level.name

end Level

structure Record where
  level : Level
  text : String
deriving DecidableEq, Repr

end PlanarMesh

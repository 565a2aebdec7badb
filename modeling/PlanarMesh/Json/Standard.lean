import PlanarMesh.Json.Codec

/-! # The standard codec

Reads JSON up to the first fault from the left and writes it without blanks. Which float
a decimal is read as is left open; `Codec.nearest` takes the nearest.
-/

namespace PlanarMesh.Json

/-! ## Fields -/

/-- The fault of a value of the wrong type, which is read as far as its own
mistakes can show. -/
def faultOfOther (toFloat : Decimal → Float) : List Char → Fault
  | [] => .ended
  | character :: rest =>
      let asUnfit {α : Type} (result : Except Fault α) : Fault :=
        match result with
        | .error fault => fault
        | .ok _ => .unfit
      match character with
      | 'n' => asUnfit (readWord ['u', 'l', 'l'] rest)
      | 't' => asUnfit (readWord ['r', 'u', 'e'] rest)
      | 'f' => asUnfit (readWord ['a', 'l', 's', 'e'] rest)
      | '"' => asUnfit (readQuoted 0 rest)
      | '[' => .unfit
      | '{' => .unfit
      | _ =>
          if character = '-' ∨ isDigit character then
            asUnfit (readNumber toFloat (character :: rest))
          else
            .malformed

def readNumberField (toFloat : Decimal → Float) (input : List Char) :
    Except Fault (Float × List Char) :=
  match skipBlanks input with
  | [] => .error .ended
  | character :: rest =>
      if character = '-' ∨ isDigit character then
        readNumber toFloat (character :: rest)
      else
        .error (faultOfOther toFloat (character :: rest))

def readFlagField (toFloat : Decimal → Float) (input : List Char) :
    Except Fault (Bool × List Char) :=
  match skipBlanks input with
  | 't' :: rest => (readWord ['r', 'u', 'e'] rest).map fun rest => (true, rest)
  | 'f' :: rest => (readWord ['a', 'l', 's', 'e'] rest).map fun rest => (false, rest)
  | other => .error (faultOfOther toFloat other)

/-! ## Objects -/

def openRecord (toFloat : Decimal → Float) (text : List Char) :
    Except Fault (Container × List Char) :=
  match skipBlanks text with
  | '{' :: rest => .ok (.object, rest)
  | '[' :: rest => .ok (.array, rest)
  | other => .error (faultOfOther toFloat other)

def seekName (first : Bool) (input : List Char) : Except Fault (Bool × List Char) :=
  match skipBlanks input with
  | [] => .error .ended
  | character :: rest =>
      if character = '}' then
        .ok (false, rest)
      else if first then
        if character = '"' then .ok (true, rest) else .error .malformed
      else if character = ',' then
        match skipBlanks rest with
        | [] => .error .ended
        | next :: rest => if next = '"' then .ok (true, rest) else .error .malformed
      else
        .error .malformed

def nextName (first : Bool) (input : List Char) : Except Fault (Option String × List Char) := do
  let (more, rest) ← seekName first input
  if more then
    let (name, rest) ← readQuoted 0 rest
    .ok (some (String.ofList name), rest)
  else
    .ok (none, rest)

def passColon (input : List Char) : Except Fault (List Char) :=
  match skipBlanks input with
  | [] => .error .ended
  | character :: rest => if character = ':' then .ok rest else .error .malformed

/-! ## Arrays -/

def nextItem (first : Bool) (input : List Char) : Except Fault (Bool × List Char) :=
  match skipBlanks input with
  | [] => .error .ended
  | character :: rest =>
      if character = ']' then
        .ok (false, character :: rest)
      else if first then
        .ok (true, character :: rest)
      else if character = ',' then
        match skipBlanks rest with
        | [] => .error .ended
        | next :: rest => if next = ']' then .error .malformed else .ok (true, next :: rest)
      else
        .error .malformed

def closeArray (input : List Char) : Except Fault (List Char) :=
  match skipBlanks input with
  | [] => .error .ended
  | character :: rest => if character = ']' then .ok rest else .error .malformed

def closeText (input : List Char) : Except Fault Unit :=
  if (skipBlanks input).isEmpty then .ok () else .error .malformed

/-! ## The codec -/

def Library.standard (toFloat : Decimal → Float) : Library where
  write := Document.compact
  openRecord := Json.openRecord toFloat
  nextName := Json.nextName
  passColon := Json.passColon
  skipValue := Json.skipValue
  readNumber := Json.readNumberField toFloat
  readFlag := Json.readFlagField toFloat
  nextItem := Json.nextItem
  closeArray := Json.closeArray
  closeText := Json.closeText

namespace RecordShape

variable {α : Type} (library : Library) (shape : RecordShape α)

def readMembers : (bound : Nat) → (first : Bool) → (found : List (String × α)) → List Char →
    Except Fault (List α × List Char)
  | 0, _, _, _ => .error .ended
  | bound + 1, first, found, input =>
      shape.memberStep library (readMembers bound) first found input

def readItems : (names : List String) → (first : Bool) → List Char →
    Except Fault (List α × List Char)
  | [], _, input => .ok ([], input)
  | _ :: names, first, input => shape.itemStep library (readItems names) first input

end RecordShape

/-- Each member takes at least one character, so the bound on their number is never met. -/
def Codec.standard (toFloat : Decimal → Float) : Codec where
  toLibrary := .standard toFloat
  readMembers shape first found input :=
    shape.readMembers (.standard toFloat) (input.length + 1) first found input
  readItems shape := shape.readItems (.standard toFloat)

def Codec.nearest : Codec := .standard Decimal.toFloat

end PlanarMesh.Json

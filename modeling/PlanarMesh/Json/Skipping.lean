import PlanarMesh.Json.Lexical

/-! # Skipping a value

`skipValue` goes over one JSON value without building it. It keeps the open arrays
and objects on a stack and what may come next as a `Place`. A skipped text may hold
half of a pair of code units, and a skipped number may have any size.
-/

namespace PlanarMesh.Json

inductive Container where
  | array
  | object
deriving DecidableEq, Repr

inductive Place where
  | value
  | opened
  | after
  | name
  | colon
deriving DecidableEq, Repr

/-! ## Lengths of words -/

def escapeLength : List Char → Except Fault Nat
  | [] => .error .ended
  | 'u' :: digits => (codeUnit digits).map fun _ => 5
  | letter :: _ => if (letterEscape? letter).isSome then .ok 1 else .error .malformed

def quotedLength : Nat → List Char → Except Fault Nat
  | _, [] => .error .ended
  | understood + 1, _ :: rest => (quotedLength understood rest).map (· + 1)
  | 0, character :: rest =>
      if character = '"' then
        .ok 1
      else if character = '\\' then
        match escapeLength rest with
        | .error fault => .error fault
        | .ok length => (quotedLength length rest).map (· + 1)
      else if character.toNat < 0x20 then
        .error .malformed
      else
        (quotedLength 0 rest).map (· + 1)

/-- Digits of a number that is not needed: a missing one is a mistake in the
number, also at the end of the text. -/
def anyDigits (input : List Char) : Except Fault (List Char) :=
  if (input.takeWhile isDigit).isEmpty then .error .malformed
  else .ok (input.dropWhile isDigit)

def skipWhole : List Char → Except Fault (List Char)
  | '0' :: rest => if (rest.head?.any isDigit) then .error .malformed else .ok rest
  | input => anyDigits input

def skipFraction : List Char → Except Fault (List Char)
  | '.' :: rest => anyDigits rest
  | input => .ok input

def skipExponent : List Char → Except Fault (List Char)
  | mark :: rest =>
      if mark = 'e' ∨ mark = 'E' then
        match rest with
        | '-' :: digits => anyDigits digits
        | '+' :: digits => anyDigits digits
        | digits => anyDigits digits
      else
        .ok (mark :: rest)
  | [] => .ok []

def numberLength (input : List Char) : Except Fault Nat := do
  let unsigned :=
    match input with
    | '-' :: rest => rest
    | _ => input
  let rest ← skipWhole unsigned
  let rest ← skipFraction rest
  let rest ← skipExponent rest
  .ok (input.length - rest.length)

/-! ## One character at a time -/

/-- Where the reading stands after a character and the word that it begins. The
last part of the answer counts the characters of that word still to pass. -/
def advance (enclosing : List Container) (place : Place) (character : Char)
    (rest : List Char) : Except Fault (List Container × Place × Nat) :=
  let beginValue : Except Fault (List Container × Place × Nat) :=
    match character with
    | 'n' => (readWord ['u', 'l', 'l'] rest).map fun _ => (enclosing, .after, 3)
    | 't' => (readWord ['r', 'u', 'e'] rest).map fun _ => (enclosing, .after, 3)
    | 'f' => (readWord ['a', 'l', 's', 'e'] rest).map fun _ => (enclosing, .after, 4)
    | '"' => (quotedLength 0 rest).map fun length => (enclosing, .after, length)
    | '[' => .ok (.array :: enclosing, .opened, 0)
    | '{' => .ok (.object :: enclosing, .opened, 0)
    | _ =>
        if character = '-' ∨ isDigit character then
          (numberLength (character :: rest)).map fun length => (enclosing, .after, length - 1)
        else
          .error .malformed
  let beginName : Except Fault (List Container × Place × Nat) :=
    if character = '"' then
      (quotedLength 0 rest).map fun length => (enclosing, .colon, length)
    else
      .error .malformed
  match place, enclosing with
  | .value, _ => beginValue
  | .name, _ => beginName
  | .colon, _ =>
      if character = ':' then .ok (enclosing, .value, 0) else .error .malformed
  | .opened, .array :: outer =>
      if character = ']' then .ok (outer, .after, 0) else beginValue
  | .opened, .object :: outer =>
      if character = '}' then .ok (outer, .after, 0) else beginName
  | .after, .array :: outer =>
      if character = ']' then .ok (outer, .after, 0)
      else if character = ',' then .ok (enclosing, .value, 0)
      else .error .malformed
  | .after, .object :: outer =>
      if character = '}' then .ok (outer, .after, 0)
      else if character = ',' then .ok (enclosing, .name, 0)
      else .error .malformed
  | .opened, [] => .error .malformed
  | .after, [] => .error .malformed

def skipFrom (enclosing : List Container) (place : Place) :
    Nat → List Char → Except Fault (List Char)
  | pending + 1, _ :: rest => skipFrom enclosing place pending rest
  | _, [] => if enclosing.isEmpty ∧ place = .after then .ok [] else .error .ended
  | 0, character :: rest =>
      if enclosing.isEmpty ∧ place = .after then
        .ok (character :: rest)
      else if isBlank character then
        skipFrom enclosing place 0 rest
      else
        match advance enclosing place character rest with
        | .error fault => .error fault
        | .ok (enclosing, place, pending) => skipFrom enclosing place pending rest

def skipValue (input : List Char) : Except Fault (List Char) :=
  skipFrom [] .value 0 input

end PlanarMesh.Json

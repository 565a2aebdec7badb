import PlanarMesh.Json.Document
import PlanarMesh.Json.Skipping

/-! # Libraries for JSON and the records that are read with them

A `Library` writes documents and gives a decoder the pieces of a text one by one. A
`Codec` is a library together with the loops over members and items that are derived for
records of named fields. Both are parameters of whatever is read or written with them.

Readers take the characters that are left and give back what they read together with
the characters after it.
-/

namespace PlanarMesh.Json

structure Library where
  write : Document → List Char
  openRecord : List Char → Except Fault (Container × List Char)
  /-- The name of the next member, or none with the characters behind the closing brace. -/
  nextName : (first : Bool) → List Char → Except Fault (Option String × List Char)
  passColon : List Char → Except Fault (List Char)
  skipValue : List Char → Except Fault (List Char)
  readNumber : List Char → Except Fault (Float × List Char)
  readFlag : List Char → Except Fault (Bool × List Char)
  /-- Whether there is another item, with the characters from its first one on or those in
  front of the closing bracket. -/
  nextItem : (first : Bool) → List Char → Except Fault (Bool × List Char)
  closeArray : List Char → Except Fault (List Char)
  closeText : List Char → Except Fault Unit

inductive FieldType : Type → Type where
  | number : FieldType Float
  | flag : FieldType Bool

namespace FieldType

variable {α : Type}

def read (library : Library) : FieldType α → List Char → Except Fault (α × List Char)
  | .number => library.readNumber
  | .flag => library.readFlag

def document : FieldType α → α → Document
  | .number => .number
  | .flag => .flag

end FieldType

/-- A record whose fields are all of one type, in the order of their declaration. -/
structure RecordShape (α : Type) where
  names : List String
  fieldType : FieldType α
  /-- What a field that is left out is taken to be; none if it has to be there. -/
  missing : Option α

namespace RecordShape

variable {α : Type} (library : Library) (shape : RecordShape α)

def collect (found : List (String × α)) : Except Fault (List α) :=
  match shape.names.mapM fun name => (found.lookup name).or shape.missing with
  | some fields => .ok fields
  | none => .error .unfit

/-- One member of an object, where `others` goes on behind it. A member that was there
before is refused by its name, in front of its value. -/
def memberStep
    (others : (first : Bool) → List (String × α) → List Char → Except Fault (List α × List Char))
    (first : Bool) (found : List (String × α)) (input : List Char) :
    Except Fault (List α × List Char) := do
  let (name, rest) ← library.nextName first input
  match name with
  | none =>
      let fields ← shape.collect found
      .ok (fields, rest)
  | some name =>
      if name ∈ shape.names then
        if (found.lookup name).isSome then
          .error .unfit
        else
          let rest ← library.passColon rest
          let (value, rest) ← shape.fieldType.read library rest
          others false ((name, value) :: found) rest
      else
        let rest ← library.passColon rest
        let rest ← library.skipValue rest
        others false found rest

def itemStep (others : (first : Bool) → List Char → Except Fault (List α × List Char))
    (first : Bool) (input : List Char) : Except Fault (List α × List Char) := do
  let (more, rest) ← library.nextItem first input
  if more then
    let (value, rest) ← shape.fieldType.read library rest
    let (values, rest) ← others false rest
    .ok (value :: values, rest)
  else
    match shape.missing with
    | none => .error .unfit
    | some value =>
        let (values, rest) ← others first rest
        .ok (value :: values, rest)

end RecordShape

structure Codec extends Library where
  /-- Reads members up to the closing brace, after those that are found. -/
  readMembers {α : Type} (shape : RecordShape α) (first : Bool) (found : List (String × α))
    (input : List Char) : Except Fault (List α × List Char)
  readItems {α : Type} (shape : RecordShape α) (names : List String) (first : Bool)
    (input : List Char) : Except Fault (List α × List Char)

namespace Codec

variable {α β : Type} (codec : Codec)

def decodeFields (shape : RecordShape α) (text : List Char) : Except Fault (List α) := do
  let (container, rest) ← codec.openRecord text
  match container with
  | .object =>
      let (fields, rest) ← codec.readMembers shape true [] rest
      codec.closeText rest
      .ok fields
  | .array =>
      let (fields, rest) ← codec.readItems shape shape.names true rest
      let rest ← codec.closeArray rest
      codec.closeText rest
      .ok fields

/-- Builds a value from the fields read, which are as many as the shape names. -/
def decode (shape : RecordShape α) (build : List α → Option β) (text : String) :
    Except Fault β := do
  let fields ← codec.decodeFields shape text.toList
  match build fields with
  | some value => .ok value
  | none => .error .unfit

def encode (document : Document) : String :=
  String.ofList (codec.write document)

end Codec

end PlanarMesh.Json

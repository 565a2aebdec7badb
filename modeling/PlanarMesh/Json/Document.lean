import PlanarMesh.Decimal.Layout
import PlanarMesh.Decimal.Shortest

/-! # JSON documents and their text

`Document.compact` writes a document without any blank, `Document.pretty` with one
item to a line. Both write the members of an object in the order in which they
are listed.
-/

namespace PlanarMesh.Json

inductive Document where
  | null
  | flag (value : Bool)
  | natural (value : Nat)
  | number (value : Float)
  | text (value : String)
  | array (items : List Document)
  | object (members : List (String × Document))

/-- Numbers are positional between `0.00001` and the last number below `1e16`. -/
def numberLayout : Decimal.Layout := ⟨some (-5, 15), ['.', '0']⟩

/-- JSON knows neither NaN nor infinities; they become `null`. -/
def numberText (value : Float) : List Char :=
  if value.isFinite then
    (Decimal.shortest value).render numberLayout
  else
    ['n', 'u', 'l', 'l']

def flagText : Bool → List Char
  | true => ['t', 'r', 'u', 'e']
  | false => ['f', 'a', 'l', 's', 'e']

/-- A character as it stands in a quoted text. Only the quote, the backslash and
control characters need an escape. -/
def escaped : Char → List Char
  | '"' => ['\\', '"']
  | '\\' => ['\\', '\\']
  | '\n' => ['\\', 'n']
  | '\t' => ['\\', 't']
  | '\r' => ['\\', 'r']
  | '\x08' => ['\\', 'b']
  | '\x0c' => ['\\', 'f']
  | character =>
      if character.toNat < 0x20 then
        ['\\', 'u', '0', '0', Nat.digitChar (character.toNat / 16),
          Nat.digitChar (character.toNat % 16)]
      else
        [character]

def quoted (text : List Char) : List Char :=
  '"' :: text.flatMap escaped ++ ['"']

namespace Document

mutual

def compact : Document → List Char
  | .null => ['n', 'u', 'l', 'l']
  | .flag value => flagText value
  | .natural value => Nat.toDigits 10 value
  | .number value => numberText value
  | .text value => quoted value.toList
  | .array items => '[' :: compactItems items ++ [']']
  | .object members => '{' :: compactMembers members ++ ['}']

def compactItems : List Document → List Char
  | [] => []
  | [item] => compact item
  | item :: next :: rest => compact item ++ ',' :: compactItems (next :: rest)

def compactMembers : List (String × Document) → List Char
  | [] => []
  | [(name, value)] => quoted name.toList ++ ':' :: compact value
  | (name, value) :: next :: rest =>
      quoted name.toList ++ ':' :: compact value ++ ',' :: compactMembers (next :: rest)

end

def lineBreak (depth : Nat) : List Char :=
  '\n' :: List.replicate (2 * depth) ' '

mutual

def prettyAt (depth : Nat) : Document → List Char
  | .array (item :: rest) =>
      '[' :: prettyItems (depth + 1) (item :: rest) ++ lineBreak depth ++ [']']
  | .object (member :: rest) =>
      '{' :: prettyMembers (depth + 1) (member :: rest) ++ lineBreak depth ++ ['}']
  | .array [] => ['[', ']']
  | .object [] => ['{', '}']
  | .null => ['n', 'u', 'l', 'l']
  | .flag value => flagText value
  | .natural value => Nat.toDigits 10 value
  | .number value => numberText value
  | .text value => quoted value.toList

def prettyItems (depth : Nat) : List Document → List Char
  | [] => []
  | [item] => lineBreak depth ++ prettyAt depth item
  | item :: next :: rest =>
      lineBreak depth ++ prettyAt depth item ++ ',' :: prettyItems depth (next :: rest)

def prettyMembers (depth : Nat) : List (String × Document) → List Char
  | [] => []
  | [(name, value)] =>
      lineBreak depth ++ quoted name.toList ++ ':' :: ' ' :: prettyAt depth value
  | (name, value) :: next :: rest =>
      lineBreak depth ++ quoted name.toList ++ ':' :: ' ' :: prettyAt depth value ++
        ',' :: prettyMembers depth (next :: rest)

end

def compactText (document : Document) : String :=
  String.ofList document.compact

def prettyText (document : Document) : String :=
  String.ofList (document.prettyAt 0)

end Document

end PlanarMesh.Json

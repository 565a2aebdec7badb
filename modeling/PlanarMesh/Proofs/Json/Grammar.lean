import PlanarMesh.Json.Document
import PlanarMesh.Proofs.Json.NumberText

/-! # The grammar of JSON

The phrases of JSON as sets of texts: blanks, quoted texts, and the values that are built
of them. `Denotes` says which characters a quoted text stands for; a text that holds half
of a pair of code units is a phrase all the same, but it stands for nothing.
-/

namespace PlanarMesh.Json

def Blanks (text : List Char) : Prop :=
  ∀ character ∈ text, isBlank character = true

theorem blanks_nil : Blanks [] := fun _ member => by cases member

theorem Blanks.append {first second : List Char} (blankFirst : Blanks first)
    (blankSecond : Blanks second) : Blanks (first ++ second) := fun character member =>
  (List.mem_append.mp member).elim (blankFirst character) (blankSecond character)

/-! ## Quoted texts -/

def DenotesUnit (digits : List Char) (unit : Nat) : Prop :=
  ∃ first second third fourth,
    digits.mapM hexDigit? = some [first, second, third, fourth] ∧
      unit = 0x1000 * first + 0x100 * second + 0x10 * third + fourth

def IsPlain (character : Char) : Prop :=
  0x20 ≤ character.toNat ∧ character ≠ '"' ∧ character ≠ '\\'

inductive IsQuoted : List Char → Prop
  | nothing : IsQuoted []
  | plain {character : Char} {body : List Char} (isPlain : IsPlain character)
      (rest : IsQuoted body) : IsQuoted (character :: body)
  | letter {letter denoted : Char} {body : List Char} (escape : letterEscape? letter = some denoted)
      (rest : IsQuoted body) : IsQuoted ('\\' :: letter :: body)
  | unit {digits body : List Char} {unit : Nat} (denoted : DenotesUnit digits unit)
      (rest : IsQuoted body) : IsQuoted ('\\' :: 'u' :: (digits ++ body))

/-- The characters that a quoted text denotes. -/
inductive Denotes : List Char → List Char → Prop
  | nothing : Denotes [] []
  | plain {character : Char} {body characters : List Char} (isPlain : IsPlain character)
      (rest : Denotes body characters) : Denotes (character :: body) (character :: characters)
  | letter {letter denoted : Char} {body characters : List Char}
      (escape : letterEscape? letter = some denoted) (rest : Denotes body characters) :
      Denotes ('\\' :: letter :: body) (denoted :: characters)
  | unit {digits body characters : List Char} {unit : Nat} (denoted : DenotesUnit digits unit)
      (notLeading : isLeading unit = false) (notTrailing : isTrailing unit = false)
      (rest : Denotes body characters) :
      Denotes ('\\' :: 'u' :: (digits ++ body)) (Char.ofNat unit :: characters)
  | pair {first second body characters : List Char} {leading trailing : Nat}
      (denotedFirst : DenotesUnit first leading) (leads : isLeading leading = true)
      (denotedSecond : DenotesUnit second trailing) (trails : isTrailing trailing = true)
      (rest : Denotes body characters) :
      Denotes ('\\' :: 'u' :: (first ++ '\\' :: 'u' :: (second ++ body)))
        (pairedChar leading trailing :: characters)

/-! ## Values -/

inductive Category where
  | value
  | items
  | members
deriving DecidableEq, Repr

inductive Phrase : Category → List Char → Prop
  | null : Phrase .value ['n', 'u', 'l', 'l']
  | flag (value : Bool) : Phrase .value (flagText value)
  | number (number : NumberText) : Phrase .value number.text
  | text {body : List Char} (quoted : IsQuoted body) : Phrase .value ('"' :: (body ++ ['"']))
  | emptyArray {blanks : List Char} (blank : Blanks blanks) :
      Phrase .value ('[' :: (blanks ++ [']']))
  | array {items : List Char} (content : Phrase .items items) :
      Phrase .value ('[' :: (items ++ [']']))
  | emptyObject {blanks : List Char} (blank : Blanks blanks) :
      Phrase .value ('{' :: (blanks ++ ['}']))
  | object {members : List Char} (content : Phrase .members members) :
      Phrase .value ('{' :: (members ++ ['}']))
  | lastItem {lead value trail : List Char} (blankLead : Blanks lead)
      (isValue : Phrase .value value) (blankTrail : Blanks trail) :
      Phrase .items (lead ++ (value ++ trail))
  | item {lead value trail items : List Char} (blankLead : Blanks lead)
      (isValue : Phrase .value value) (blankTrail : Blanks trail) (more : Phrase .items items) :
      Phrase .items (lead ++ (value ++ (trail ++ ',' :: items)))
  | lastMember {lead name gap pad value trail : List Char} (blankLead : Blanks lead)
      (quoted : IsQuoted name) (blankGap : Blanks gap) (blankPad : Blanks pad)
      (isValue : Phrase .value value) (blankTrail : Blanks trail) :
      Phrase .members (lead ++ '"' :: (name ++ '"' :: (gap ++ ':' :: (pad ++ (value ++ trail)))))
  | member {lead name gap pad value trail members : List Char} (blankLead : Blanks lead)
      (quoted : IsQuoted name) (blankGap : Blanks gap) (blankPad : Blanks pad)
      (isValue : Phrase .value value) (blankTrail : Blanks trail)
      (more : Phrase .members members) :
      Phrase .members (lead ++ '"' :: (name ++ '"' :: (gap ++ ':' :: (pad ++
        (value ++ (trail ++ ',' :: members))))))

abbrev IsValue : List Char → Prop := Phrase .value

end PlanarMesh.Json

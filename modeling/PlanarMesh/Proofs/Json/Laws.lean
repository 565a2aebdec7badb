import PlanarMesh.Json.Codec
import PlanarMesh.Proofs.Json.Objects

/-! # What is expected of a codec

`Library.Lawful` says what a library does with the pieces of a text that the grammar of
JSON allows, and how it writes records. It says nothing of the float that is read for a
number but that it is the same float everywhere; that a number which is written is read as
itself is a separate assumption, `Library.ReadsBack`, on just the number at hand.
`Codec.Lawful` adds that records are read one member or one item after the other.
-/

namespace PlanarMesh.Json

structure Library.Lawful (library : Library) : Prop where
  openRecord_object {blanks : List Char} (blank : Blanks blanks) (rest : List Char) :
    library.openRecord (blanks ++ '{' :: rest) = .ok (.object, rest)
  openRecord_array {blanks : List Char} (blank : Blanks blanks) (rest : List Char) :
    library.openRecord (blanks ++ '[' :: rest) = .ok (.array, rest)
  nextName_first {name : String} {lead body : List Char} (blankLead : Blanks lead)
    (denotes : Denotes body name.toList) (rest : List Char) :
    library.nextName true (lead ++ '"' :: (body ++ '"' :: rest)) = .ok (some name, rest)
  nextName_next {name : String} {trail lead body : List Char} (blankTrail : Blanks trail)
    (blankLead : Blanks lead) (denotes : Denotes body name.toList) (rest : List Char) :
    library.nextName false (trail ++ ',' :: (lead ++ '"' :: (body ++ '"' :: rest))) =
      .ok (some name, rest)
  nextName_close (first : Bool) {blanks : List Char} (blank : Blanks blanks)
    (rest : List Char) : library.nextName first (blanks ++ '}' :: rest) = .ok (none, rest)
  passColon_append {gap : List Char} (blankGap : Blanks gap) (rest : List Char) :
    library.passColon (gap ++ ':' :: rest) = .ok rest
  skipValue_append {pad value rest : List Char} (blankPad : Blanks pad) (isValue : IsValue value)
    (ends : EndsNumber rest) : library.skipValue (pad ++ (value ++ rest)) = .ok rest
  readNumber_append (number : NumberText) {pad rest : List Char} (blankPad : Blanks pad)
    (ends : EndsNumber rest) : library.readNumber (pad ++ (number.text ++ rest)) =
      (library.readNumber number.text).map fun read => (read.1, rest)
  readNumber_other {pad value rest : List Char} (blankPad : Blanks pad) (isValue : IsValue value)
    (isOther : ∀ number : NumberText, value ≠ number.text) (ends : EndsNumber rest) :
    ∃ fault, library.readNumber (pad ++ (value ++ rest)) = .error fault
  readFlag_append (flag : Bool) {pad rest : List Char} (blankPad : Blanks pad)
    (ends : EndsNumber rest) :
    library.readFlag (pad ++ (flagText flag ++ rest)) = .ok (flag, rest)
  readFlag_other {pad value rest : List Char} (blankPad : Blanks pad) (isValue : IsValue value)
    (isOther : ∀ flag, value ≠ flagText flag) (ends : EndsNumber rest) :
    ∃ fault, library.readFlag (pad ++ (value ++ rest)) = .error fault
  nextItem_first {lead value : List Char} (blankLead : Blanks lead) (isValue : IsValue value)
    (rest : List Char) :
    library.nextItem true (lead ++ (value ++ rest)) = .ok (true, value ++ rest)
  nextItem_next {trail lead value : List Char} (blankTrail : Blanks trail)
    (blankLead : Blanks lead) (isValue : IsValue value) (rest : List Char) :
    library.nextItem false (trail ++ ',' :: (lead ++ (value ++ rest))) =
      .ok (true, value ++ rest)
  closeArray_append {blanks : List Char} (blank : Blanks blanks) (rest : List Char) :
    library.closeArray (blanks ++ ']' :: rest) = .ok rest
  closeText_blanks {blanks : List Char} (blank : Blanks blanks) :
    library.closeText blanks = .ok ()
  write_object {members : List (String × Document)}
    (areValues : ∀ member ∈ members, IsValue (library.write member.2)) :
    ∃ object : ObjectText, library.write (.object members) = object.text ∧
      object.members.map (fun member => (member.name, member.value)) =
        members.map fun member => (member.1, library.write member.2)
  write_flag (flag : Bool) : library.write (.flag flag) = flagText flag
  write_finite {number : Float} (finite : number.isFinite = true) :
    ∃ text : NumberText, library.write (.number number) = text.text
  write_infinite {number : Float} (infinite : number.isFinite = false) :
    library.write (.number number) = ['n', 'u', 'l', 'l']

/-- The text that is written for a number is read as the same float. Not every library does
this for every number, since reading may round more than once. -/
def Library.ReadsBack (library : Library) (number : Float) : Prop :=
  library.readNumber (library.write (.number number)) = .ok (number, [])

structure Codec.Lawful (codec : Codec) : Prop extends codec.toLibrary.Lawful where
  readMembers_step {α : Type} (shape : RecordShape α) (first : Bool)
    (found : List (String × α)) (input : List Char) :
    codec.readMembers shape first found input =
      shape.memberStep codec.toLibrary (codec.readMembers shape) first found input
  readItems_nil {α : Type} (shape : RecordShape α) (first : Bool) (input : List Char) :
    codec.readItems shape [] first input = .ok ([], input)
  readItems_cons {α : Type} (shape : RecordShape α) (name : String) (names : List String)
    (first : Bool) (input : List Char) :
    codec.readItems shape (name :: names) first input =
      shape.itemStep codec.toLibrary (codec.readItems shape names) first input

/-! ## Meanings of fields -/

/-- A reader of fields takes just the values that mean something. -/
structure ReadsField {α : Type} (readField : List Char → Except Fault (α × List Char))
    (means : List Char → α → Prop) : Prop where
  isValue : ∀ {text value}, means text value → IsValue text
  reads : ∀ {pad text rest value}, means text value → Blanks pad → EndsNumber rest →
    readField (pad ++ (text ++ rest)) = .ok (value, rest)
  refuses : ∀ {pad text rest}, IsValue text → (∀ value, ¬ means text value) → Blanks pad →
    EndsNumber rest → ∃ fault, readField (pad ++ (text ++ rest)) = .error fault

theorem ReadsField.unique {α : Type} {readField : List Char → Except Fault (α × List Char)}
    {means : List Char → α → Prop} (field : ReadsField readField means) {text : List Char}
    {first second : α} (meansFirst : means text first) (meansSecond : means text second) :
    first = second := by
  have read := field.reads meansFirst blanks_nil .nil
  rw [field.reads meansSecond blanks_nil .nil] at read
  cases read
  rfl

def Library.IsNumber (library : Library) (text : List Char) (value : Float) : Prop :=
  ∃ number : NumberText, text = number.text ∧ library.readNumber text = .ok (value, [])

def IsFlag (text : List Char) (value : Bool) : Prop :=
  text = flagText value

namespace Library.Lawful

variable {library : Library} (lawful : library.Lawful)
include lawful

theorem readsField_number : ReadsField library.readNumber library.IsNumber where
  isValue := by
    rintro text value ⟨number, rfl, _⟩
    exact .number number
  reads := by
    rintro pad text rest value ⟨number, rfl, read⟩ blank ends
    rw [lawful.readNumber_append number blank ends, read]
    rfl
  refuses := by
    intro pad text rest isValue meaningless blank ends
    by_cases isNumber : ∃ number : NumberText, text = number.text
    · rcases isNumber with ⟨number, rfl⟩
      rw [lawful.readNumber_append number blank ends]
      cases read : library.readNumber number.text with
      | error fault => exact ⟨fault, rfl⟩
      | ok result =>
          -- nothing is left of a text that is read alone
          have alone := lawful.readNumber_append number blanks_nil .nil
          rw [List.nil_append, List.append_nil, read] at alone
          exact (meaningless result.1 ⟨number, rfl, read.trans alone⟩).elim
    · exact lawful.readNumber_other blank isValue
        (fun number equal => isNumber ⟨number, equal⟩) ends

theorem readsField_flag : ReadsField library.readFlag IsFlag where
  isValue := by
    rintro text value rfl
    exact .flag value
  reads := by
    rintro pad text rest value rfl blank ends
    exact lawful.readFlag_append value blank ends
  refuses := fun isValue meaningless blank ends =>
    lawful.readFlag_other blank isValue meaningless ends

end Library.Lawful

end PlanarMesh.Json

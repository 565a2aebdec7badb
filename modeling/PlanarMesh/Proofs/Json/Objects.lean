import PlanarMesh.Proofs.Json.Skipped

/-! # Objects and arrays as they are written

Members and items with any blanks between their words, and the texts of whole objects and
arrays.
-/

namespace PlanarMesh.Json

def separated : List (List Char) → List Char
  | [] => []
  | first :: others => first ++ others.flatMap fun other => ',' :: other

theorem EndsNumber.nil : EndsNumber [] := fun _ isHead => by cases isHead

theorem endsNumber_others (texts : List (List Char)) {blanks rest : List Char}
    (blank : Blanks blanks) (ends : EndsNumber rest) :
    EndsNumber (texts.flatMap (fun other => ',' :: other) ++ (blanks ++ rest)) := by
  cases texts with
  | nil =>
      rw [List.flatMap_nil, List.nil_append]
      exact ends.of_blanks_append blank
  | cons text texts =>
      rw [List.flatMap_cons, List.cons_append, List.cons_append]
      exact .of_cons (by decide) (by decide) _

/-! ## Objects -/

structure Member where
  name : String
  body : List Char
  value : List Char
  lead : List Char
  gap : List Char
  pad : List Char
  trail : List Char
  denotes : Denotes body name.toList
  isValue : IsValue value
  blankLead : Blanks lead
  blankGap : Blanks gap
  blankPad : Blanks pad
  blankTrail : Blanks trail

namespace Member

def unnamed (member : Member) (rest : List Char) : List Char :=
  member.gap ++ ':' :: (member.pad ++ (member.value ++ (member.trail ++ rest)))

def text (member : Member) : List Char :=
  member.lead ++ '"' :: (member.body ++ '"' :: member.unnamed [])

theorem text_append (member : Member) (rest : List Char) :
    member.text ++ rest = member.lead ++ '"' :: (member.body ++ '"' :: member.unnamed rest) := by
  simp [text, unnamed]

end Member

structure ObjectText where
  members : List Member
  lead : List Char
  inner : List Char
  trail : List Char
  blankLead : Blanks lead
  blankInner : Blanks inner
  blankTrail : Blanks trail

def ObjectText.content (object : ObjectText) : List Char :=
  separated (object.members.map Member.text) ++ (object.inner ++ '}' :: object.trail)

def ObjectText.text (object : ObjectText) : List Char :=
  object.lead ++ '{' :: object.content

/-! ## Arrays -/

structure Item where
  value : List Char
  lead : List Char
  trail : List Char
  isValue : IsValue value
  blankLead : Blanks lead
  blankTrail : Blanks trail

def Item.text (item : Item) : List Char :=
  item.lead ++ (item.value ++ item.trail)

structure ArrayText where
  items : List Item
  lead : List Char
  inner : List Char
  trail : List Char
  blankLead : Blanks lead
  blankInner : Blanks inner
  blankTrail : Blanks trail

def ArrayText.content (array : ArrayText) : List Char :=
  separated (array.items.map Item.text) ++ (array.inner ++ ']' :: array.trail)

def ArrayText.text (array : ArrayText) : List Char :=
  array.lead ++ '[' :: array.content

end PlanarMesh.Json

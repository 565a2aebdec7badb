import PlanarMesh.Proofs.Json.Gathered

/-! # Records from arrays

An array whose items mean the fields in their order is read as the record of these fields.
-/

namespace PlanarMesh.Json.RecordShape

variable {α : Type} {shape : RecordShape α} {means : List Char → α → Prop}
  {items : List Item} {fields : List α} {blanks rest trail : List Char}

section Lawful

variable {codec : Codec} (lawful : codec.Lawful)
include lawful

theorem readItems_append (field : ReadsField (shape.fieldType.read codec.toLibrary) means)
    (blank : Blanks blanks)
    (each : List.Forall₂ (fun item value => means item.value value) items fields)
    {names : List String} (sameLength : fields.length = names.length) (blankTrail : Blanks trail)
    (rest : List Char) : ∃ left, codec.readItems shape names false (trail ++
        ((items.map Item.text).flatMap (fun other => ',' :: other) ++ (blanks ++ ']' :: rest))) =
          .ok (fields, left) ∧ codec.closeArray left = .ok rest := by
  induction each generalizing names trail with
  | nil =>
      rw [List.length_nil, eq_comm, List.length_eq_zero_iff] at sameLength
      subst sameLength
      refine ⟨_, lawful.readItems_nil shape false _, ?_⟩
      rw [List.map_nil, List.flatMap_nil, List.nil_append, ← List.append_assoc]
      exact lawful.closeArray_append (blankTrail.append blank) rest
  | @cons item value items fields isMeant _ induction =>
      cases names with
      | nil => cases sameLength
      | cons name names =>
          have closing : EndsNumber (']' :: rest) := .of_cons (by decide) (by decide) rest
          have ends := endsNumber_others (items.map Item.text) blank closing
          have read := field.reads isMeant blanks_nil (ends.of_blanks_append item.blankTrail)
          rcases induction (Nat.succ.inj sameLength) item.blankTrail with ⟨left, further, closes⟩
          refine ⟨left, ?_, closes⟩
          rw [List.nil_append] at read
          rw [List.map_cons, List.flatMap_cons, List.cons_append, List.cons_append, Item.text,
            List.append_assoc, List.append_assoc, List.append_assoc, lawful.readItems_cons,
            itemStep, lawful.nextItem_next blankTrail item.blankLead item.isValue]
          simp only [bind, Except.bind, if_true, read, further]

theorem readItems_first {names : List String} (items : List Item)
    (sameLength : items.length = names.length) (rest : List Char) :
    codec.readItems shape names true (separated (items.map Item.text) ++
        (blanks ++ ']' :: rest)) =
      codec.readItems shape names false ((items.map Item.text).flatMap
        (fun other => ',' :: other) ++ (blanks ++ ']' :: rest)) := by
  cases items with
  | nil =>
      rw [List.length_nil, eq_comm, List.length_eq_zero_iff] at sameLength
      subst sameLength
      rw [lawful.readItems_nil, lawful.readItems_nil]
      rfl
  | cons item items =>
      cases names with
      | nil => cases sameLength
      | cons name names =>
          have next := lawful.nextItem_next blanks_nil item.blankLead item.isValue (item.trail ++
            ((items.map Item.text).flatMap (fun other => ',' :: other) ++
              (blanks ++ ']' :: rest)))
          rw [List.nil_append] at next
          rw [List.map_cons, separated, List.flatMap_cons, List.cons_append, List.cons_append,
            List.append_assoc, Item.text, List.append_assoc, List.append_assoc,
            lawful.readItems_cons, lawful.readItems_cons, itemStep, itemStep,
            lawful.nextItem_first item.blankLead item.isValue, next]
          rfl

/-- A text of an array is read as the fields that its items mean. -/
theorem decodeFields_array (field : ReadsField (shape.fieldType.read codec.toLibrary) means)
    (array : ArrayText)
    (each : List.Forall₂ (fun item value => means item.value value) array.items fields)
    (sameLength : fields.length = shape.names.length) :
    codec.decodeFields shape array.text = .ok fields := by
  rcases readItems_append lawful field array.blankInner each sameLength blanks_nil array.trail with
    ⟨left, read, closes⟩
  rw [List.nil_append] at read
  rw [Codec.decodeFields, ArrayText.text, lawful.openRecord_array array.blankLead,
    ArrayText.content]
  simp only [bind, Except.bind,
    readItems_first lawful array.items (each.length_eq.trans sameLength), read, closes,
    lawful.closeText_blanks array.blankTrail]

end Lawful

end PlanarMesh.Json.RecordShape

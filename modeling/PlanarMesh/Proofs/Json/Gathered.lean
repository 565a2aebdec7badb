import PlanarMesh.Proofs.Json.Laws
import PlanarMesh.Proofs.Matching

/-! # Records from objects

With a lawful codec an object gives a record just if each field is named at most once,
with a value that means it, or is left out and has a value by default. The order of the
members, the blanks between them and the members of other names do not matter.
-/

namespace PlanarMesh.Json.RecordShape

variable {α : Type} {shape : RecordShape α} {means : List Char → α → Prop}
  {members : List Member} {found more : List (String × α)} {blanks rest : List Char}

/-! ## Runs -/

/-- The fields found in some members, added to those found before. -/
inductive Gathers (shape : RecordShape α) (means : List Char → α → Prop) :
    List Member → List (String × α) → List (String × α) → Prop
  | nothing (found : List (String × α)) : Gathers shape means [] found found
  | unknown {member : Member} {members : List Member} {found more : List (String × α)}
      (isUnknown : member.name ∉ shape.names) (others : Gathers shape means members found more) :
      Gathers shape means (member :: members) found more
  | known {member : Member} {members : List Member} {found more : List (String × α)} {value : α}
      (isKnown : member.name ∈ shape.names) (isFirst : found.lookup member.name = none)
      (isMeant : means member.value value)
      (others : Gathers shape means members ((member.name, value) :: found) more) :
      Gathers shape means (member :: members) found more

theorem gathers_cons_iff {member : Member} : shape.Gathers means (member :: members) found more ↔
    if member.name ∈ shape.names then
      found.lookup member.name = none ∧ ∃ value, means member.value value ∧
        shape.Gathers means members ((member.name, value) :: found) more
    else shape.Gathers means members found more := by
  constructor
  · intro gathers
    cases gathers with
    | unknown isUnknown others =>
        rw [if_neg isUnknown]
        exact others
    | known isKnown isFirst isMeant others =>
        rw [if_pos isKnown]
        exact ⟨isFirst, _, isMeant, others⟩
  · split
    · rename_i isKnown
      rintro ⟨isFirst, value, isMeant, others⟩
      exact .known isKnown isFirst isMeant others
    · rename_i isUnknown
      exact .unknown isUnknown

/-! ## What is gathered -/

def occurrences (members : List Member) (name : String) : Nat :=
  members.countP fun member => member.name == name

theorem occurrences_cons (member : Member) (members : List Member) (name : String) :
    occurrences (member :: members) name =
      occurrences members name + if member.name = name then 1 else 0 := by
  simp [occurrences, List.countP_cons]

variable {name : String}

theorem lookup_cons_of_ne {other : String} (different : other ≠ name) (value : α)
    (found : List (String × α)) : ((other, value) :: found).lookup name = found.lookup name := by
  rw [List.lookup_cons, beq_false_of_ne (Ne.symm different)]

theorem Gathers.lookup_of_found (gathers : shape.Gathers means members found more) {value : α}
    (isFound : found.lookup name = some value) : more.lookup name = some value := by
  induction gathers with
  | nothing => exact isFound
  | unknown _ _ induction => exact induction isFound
  | @known member _ _ _ _ _ isFirst _ _ induction =>
      have different : member.name ≠ name := by
        rintro rfl
        rw [isFirst] at isFound
        cases isFound
      exact induction (by rw [lookup_cons_of_ne different, isFound])

theorem Gathers.lookup_of_absent (gathers : shape.Gathers means members found more)
    (absent : ∀ member ∈ members, member.name ≠ name) :
    more.lookup name = found.lookup name := by
  induction gathers with
  | nothing => rfl
  | unknown _ _ induction =>
      exact induction fun other member => absent other (List.mem_cons_of_mem _ member)
  | known _ _ _ _ induction =>
      rw [induction fun other member => absent other (List.mem_cons_of_mem _ member),
        lookup_cons_of_ne (absent _ List.mem_cons_self)]

theorem Gathers.lookup_of_mem (gathers : shape.Gathers means members found more)
    {member : Member} (isKnown : member.name ∈ shape.names) (inMembers : member ∈ members) :
    ∃ value, means member.value value ∧ more.lookup member.name = some value := by
  induction gathers with
  | nothing => cases inMembers
  | unknown isUnknown _ induction =>
      rcases List.mem_cons.mp inMembers with rfl | inOthers
      · exact absurd isKnown isUnknown
      · exact induction inOthers
  | @known _ _ _ _ value _ _ isMeant others induction =>
      rcases List.mem_cons.mp inMembers with rfl | inOthers
      · exact ⟨value, isMeant, others.lookup_of_found List.lookup_cons_self⟩
      · exact induction inOthers

theorem Gathers.occurrences_le (gathers : shape.Gathers means members found more)
    (isKnown : name ∈ shape.names) :
    occurrences members name + (found.lookup name).toList.length ≤ 1 := by
  induction gathers with
  | nothing found =>
      rw [occurrences, List.countP_nil, Nat.zero_add]
      cases found.lookup name <;> simp
  | @unknown member _ _ _ isUnknown _ induction =>
      have different : member.name ≠ name := by
        rintro rfl
        exact isUnknown isKnown
      rw [occurrences_cons, if_neg different]
      exact induction
  | @known member members found _ value _ isFirst _ _ induction =>
      rw [occurrences_cons]
      by_cases same : member.name = name
      · subst same
        rw [List.lookup_cons_self, Option.toList_some, List.length_singleton] at induction
        rw [if_pos rfl, isFirst]
        exact induction
      · rw [lookup_cons_of_ne same] at induction
        rw [if_neg same]
        exact induction

theorem exists_gathers (members : List Member) (found : List (String × α))
    (once : ∀ name ∈ shape.names,
      occurrences members name + (found.lookup name).toList.length ≤ 1)
    (meant : ∀ member ∈ members, member.name ∈ shape.names → ∃ value, means member.value value) :
    ∃ more, shape.Gathers means members found more := by
  induction members generalizing found with
  | nil => exact ⟨found, .nothing found⟩
  | cons member members induction =>
      have meantOthers := fun other inOthers => meant other (List.mem_cons_of_mem member inOthers)
      by_cases isKnown : member.name ∈ shape.names
      · rcases meant member List.mem_cons_self isKnown with ⟨value, isMeant⟩
        have alone := once member.name isKnown
        rw [occurrences_cons, if_pos rfl] at alone
        have isFirst : found.lookup member.name = none := by
          rw [← Option.toList_eq_nil_iff, ← List.length_eq_zero_iff]
          omega
        have onceOthers : ∀ name ∈ shape.names, occurrences members name +
            (((member.name, value) :: found).lookup name).toList.length ≤ 1 := by
          intro name isName
          have alsoOnce := once name isName
          rw [occurrences_cons] at alsoOnce
          by_cases same : member.name = name
          · subst same
            rw [List.lookup_cons_self, Option.toList_some, List.length_singleton]
            omega
          · rw [if_neg same] at alsoOnce
            rw [lookup_cons_of_ne same]
            exact alsoOnce
        rcases induction _ onceOthers meantOthers with ⟨more, others⟩
        exact ⟨more, .known isKnown isFirst isMeant others⟩
      · have onceOthers : ∀ name ∈ shape.names,
            occurrences members name + (found.lookup name).toList.length ≤ 1 := by
          intro name isName
          have alsoOnce := once name isName
          rw [occurrences_cons] at alsoOnce
          omega
        rcases induction found onceOthers meantOthers with ⟨more, others⟩
        exact ⟨more, .unknown isKnown others⟩

/-! ## Whole objects -/

/-- Some members give a field a value: they name it at most once, with a value that means
just that, or they leave it out and it is so by default. -/
structure GivesField (missing : Option α) (means : List Char → α → Prop)
    (members : List Member) (name : String) (value : α) : Prop where
  once : occurrences members name ≤ 1
  given : ∀ member ∈ members, member.name = name → means member.value value
  omitted : (∀ member ∈ members, member.name ≠ name) → missing = some value

theorem Gathers.givesField_iff {library : Library}
    (field : ReadsField (shape.fieldType.read library) means)
    (gathers : shape.Gathers means members [] more) (isKnown : name ∈ shape.names) {value : α} :
    (more.lookup name).or shape.missing = some value ↔
      GivesField shape.missing means members name value := by
  have once : occurrences members name ≤ 1 := gathers.occurrences_le isKnown
  by_cases named : ∃ member ∈ members, member.name = name
  · rcases named with ⟨member, inMembers, rfl⟩
    rcases gathers.lookup_of_mem isKnown inMembers with ⟨found, isMeant, isFound⟩
    rw [isFound, Option.some_or, Option.some_inj]
    constructor
    · rintro rfl
      refine ⟨once, fun other inOthers sameName => ?_, fun absent => ?_⟩
      · rcases gathers.lookup_of_mem (sameName ▸ isKnown) inOthers with
          ⟨otherFound, alsoMeant, alsoFound⟩
        rw [sameName, isFound] at alsoFound
        cases alsoFound
        exact alsoMeant
      · exact absurd rfl (absent member inMembers)
    · exact fun gives => field.unique isMeant (gives.given member inMembers rfl)
  · have absent : ∀ member ∈ members, member.name ≠ name :=
      fun member inMembers isNamed => named ⟨member, inMembers, isNamed⟩
    rw [gathers.lookup_of_absent absent, List.lookup_nil, Option.none_or]
    exact ⟨fun isMissing => ⟨once, fun member inMembers isNamed =>
      absurd isNamed (absent member inMembers), fun _ => isMissing⟩,
      fun gives => gives.omitted absent⟩

theorem gathers_collect_iff {library : Library}
    (field : ReadsField (shape.fieldType.read library) means) {fields : List α} :
    (∃ more, shape.Gathers means members [] more ∧ shape.collect more = .ok fields) ↔
      List.Forall₂ (GivesField shape.missing means members) shape.names fields := by
  have collected {more : List (String × α)} (gathers : shape.Gathers means members [] more) :
      shape.collect more = .ok fields ↔
        List.Forall₂ (GivesField shape.missing means members) shape.names fields := by
    rw [← forall₂_congr_of_mem fun name isKnown _ => gathers.givesField_iff field isKnown,
      ← mapM_eq_some_iff, collect]
    split <;> simp_all
  constructor
  · rintro ⟨more, gathers, isCollected⟩
    exact (collected gathers).mp isCollected
  · intro gives
    have once : ∀ name ∈ shape.names, occurrences members name + 0 ≤ 1 := by
      intro name isKnown
      rcases exists_of_forall₂ gives isKnown with ⟨value, givesField⟩
      exact givesField.once
    have meant : ∀ member ∈ members, member.name ∈ shape.names →
        ∃ value, means member.value value := by
      intro member inMembers isKnown
      rcases exists_of_forall₂ gives isKnown with ⟨value, givesField⟩
      exact ⟨value, givesField.given member inMembers rfl⟩
    rcases exists_gathers members [] once meant with ⟨more, gathers⟩
    exact ⟨more, gathers, (collected gathers).mpr gives⟩

/-! ## Reading -/

section Lawful

variable {codec : Codec} (lawful : codec.Lawful) {fields : List α} {left : List Char}
include lawful

theorem memberStep_member (member : Member)
    {others : Bool → List (String × α) → List Char → Except Fault (List α × List Char)}
    {first : Bool} {input : List Char}
    (begins : codec.nextName first input = .ok (some member.name, member.unnamed rest))
    (ends : EndsNumber rest) :
    shape.memberStep codec.toLibrary others first found input =
      if member.name ∈ shape.names then
        if (found.lookup member.name).isSome then .error .unfit
        else do
          let (value, rest) ← shape.fieldType.read codec.toLibrary
            (member.pad ++ (member.value ++ (member.trail ++ rest)))
          others false ((member.name, value) :: found) rest
      else others false found (member.trail ++ rest) := by
  have colon := lawful.passColon_append member.blankGap
    (member.pad ++ (member.value ++ (member.trail ++ rest)))
  have skipped := lawful.skipValue_append member.blankPad member.isValue
    (ends.of_blanks_append member.blankTrail)
  rw [memberStep, begins]
  simp only [bind, Except.bind, Member.unnamed, colon, skipped]

theorem memberStep_close
    {others : Bool → List (String × α) → List Char → Except Fault (List α × List Char)}
    (first : Bool) (blank : Blanks blanks) :
    shape.memberStep codec.toLibrary others first found (blanks ++ '}' :: rest) =
      (shape.collect found).map fun fields => (fields, rest) := by
  rw [memberStep, lawful.nextName_close first blank]
  simp only [bind, Except.bind]
  cases shape.collect found <;> rfl

theorem readMembers_eq_ok_iff (field : ReadsField (shape.fieldType.read codec.toLibrary) means)
    (blank : Blanks blanks) {trail : List Char} (blankTrail : Blanks trail) :
    codec.readMembers shape false found
        (trail ++ ((members.map Member.text).flatMap (fun other => ',' :: other) ++
          (blanks ++ '}' :: rest))) = .ok (fields, left) ↔
      left = rest ∧ ∃ more, shape.Gathers means members found more ∧
        shape.collect more = .ok fields := by
  induction members generalizing found trail with
  | nil =>
      rw [List.map_nil, List.flatMap_nil, List.nil_append, ← List.append_assoc,
        lawful.readMembers_step, memberStep_close lawful false (blankTrail.append blank)]
      constructor
      · intro equal
        cases collected : shape.collect found with
        | error fault =>
            rw [collected] at equal
            cases equal
        | ok list =>
            rw [collected] at equal
            cases equal
            exact ⟨rfl, found, .nothing found, collected⟩
      · rintro ⟨rfl, more, gathers, collected⟩
        cases gathers
        rw [collected]
        rfl
  | cons member members induction =>
      have closing : EndsNumber ('}' :: rest) := .of_cons (by decide) (by decide) rest
      have ends := endsNumber_others (members.map Member.text) blank closing
      have begins := lawful.nextName_next blankTrail member.blankLead member.denotes
        (member.unnamed ((members.map Member.text).flatMap (fun other => ',' :: other) ++
          (blanks ++ '}' :: rest)))
      rw [List.map_cons, List.flatMap_cons, List.cons_append, List.cons_append,
        List.append_assoc, Member.text_append, lawful.readMembers_step,
        memberStep_member lawful member begins ends]
      simp only [gathers_cons_iff]
      by_cases isKnown : member.name ∈ shape.names
      · simp only [if_pos isKnown]
        cases isFirst : found.lookup member.name with
        | some earlier => simp
        | none =>
            rw [Option.isSome_none, if_neg Bool.false_ne_true]
            by_cases meant : ∃ value, means member.value value
            · rcases meant with ⟨value, isMeant⟩
              rw [field.reads isMeant member.blankPad (ends.of_blanks_append member.blankTrail)]
              refine (induction member.blankTrail).trans (and_congr_right fun _ => ?_)
              constructor
              · rintro ⟨more, gathers, collected⟩
                exact ⟨more, ⟨rfl, value, isMeant, gathers⟩, collected⟩
              · rintro ⟨more, ⟨_, other, alsoMeant, gathers⟩, collected⟩
                rw [field.unique alsoMeant isMeant] at gathers
                exact ⟨more, gathers, collected⟩
            · rcases field.refuses member.isValue (fun value isMeant => meant ⟨value, isMeant⟩)
                member.blankPad (ends.of_blanks_append member.blankTrail) with ⟨fault, refused⟩
              rw [refused]
              refine iff_of_false (fun equal => by cases equal) ?_
              rintro ⟨_, _, ⟨_, value, isMeant, _⟩, _⟩
              exact meant ⟨value, isMeant⟩
      · simp only [if_neg isKnown]
        exact induction member.blankTrail

theorem readMembers_first (blank : Blanks blanks) :
    codec.readMembers shape true [] (separated (members.map Member.text) ++
        (blanks ++ '}' :: rest)) =
      codec.readMembers shape false [] ((members.map Member.text).flatMap
        (fun other => ',' :: other) ++ (blanks ++ '}' :: rest)) := by
  rw [lawful.readMembers_step, lawful.readMembers_step shape false]
  cases members with
  | nil =>
      rw [List.map_nil, separated, List.flatMap_nil, List.nil_append,
        memberStep_close lawful true blank, memberStep_close lawful false blank]
  | cons member members =>
      have next := lawful.nextName_next blanks_nil member.blankLead member.denotes
        (member.unnamed ((members.map Member.text).flatMap (fun other => ',' :: other) ++
          (blanks ++ '}' :: rest)))
      rw [List.nil_append] at next
      rw [List.map_cons, separated, List.flatMap_cons, List.cons_append, List.cons_append,
        List.append_assoc, Member.text_append, memberStep, memberStep, next,
        lawful.nextName_first member.blankLead member.denotes]

/-- A text of an object is read just if it gives every field, and then as these fields. -/
theorem decodeFields_object_iff (field : ReadsField (shape.fieldType.read codec.toLibrary) means)
    (object : ObjectText) : codec.decodeFields shape object.text = .ok fields ↔
      List.Forall₂ (GivesField shape.missing means object.members) shape.names fields := by
  have reads (fields : List α) (left : List Char) :
      codec.readMembers shape true [] object.content = .ok (fields, left) ↔
        left = object.trail ∧ ∃ more, shape.Gathers means object.members [] more ∧
          shape.collect more = .ok fields := by
    rw [ObjectText.content, readMembers_first lawful object.blankInner]
    exact readMembers_eq_ok_iff lawful field object.blankInner blanks_nil
  rw [← gathers_collect_iff field, Codec.decodeFields, ObjectText.text,
    lawful.openRecord_object object.blankLead]
  simp only [bind, Except.bind]
  cases read : codec.readMembers shape true [] object.content with
  | error fault =>
      refine iff_of_false (fun equal => by cases equal) fun gathered => ?_
      rw [(reads fields object.trail).mpr ⟨rfl, gathered⟩] at read
      cases read
  | ok result =>
      have ⟨isTrail, gathered⟩ := (reads result.1 result.2).mp read
      simp only [isTrail, lawful.closeText_blanks object.blankTrail, Except.ok.injEq]
      constructor
      · rintro rfl
        exact gathered
      · intro alsoGathered
        rw [(reads fields object.trail).mpr ⟨rfl, alsoGathered⟩] at read
        cases read
        rfl

end Lawful

end PlanarMesh.Json.RecordShape

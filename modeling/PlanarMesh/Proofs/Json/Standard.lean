import PlanarMesh.Json.Standard
import PlanarMesh.Proofs.Decimal.ReadBack
import PlanarMesh.Proofs.Json.Laws

/-! # The standard codec is lawful

It does with JSON what is expected of a codec, whatever float it reads for a decimal, and
where it reads the nearest every finite number is read back. That the bound on the number
of members is never met follows from what each reader leaves: no more than it was given,
and less behind a name.
-/

namespace PlanarMesh.Json

variable {toFloat : Decimal → Float} {pad text rest : List Char}

/-! ## Blanks -/

theorem skipBlanks_append (blank : Blanks pad) (rest : List Char) :
    skipBlanks (pad ++ rest) = skipBlanks rest :=
  List.dropWhile_append_of_pos blank

theorem skipBlanks_cons {character : Char} (visible : isBlank character = false)
    (rest : List Char) : skipBlanks (character :: rest) = character :: rest :=
  List.dropWhile_cons_of_neg (by rw [visible]; exact Bool.false_ne_true)

theorem skipBlanks_to {character : Char} (blank : Blanks pad)
    (visible : isBlank character = false) (rest : List Char) :
    skipBlanks (pad ++ character :: rest) = character :: rest := by
  rw [skipBlanks_append blank, skipBlanks_cons visible]

theorem Phrase.skipBlanks_append (isValue : IsValue text) (blank : Blanks pad)
    (rest : List Char) : skipBlanks (pad ++ (text ++ rest)) = text ++ rest := by
  rcases isValue.exists_begin with ⟨character, word, rfl, visible, _⟩
  rw [List.cons_append, skipBlanks_to blank visible]

theorem Phrase.kinds (isValue : IsValue text) :
    (∃ number : NumberText, text = number.text) ∨ (∃ flag, text = flagText flag) ∨
      ∃ character word, text = character :: word ∧ character ∈ ['n', '"', '[', '{'] := by
  cases isValue with
  | number number => exact Or.inl ⟨number, rfl⟩
  | flag value => exact Or.inr (Or.inl ⟨value, rfl⟩)
  | null => exact Or.inr (Or.inr ⟨_, _, rfl, by decide⟩)
  | text _ => exact Or.inr (Or.inr ⟨_, _, rfl, by decide⟩)
  | emptyArray _ => exact Or.inr (Or.inr ⟨_, _, rfl, by decide⟩)
  | array _ => exact Or.inr (Or.inr ⟨_, _, rfl, by decide⟩)
  | emptyObject _ => exact Or.inr (Or.inr ⟨_, _, rfl, by decide⟩)
  | object _ => exact Or.inr (Or.inr ⟨_, _, rfl, by decide⟩)

/-! ## Fields -/

theorem readNumber_text (toFloat : Decimal → Float) (number : NumberText) (ends : EndsNumber rest) :
    readNumber toFloat (number.text ++ rest) =
      if (toFloat number.decimal).isInf then .error .malformed
      else .ok (toFloat number.decimal, rest) := by
  rw [readNumber, number.readDecimal_append ends]
  rfl

theorem readNumberField_text (toFloat : Decimal → Float) (number : NumberText)
    (blank : Blanks pad) (ends : EndsNumber rest) :
    readNumberField toFloat (pad ++ (number.text ++ rest)) =
      if (toFloat number.decimal).isInf then .error .malformed
      else .ok (toFloat number.decimal, rest) := by
  have skipped := (Phrase.number number).skipBlanks_append blank rest
  have read := readNumber_text toFloat number ends
  rcases number.exists_begin with ⟨character, word, equal, begins⟩
  rw [equal, List.cons_append] at skipped read
  rw [equal, List.cons_append, readNumberField, skipped]
  simp only [if_pos begins]
  exact read

theorem readNumberField_append (number : NumberText) (blank : Blanks pad)
    (ends : EndsNumber rest) : readNumberField toFloat (pad ++ (number.text ++ rest)) =
      (readNumberField toFloat number.text).map fun read => (read.1, rest) := by
  have alone := readNumberField_text toFloat number blanks_nil .nil
  rw [List.nil_append, List.append_nil] at alone
  rw [readNumberField_text toFloat number blank ends, alone]
  split <;> rfl

theorem readNumberField_other (blank : Blanks pad) (isValue : IsValue text)
    (isOther : ∀ number : NumberText, text ≠ number.text) :
    ∃ fault, readNumberField toFloat (pad ++ (text ++ rest)) = .error fault := by
  rw [readNumberField, isValue.skipBlanks_append blank rest]
  rcases isValue.kinds with ⟨number, rfl⟩ | ⟨value, rfl⟩ | ⟨character, word, rfl, isKind⟩
  · exact (isOther number rfl).elim
  · cases value <;> exact ⟨_, rfl⟩
  · rw [List.cons_append]
    simp only [List.mem_cons, List.not_mem_nil, or_false] at isKind
    rcases isKind with rfl | rfl | rfl | rfl <;> exact ⟨_, rfl⟩

theorem readFlagField_append (flag : Bool) (blank : Blanks pad) (rest : List Char) :
    readFlagField toFloat (pad ++ (flagText flag ++ rest)) = .ok (flag, rest) := by
  rw [readFlagField, (Phrase.flag flag).skipBlanks_append blank]
  cases flag <;> rfl

theorem readFlagField_other (blank : Blanks pad) (isValue : IsValue text)
    (isOther : ∀ flag, text ≠ flagText flag) :
    ∃ fault, readFlagField toFloat (pad ++ (text ++ rest)) = .error fault := by
  have skipped := isValue.skipBlanks_append blank rest
  rcases isValue.kinds with ⟨number, rfl⟩ | ⟨value, rfl⟩ | ⟨character, word, rfl, isKind⟩
  · rcases number.exists_begin with ⟨character, word, equal, begins⟩
    rw [equal, List.cons_append] at skipped
    rw [equal, List.cons_append, readFlagField, skipped]
    split
    · rename_i first
      exact absurd (List.cons.inj first).1 (ne_of_begins begins (by decide) (by decide))
    · rename_i first
      exact absurd (List.cons.inj first).1 (ne_of_begins begins (by decide) (by decide))
    · exact ⟨_, rfl⟩
  · exact (isOther value rfl).elim
  · rw [readFlagField, skipped, List.cons_append]
    simp only [List.mem_cons, List.not_mem_nil, or_false] at isKind
    rcases isKind with rfl | rfl | rfl | rfl <;> exact ⟨_, rfl⟩

/-! ## Objects and arrays -/

theorem openRecord_object (blank : Blanks pad) (rest : List Char) :
    openRecord toFloat (pad ++ '{' :: rest) = .ok (.object, rest) := by
  rw [openRecord, skipBlanks_to blank (by decide)]
  rfl

theorem openRecord_array (blank : Blanks pad) (rest : List Char) :
    openRecord toFloat (pad ++ '[' :: rest) = .ok (.array, rest) := by
  rw [openRecord, skipBlanks_to blank (by decide)]
  rfl

theorem nextName_next {name : String} {trail lead body : List Char} (blankTrail : Blanks trail)
    (blankLead : Blanks lead) (denotes : Denotes body name.toList) (rest : List Char) :
    nextName false (trail ++ ',' :: (lead ++ '"' :: (body ++ '"' :: rest))) =
      .ok (some name, rest) := by
  have sought : seekName false (trail ++ ',' :: (lead ++ '"' :: (body ++ '"' :: rest))) =
      .ok (true, body ++ '"' :: rest) := by
    have skipped := skipBlanks_to blankLead (show isBlank '"' = false by decide)
      (body ++ '"' :: rest)
    rw [seekName, skipBlanks_to blankTrail (by decide)]
    simp [skipped]
  rw [nextName, sought]
  simp only [bind, Except.bind, if_true, denotes.readQuoted_append, String.ofList_toList]

theorem nextName_first {name : String} {lead body : List Char} (blankLead : Blanks lead)
    (denotes : Denotes body name.toList) (rest : List Char) :
    nextName true (lead ++ '"' :: (body ++ '"' :: rest)) = .ok (some name, rest) := by
  rw [nextName, seekName, skipBlanks_to blankLead (by decide)]
  simp [bind, Except.bind, denotes.readQuoted_append]

theorem nextName_close (first : Bool) (blank : Blanks pad) (rest : List Char) :
    nextName first (pad ++ '}' :: rest) = .ok (none, rest) := by
  rw [nextName, seekName, skipBlanks_to blank (by decide)]
  rfl

theorem passColon_append (blankGap : Blanks pad) (rest : List Char) :
    passColon (pad ++ ':' :: rest) = .ok rest := by
  rw [passColon, skipBlanks_to blankGap (by decide)]
  rfl

theorem nextItem_first (blankLead : Blanks pad) (isValue : IsValue text) (rest : List Char) :
    nextItem true (pad ++ (text ++ rest)) = .ok (true, text ++ rest) := by
  rcases isValue.exists_begin with ⟨character, word, equal, visible, notClosing⟩
  rw [nextItem, isValue.skipBlanks_append blankLead, equal, List.cons_append]
  simp only [if_neg notClosing, if_true]

theorem nextItem_next {trail : List Char} (blankTrail : Blanks trail) (blankLead : Blanks pad)
    (isValue : IsValue text) (rest : List Char) :
    nextItem false (trail ++ ',' :: (pad ++ (text ++ rest))) = .ok (true, text ++ rest) := by
  have skipped := isValue.skipBlanks_append blankLead rest
  rcases isValue.exists_begin with ⟨character, word, equal, visible, notClosing⟩
  rw [nextItem, skipBlanks_to blankTrail (by decide)]
  rw [equal, List.cons_append] at skipped ⊢
  simp [skipped, notClosing]

theorem closeArray_append (blank : Blanks pad) (rest : List Char) :
    closeArray (pad ++ ']' :: rest) = .ok rest := by
  rw [closeArray, skipBlanks_to blank (by decide)]
  rfl

theorem closeText_blanks (blank : Blanks pad) : closeText pad = .ok () := by
  have skipped : skipBlanks pad = [] := List.dropWhile_eq_nil_iff.mpr blank
  rw [closeText, skipped]
  rfl

/-! ## Writing -/

theorem compactMembers_eq (members : List (String × Document)) :
    Document.compactMembers members = separated (members.map fun member =>
      quoted member.1.toList ++ ':' :: member.2.compact) := by
  have others (member : String × Document) (members : List (String × Document)) :
      Document.compactMembers (member :: members) =
        (quoted member.1.toList ++ ':' :: member.2.compact) ++
          (members.map fun member => quoted member.1.toList ++ ':' :: member.2.compact).flatMap
            fun other => ',' :: other := by
    induction members generalizing member with
    | nil => rw [Document.compactMembers, List.map_nil, List.flatMap_nil, List.append_nil]
    | cons next members induction =>
        rw [Document.compactMembers, induction, List.map_cons, List.flatMap_cons,
          List.cons_append]
  cases members with
  | nil => rfl
  | cons member members => exact others member members

def compactMember (name : String) {document : Document} (isValue : IsValue document.compact) :
    Member where
  name
  body := name.toList.flatMap escaped
  value := document.compact
  lead := []
  gap := []
  pad := []
  trail := []
  denotes := denotes_escaped name.toList
  isValue
  blankLead := blanks_nil
  blankGap := blanks_nil
  blankPad := blanks_nil
  blankTrail := blanks_nil

def compactObject (members : List (String × Document))
    (areValues : ∀ member ∈ members, IsValue member.2.compact) : ObjectText where
  members := members.attach.map fun member =>
    compactMember member.1.1 (areValues member.1 member.2)
  lead := []
  inner := []
  trail := []
  blankLead := blanks_nil
  blankInner := blanks_nil
  blankTrail := blanks_nil

theorem text_compactMember (name : String) {document : Document}
    (isValue : IsValue document.compact) :
    (compactMember name isValue).text = quoted name.toList ++ ':' :: document.compact := by
  simp [Member.text, Member.unnamed, compactMember, quoted]

theorem compact_object (members : List (String × Document))
    (areValues : ∀ member ∈ members, IsValue member.2.compact) :
    (Document.object members).compact = (compactObject members areValues).text := by
  have texts : (compactObject members areValues).members.map Member.text =
      members.map fun member => quoted member.1.toList ++ ':' :: member.2.compact := by
    simp only [compactObject, List.map_map, Function.comp_def, text_compactMember]
    exact List.attach_map_val (f := fun member : String × Document =>
      quoted member.1.toList ++ ':' :: member.2.compact)
  rw [Document.compact, compactMembers_eq, ObjectText.text, ObjectText.content, texts]
  rfl

theorem exists_numberText_of_isFinite {value : Float} (finite : value.isFinite = true) :
    ∃ number : NumberText, numberText value = number.text ∧ number.decimal.toFloat = value := by
  rcases (Decimal.isNormal_shortest value).exists_numberText
    (show numberLayout.wholeEnding = [] ∨ numberLayout.wholeEnding = ['.', '0'] from Or.inr rfl)
    with ⟨number, written, equal⟩
  refine ⟨number, ?_, ?_⟩
  · rw [numberText, if_pos finite, written]
  · rw [equal, Decimal.toFloat_shortest finite]

/-! ## The library -/

theorem Library.lawful_standard (toFloat : Decimal → Float) :
    (Library.standard toFloat).Lawful where
  openRecord_object := Json.openRecord_object
  openRecord_array := Json.openRecord_array
  nextName_first := Json.nextName_first
  nextName_next := Json.nextName_next
  nextName_close first _ := Json.nextName_close first
  passColon_append := Json.passColon_append
  skipValue_append := Json.skipValue_append
  readNumber_append number _ _ blankPad ends := readNumberField_append number blankPad ends
  readNumber_other blankPad isValue isOther _ := readNumberField_other blankPad isValue isOther
  readFlag_append flag _ _ blankPad _ := readFlagField_append flag blankPad _
  readFlag_other blankPad isValue isOther _ := readFlagField_other blankPad isValue isOther
  nextItem_first := Json.nextItem_first
  nextItem_next := Json.nextItem_next
  closeArray_append := Json.closeArray_append
  closeText_blanks := Json.closeText_blanks
  write_object {members} areValues := by
    refine ⟨compactObject members areValues, compact_object members areValues, ?_⟩
    simp only [compactObject, List.map_map, Function.comp_def]
    exact List.attach_map_val (f := fun member : String × Document =>
      (member.1, member.2.compact))
  write_flag _ := rfl
  write_finite finite := by
    rcases exists_numberText_of_isFinite finite with ⟨number, written, _⟩
    exact ⟨number, written⟩
  write_infinite {number} infinite := by
    change numberText number = _
    rw [numberText, infinite, if_neg Bool.false_ne_true]

/-- Where decimals are read as the nearest float every finite number is read back. -/
theorem readsBack_nearest {number : Float} (finite : number.isFinite = true) :
    Codec.nearest.ReadsBack number := by
  change readNumberField Decimal.toFloat (numberText number) = _
  rcases exists_numberText_of_isFinite finite with ⟨text, written, equal⟩
  have read := readNumberField_text Decimal.toFloat text blanks_nil .nil
  rw [List.nil_append, List.append_nil, equal, Decimal.isInf_of_isFinite finite,
    if_neg Bool.false_ne_true] at read
  rw [written, read]

end PlanarMesh.Json

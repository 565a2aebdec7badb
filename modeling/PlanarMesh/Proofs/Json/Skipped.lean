import PlanarMesh.Proofs.Json.QuotedText

/-! # Skipping a value

`skipFrom` goes over any value, however deep and wherever it stands, to the first
character behind it. The statement follows the grammar: a value between two places of its
container, the items of an array up to its bracket, the members of an object up to its
brace.
-/

namespace PlanarMesh.Json

variable {enclosing outer : List Container} {place : Place} {text rest : List Char}

/-! ## Steps -/

abbrev IsDone (enclosing : List Container) (place : Place) : Prop :=
  enclosing.isEmpty ∧ place = .after

theorem skipFrom_append (word rest : List Char) :
    skipFrom enclosing place word.length (word ++ rest) = skipFrom enclosing place 0 rest := by
  induction word with
  | nil => rfl
  | cons character word induction => rw [List.cons_append, List.length_cons, skipFrom, induction]

theorem skipFrom_blanks {blanks : List Char} (blank : Blanks blanks)
    (further : ¬ IsDone enclosing place) (rest : List Char) :
    skipFrom enclosing place 0 (blanks ++ rest) = skipFrom enclosing place 0 rest := by
  induction blanks with
  | nil => rfl
  | cons character blanks induction =>
      rw [List.cons_append, skipFrom, if_neg further, if_pos (blank character List.mem_cons_self)]
      exact induction fun other member => blank other (List.mem_cons_of_mem _ member)

theorem skipFrom_done (rest : List Char) : skipFrom [] .after 0 rest = .ok rest := by
  cases rest <;> rfl

theorem skipFrom_advance {character : Char} {next : List Container × Place × Nat}
    (further : ¬ IsDone enclosing place) (visible : isBlank character = false)
    (advanced : advance enclosing place character rest = .ok next) :
    skipFrom enclosing place 0 (character :: rest) = skipFrom next.1 next.2.1 next.2.2 rest := by
  rw [skipFrom, if_neg further, visible, if_neg Bool.false_ne_true, advanced]

/-! ## Places of values -/

/-- A value may begin: in general, and as the first item of an array. -/
inductive BeginsValue : List Container → Place → Prop
  | value (enclosing : List Container) : BeginsValue enclosing .value
  | first (outer : List Container) : BeginsValue (.array :: outer) .opened

theorem BeginsValue.not_isDone (begins : BeginsValue enclosing place) :
    ¬ IsDone enclosing place := by
  rintro ⟨_, isAfter⟩
  cases begins <;> cases isAfter

theorem BeginsValue.advance_eq (begins : BeginsValue enclosing place) {character : Char}
    (notClosing : character ≠ ']') :
    advance enclosing place character rest = advance enclosing .value character rest := by
  cases begins with
  | value => rfl
  | first outer =>
      simp only [advance, if_neg notClosing]

theorem BeginsValue.skipFrom_word (begins : BeginsValue enclosing place) {character : Char}
    {word : List Char} (visible : isBlank character = false) (notClosing : character ≠ ']')
    (advanced : advance enclosing .value character (word ++ rest) =
      .ok (enclosing, .after, word.length)) :
    skipFrom enclosing place 0 (character :: (word ++ rest)) =
      skipFrom enclosing .after 0 rest := by
  rw [skipFrom_advance begins.not_isDone visible (begins.advance_eq notClosing ▸ advanced)]
  exact skipFrom_append word rest

/-! ## Words -/

section Begins

variable {character other : Char} (begins : character = '-' ∨ isDigit character = true)
include begins

theorem ne_of_begins (notMinus : other ≠ '-') (notDigit : isDigit other = false) :
    character ≠ other := by
  rintro rfl
  rcases begins with isMinus | digit
  · exact notMinus isMinus
  · rw [digit] at notDigit
    cases notDigit

theorem isBlank_of_begins : isBlank character = false := by
  simp only [isBlank, Bool.or_eq_false_iff, beq_eq_false_iff_ne]
  refine ⟨⟨⟨?_, ?_⟩, ?_⟩, ?_⟩ <;> exact ne_of_begins begins (by decide) (by decide)

theorem advance_number : advance enclosing .value character rest =
    (numberLength (character :: rest)).map fun length => (enclosing, .after, length - 1) := by
  simp only [advance]
  split
  · exact absurd rfl (ne_of_begins begins (by decide) (by decide))
  · exact absurd rfl (ne_of_begins begins (by decide) (by decide))
  · exact absurd rfl (ne_of_begins begins (by decide) (by decide))
  · exact absurd rfl (ne_of_begins begins (by decide) (by decide))
  · exact absurd rfl (ne_of_begins begins (by decide) (by decide))
  · exact absurd rfl (ne_of_begins begins (by decide) (by decide))
  · rw [if_pos begins]

end Begins

theorem Phrase.exists_begin (phrase : Phrase .value text) :
    ∃ character word, text = character :: word ∧ isBlank character = false ∧
      character ≠ ']' := by
  cases phrase with
  | null => exact ⟨_, _, rfl, by decide, by decide⟩
  | flag value => cases value <;> exact ⟨_, _, rfl, by decide, by decide⟩
  | number number =>
      rcases number.exists_begin with ⟨character, word, equal, begins⟩
      exact ⟨character, word, equal, isBlank_of_begins begins,
        ne_of_begins begins (by decide) (by decide)⟩
  | text _ => exact ⟨_, _, rfl, by decide, by decide⟩
  | emptyArray _ => exact ⟨_, _, rfl, by decide, by decide⟩
  | array _ => exact ⟨_, _, rfl, by decide, by decide⟩
  | emptyObject _ => exact ⟨_, _, rfl, by decide, by decide⟩
  | object _ => exact ⟨_, _, rfl, by decide, by decide⟩

theorem skipFrom_flag (begins : BeginsValue enclosing place) (value : Bool) :
    skipFrom enclosing place 0 (flagText value ++ rest) = skipFrom enclosing .after 0 rest := by
  cases value with
  | true =>
      have advanced : advance enclosing .value 't' (['r', 'u', 'e'] ++ rest) =
          .ok (enclosing, .after, 3) := rfl
      exact begins.skipFrom_word (by decide) (by decide) advanced
  | false =>
      have advanced : advance enclosing .value 'f' (['a', 'l', 's', 'e'] ++ rest) =
          .ok (enclosing, .after, 4) := rfl
      exact begins.skipFrom_word (by decide) (by decide) advanced

theorem skipFrom_null (begins : BeginsValue enclosing place) :
    skipFrom enclosing place 0 (['n', 'u', 'l', 'l'] ++ rest) =
      skipFrom enclosing .after 0 rest := by
  have advanced : advance enclosing .value 'n' (['u', 'l', 'l'] ++ rest) =
      .ok (enclosing, .after, 3) := rfl
  exact begins.skipFrom_word (by decide) (by decide) advanced

theorem skipFrom_text (begins : BeginsValue enclosing place) {body : List Char}
    (quoted : IsQuoted body) :
    skipFrom enclosing place 0 ('"' :: (body ++ ['"']) ++ rest) =
      skipFrom enclosing .after 0 rest := by
  have advanced : advance enclosing .value '"' ((body ++ ['"']) ++ rest) =
      .ok (enclosing, .after, (body ++ ['"']).length) := by
    have length := quoted.quotedLength_append rest
    rw [List.append_assoc, List.singleton_append, List.length_append, List.length_singleton]
    simp only [advance, length]
    rfl
  exact begins.skipFrom_word (by decide) (by decide) advanced

theorem skipFrom_number (begins : BeginsValue enclosing place) (number : NumberText)
    (ends : EndsNumber rest) :
    skipFrom enclosing place 0 (number.text ++ rest) = skipFrom enclosing .after 0 rest := by
  have length := number.numberLength_append ends
  rcases number.exists_begin with ⟨character, word, equal, isBegin⟩
  rw [equal, List.cons_append] at length ⊢
  have advanced : advance enclosing .value character (word ++ rest) =
      .ok (enclosing, .after, word.length) := by
    rw [advance_number isBegin, length]
    rfl
  exact begins.skipFrom_word (isBlank_of_begins isBegin)
    (ne_of_begins isBegin (by decide) (by decide)) advanced

/-! ## Values -/

def Skips : Category → List Char → Prop
  | .value, text => ∀ {enclosing place rest}, BeginsValue enclosing place → EndsNumber rest →
      skipFrom enclosing place 0 (text ++ rest) = skipFrom enclosing .after 0 rest
  | .items, text => ∀ {outer place rest}, BeginsValue (.array :: outer) place →
      skipFrom (.array :: outer) place 0 (text ++ ']' :: rest) = skipFrom outer .after 0 rest
  | .members, text => ∀ {outer place rest}, place = .name ∨ place = .opened →
      skipFrom (.object :: outer) place 0 (text ++ '}' :: rest) = skipFrom outer .after 0 rest

theorem EndsNumber.of_blanks_append {blanks : List Char} (blank : Blanks blanks)
    (ends : EndsNumber rest) : EndsNumber (blanks ++ rest) := by
  cases blanks with
  | nil => exact ends
  | cons character blanks =>
      intro head isHead
      cases isHead
      have isBlank := blank character List.mem_cons_self
      simp only [Json.isBlank, Bool.or_eq_true, beq_iff_eq] at isBlank
      rcases isBlank with ((rfl | rfl) | rfl) | rfl <;> decide

theorem EndsNumber.of_cons {character : Char} (notDigit : isDigit character = false)
    (noPart : character ∉ ['.', 'e', 'E']) (rest : List Char) :
    EndsNumber (character :: rest) := by
  intro head isHead
  cases isHead
  simpa [notDigit] using noPart

theorem BeginsValue.skipFrom_container (begins : BeginsValue enclosing place)
    {character : Char} (visible : isBlank character = false) (notClosing : character ≠ ']')
    {container : Container}
    (advanced : ∀ rest, advance enclosing .value character rest =
      .ok (container :: enclosing, .opened, 0)) (rest : List Char) :
    skipFrom enclosing place 0 (character :: rest) =
      skipFrom (container :: enclosing) .opened 0 rest := by
  rw [skipFrom_advance begins.not_isDone visible (begins.advance_eq notClosing ▸ advanced rest)]

theorem skipFrom_array (begins : BeginsValue enclosing place) (rest : List Char) :
    skipFrom enclosing place 0 ('[' :: rest) = skipFrom (.array :: enclosing) .opened 0 rest :=
  begins.skipFrom_container (by decide) (by decide) (fun _ => rfl) rest

theorem skipFrom_object (begins : BeginsValue enclosing place) (rest : List Char) :
    skipFrom enclosing place 0 ('{' :: rest) = skipFrom (.object :: enclosing) .opened 0 rest :=
  begins.skipFrom_container (by decide) (by decide) (fun _ => rfl) rest

theorem not_isDone_cons {container : Container} :
    ¬ IsDone (container :: outer) place := by
  rintro ⟨isEmpty, _⟩
  cases isEmpty

section Containers

variable {blanks : List Char} (blank : Blanks blanks)
include blank

theorem skipFrom_closeArray (mayEnd : place = .after ∨ place = .opened) (rest : List Char) :
    skipFrom (.array :: outer) place 0 (blanks ++ ']' :: rest) = skipFrom outer .after 0 rest := by
  have advanced : advance (.array :: outer) place ']' rest = .ok (outer, .after, 0) := by
    rcases mayEnd with rfl | rfl <;> rfl
  rw [skipFrom_blanks blank not_isDone_cons]
  exact skipFrom_advance not_isDone_cons (show isBlank ']' = false by decide) advanced

theorem skipFrom_closeObject (mayEnd : place = .after ∨ place = .opened) (rest : List Char) :
    skipFrom (.object :: outer) place 0 (blanks ++ '}' :: rest) =
      skipFrom outer .after 0 rest := by
  have advanced : advance (.object :: outer) place '}' rest = .ok (outer, .after, 0) := by
    rcases mayEnd with rfl | rfl <;> rfl
  rw [skipFrom_blanks blank not_isDone_cons]
  exact skipFrom_advance not_isDone_cons (show isBlank '}' = false by decide) advanced

theorem skipFrom_nextItem (rest : List Char) :
    skipFrom (.array :: outer) .after 0 (blanks ++ ',' :: rest) =
      skipFrom (.array :: outer) .value 0 rest := by
  have advanced : advance (.array :: outer) .after ',' rest =
      .ok (.array :: outer, .value, 0) := rfl
  rw [skipFrom_blanks blank not_isDone_cons]
  exact skipFrom_advance not_isDone_cons (show isBlank ',' = false by decide) advanced

theorem skipFrom_nextMember (rest : List Char) :
    skipFrom (.object :: outer) .after 0 (blanks ++ ',' :: rest) =
      skipFrom (.object :: outer) .name 0 rest := by
  have advanced : advance (.object :: outer) .after ',' rest =
      .ok (.object :: outer, .name, 0) := rfl
  rw [skipFrom_blanks blank not_isDone_cons]
  exact skipFrom_advance not_isDone_cons (show isBlank ',' = false by decide) advanced

theorem skipFrom_colon (rest : List Char) :
    skipFrom (.object :: outer) .colon 0 (blanks ++ ':' :: rest) =
      skipFrom (.object :: outer) .value 0 rest := by
  have advanced : advance (.object :: outer) .colon ':' rest =
      .ok (.object :: outer, .value, 0) := rfl
  rw [skipFrom_blanks blank not_isDone_cons]
  exact skipFrom_advance not_isDone_cons (show isBlank ':' = false by decide) advanced

theorem skipFrom_name (begins : place = .name ∨ place = .opened) {name : List Char}
    (quoted : IsQuoted name) (rest : List Char) :
    skipFrom (.object :: outer) place 0 (blanks ++ '"' :: (name ++ '"' :: rest)) =
      skipFrom (.object :: outer) .colon 0 rest := by
  have advanced : advance (.object :: outer) place '"' (name ++ '"' :: rest) =
      .ok (.object :: outer, .colon, (name ++ ['"']).length) := by
    have length := quoted.quotedLength_append rest
    rw [List.length_append, List.length_singleton]
    rcases begins with rfl | rfl <;>
    · simp only [advance, length]
      rfl
  have passed : skipFrom (.object :: outer) .colon (name ++ ['"']).length
      (name ++ ['"'] ++ rest) = skipFrom (.object :: outer) .colon 0 rest :=
    skipFrom_append _ rest
  rw [← List.append_cons] at passed
  rw [skipFrom_blanks blank not_isDone_cons,
    skipFrom_advance not_isDone_cons (show isBlank '"' = false by decide) advanced]
  exact passed

end Containers

/-- A phrase is gone over to its end. -/
theorem Phrase.skips {category : Category} (phrase : Phrase category text) :
    Skips category text := by
  induction phrase with
  | null => exact fun begins _ => skipFrom_null begins
  | flag value => exact fun begins _ => skipFrom_flag begins value
  | number number => exact fun begins ends => skipFrom_number begins number ends
  | text quoted => exact fun begins _ => skipFrom_text begins quoted
  | emptyArray blank =>
      intro enclosing place rest begins _
      rw [List.cons_append, List.append_assoc, List.singleton_append, skipFrom_array begins,
        skipFrom_closeArray blank (Or.inr rfl)]
  | array _ induction =>
      intro enclosing place rest begins _
      rw [List.cons_append, List.append_assoc, List.singleton_append, skipFrom_array begins]
      exact induction (.first enclosing)
  | emptyObject blank =>
      intro enclosing place rest begins _
      rw [List.cons_append, List.append_assoc, List.singleton_append, skipFrom_object begins,
        skipFrom_closeObject blank (Or.inr rfl)]
  | object _ induction =>
      intro enclosing place rest begins _
      rw [List.cons_append, List.append_assoc, List.singleton_append, skipFrom_object begins]
      exact induction (Or.inr rfl)
  | lastItem blankLead _ blankTrail induction =>
      intro outer place rest begins
      have ends : EndsNumber (']' :: rest) := .of_cons (by decide) (by decide) rest
      rw [List.append_assoc, List.append_assoc, skipFrom_blanks blankLead begins.not_isDone,
        induction begins (ends.of_blanks_append blankTrail),
        skipFrom_closeArray blankTrail (Or.inl rfl)]
  | @item lead value trail items blankLead _ blankTrail _ induction more =>
      intro outer place rest begins
      have ends : EndsNumber (',' :: (items ++ ']' :: rest)) := .of_cons (by decide) (by decide) _
      simp only [List.append_assoc, List.cons_append]
      rw [skipFrom_blanks blankLead begins.not_isDone,
        induction begins (ends.of_blanks_append blankTrail), skipFrom_nextItem blankTrail]
      exact more (.value _)
  | lastMember blankLead quoted blankGap blankPad _ blankTrail induction =>
      intro outer place rest begins
      have ends : EndsNumber ('}' :: rest) := .of_cons (by decide) (by decide) rest
      simp only [List.append_assoc, List.cons_append]
      rw [skipFrom_name blankLead begins quoted, skipFrom_colon blankGap,
        skipFrom_blanks blankPad not_isDone_cons,
        induction (.value _) (ends.of_blanks_append blankTrail),
        skipFrom_closeObject blankTrail (Or.inl rfl)]
  | @member lead name gap pad value trail members blankLead quoted blankGap blankPad _ blankTrail
      _ induction more =>
      intro outer place rest begins
      have ends : EndsNumber (',' :: (members ++ '}' :: rest)) :=
        .of_cons (by decide) (by decide) _
      simp only [List.append_assoc, List.cons_append]
      rw [skipFrom_name blankLead begins quoted, skipFrom_colon blankGap,
        skipFrom_blanks blankPad not_isDone_cons,
        induction (.value _) (ends.of_blanks_append blankTrail), skipFrom_nextMember blankTrail]
      exact more (Or.inl rfl)

/-- A value is skipped with the blanks in front of it, and nothing behind it is. -/
theorem skipValue_append {pad value : List Char} (blankPad : Blanks pad) (isValue : IsValue value)
    (ends : EndsNumber rest) : skipValue (pad ++ (value ++ rest)) = .ok rest := by
  rw [skipValue, skipFrom_blanks blankPad (BeginsValue.value []).not_isDone,
    isValue.skips (.value []) ends, skipFrom_done]

end PlanarMesh.Json

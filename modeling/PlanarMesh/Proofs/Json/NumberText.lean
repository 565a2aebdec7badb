import PlanarMesh.Json.Skipping

/-! # Written numbers

`NumberText` is a number as the grammar of JSON has it: whole digits without a leading
zero, a fraction and a power of ten that may both be left out. Whatever follows a number
without continuing it, `readDecimal` gives the decimal that the number denotes and
`numberLength` counts its characters.
-/

namespace PlanarMesh.Json

structure Digits where
  text : List Char
  nonempty : text ≠ []
  areDigits : ∀ character ∈ text, isDigit character = true

structure Power where
  mark : Char
  sign : Option Bool
  digits : Digits
  isMark : mark = 'e' ∨ mark = 'E'

structure NumberText where
  negative : Bool
  whole : Digits
  fraction : Option Digits
  exponent : Option Power
  leading : ∀ next rest, whole.text ≠ '0' :: next :: rest

/-! ## Text and meaning -/

def fractionDigits : Option Digits → List Char
  | none => []
  | some digits => digits.text

def fractionText : Option Digits → List Char
  | none => []
  | some digits => '.' :: digits.text

def signText : Option Bool → List Char
  | none => []
  | some true => ['-']
  | some false => ['+']

def powerText : Option Power → List Char
  | none => []
  | some exponent => exponent.mark :: (signText exponent.sign ++ exponent.digits.text)

def powerValue : Option Power → Int
  | none => 0
  | some exponent =>
      let size : Int := digitsValue exponent.digits.text
      if exponent.sign = some true then -size else size

namespace NumberText

def unsigned (number : NumberText) : List Char :=
  number.whole.text ++ (fractionText number.fraction ++ powerText number.exponent)

def text (number : NumberText) : List Char :=
  if number.negative then '-' :: number.unsigned else number.unsigned

def decimal (number : NumberText) : Decimal :=
  .ofParts number.negative (digitsValue (number.whole.text ++ fractionDigits number.fraction))
    (powerValue number.exponent - (fractionDigits number.fraction).length)

end NumberText

/-- The first character does not continue a number. -/
def EndsNumber (rest : List Char) : Prop :=
  ∀ character ∈ rest.head?,
    isDigit character = false ∧ character ≠ '.' ∧ character ≠ 'e' ∧ character ≠ 'E'

/-! ## Digits -/

section Digits

variable (digits : Digits) {rest : List Char}

def EndsDigits (rest : List Char) : Prop :=
  ∀ character ∈ rest.head?, isDigit character = false

theorem takeWhile_digits (ends : EndsDigits rest) :
    (digits.text ++ rest).takeWhile isDigit = digits.text := by
  rw [List.takeWhile_append_of_pos digits.areDigits]
  cases rest with
  | nil => simp
  | cons character rest =>
      have stops : isDigit character = false := ends character rfl
      simp [stops]

theorem dropWhile_digits (ends : EndsDigits rest) :
    (digits.text ++ rest).dropWhile isDigit = rest := by
  rw [List.dropWhile_append_of_pos digits.areDigits]
  cases rest with
  | nil => rfl
  | cons character rest =>
      have stops : isDigit character = false := ends character rfl
      simp [stops]

theorem exists_first : ∃ first others, digits.text = first :: others ∧ isDigit first = true := by
  cases equal : digits.text with
  | nil => exact absurd equal digits.nonempty
  | cons first others =>
      refine ⟨first, others, rfl, digits.areDigits first ?_⟩
      rw [equal]
      exact List.mem_cons_self

theorem exists_unsigned : ∃ first others, digits.text = first :: others ∧
    first ≠ '-' ∧ first ≠ '+' := by
  rcases exists_first digits with ⟨first, others, equal, isFirst⟩
  refine ⟨first, others, equal, ?_, ?_⟩
  · rintro rfl
    cases isFirst
  · rintro rfl
    cases isFirst

theorem readDigits_append (ends : EndsDigits rest) :
    readDigits (digits.text ++ rest) = .ok (digits.text, rest) := by
  have taken := takeWhile_digits digits ends
  have dropped := dropWhile_digits digits ends
  rcases exists_first digits with ⟨first, others, equal, isFirst⟩
  rw [equal, List.cons_append] at taken dropped ⊢
  rw [readDigits, if_pos isFirst, taken, dropped]

theorem anyDigits_append (ends : EndsDigits rest) :
    anyDigits (digits.text ++ rest) = .ok rest := by
  rw [anyDigits, takeWhile_digits digits ends, dropWhile_digits digits ends, if_neg]
  simpa using digits.nonempty

end Digits

/-! ## Parts of a number -/

theorem EndsNumber.endsDigits {rest : List Char} (ends : EndsNumber rest) : EndsDigits rest :=
  fun character isHead => (ends character isHead).1

section Parts

variable {rest : List Char} (ends : EndsNumber rest)
include ends

theorem EndsNumber.powerText_append (exponent : Option Power) :
    EndsDigits (powerText exponent ++ rest) := by
  cases exponent with
  | none => exact ends.endsDigits
  | some exponent =>
      rintro character ⟨⟩
      rcases exponent.isMark with isMark | isMark <;> rw [isMark] <;> decide

theorem EndsNumber.fractionText_append (fraction : Option Digits)
    (exponent : Option Power) :
    EndsDigits (fractionText fraction ++ (powerText exponent ++ rest)) := by
  cases fraction with
  | none => exact ends.powerText_append exponent
  | some fraction =>
      rintro character ⟨⟩
      decide

theorem readExponent_append (exponent : Option Power) :
    readExponent (powerText exponent ++ rest) = .ok (powerValue exponent, rest) := by
  cases exponent with
  | none =>
      cases rest with
      | nil => rfl
      | cons character rest =>
          have stops := ends character rfl
          simp [powerText, powerValue, readExponent, stops]
  | some exponent =>
      have read := readDigits_append exponent.digits ends.endsDigits
      rcases exists_unsigned exponent.digits with ⟨first, others, equal, notMinus, notPlus⟩
      rw [equal, List.cons_append] at read
      rcases exponent with ⟨mark, sign, digits, isMark⟩
      rcases sign with _ | _ | _ <;>
        simp_all [powerText, powerValue, readExponent, signText]

theorem skipExponent_append (exponent : Option Power) :
    skipExponent (powerText exponent ++ rest) = .ok rest := by
  cases exponent with
  | none =>
      cases rest with
      | nil => rfl
      | cons character rest =>
          have stops := ends character rfl
          simp [powerText, skipExponent, stops]
  | some exponent =>
      have skipped := anyDigits_append exponent.digits ends.endsDigits
      rcases exists_unsigned exponent.digits with ⟨first, others, equal, notMinus, notPlus⟩
      rw [equal, List.cons_append] at skipped
      rcases exponent with ⟨mark, sign, digits, isMark⟩
      rcases sign with _ | _ | _ <;>
        simp_all [powerText, skipExponent, signText]

theorem head_ne_point (exponent : Option Power) (others : List Char) :
    powerText exponent ++ rest ≠ '.' :: others := by
  intro equal
  cases exponent with
  | none =>
      have stops := ends '.' (by simp_all [powerText])
      exact stops.2.1 rfl
  | some exponent =>
      rw [powerText, List.cons_append] at equal
      have isPoint : exponent.mark = '.' := (List.cons.inj equal).1
      rcases exponent.isMark with isMark | isMark <;> rw [isMark] at isPoint <;> cases isPoint

theorem readFraction_append (fraction : Option Digits) (exponent : Option Power) :
    readFraction (fractionText fraction ++ (powerText exponent ++ rest)) =
      .ok (fractionDigits fraction, powerText exponent ++ rest) := by
  cases fraction with
  | none =>
      rw [fractionText, List.nil_append, readFraction]
      · rfl
      · exact head_ne_point ends exponent
  | some fraction => exact readDigits_append fraction (ends.powerText_append exponent)

theorem skipFraction_append (fraction : Option Digits) (exponent : Option Power) :
    skipFraction (fractionText fraction ++ (powerText exponent ++ rest)) =
      .ok (powerText exponent ++ rest) := by
  cases fraction with
  | none =>
      rw [fractionText, List.nil_append, skipFraction]
      exact head_ne_point ends exponent
  | some fraction => exact anyDigits_append fraction (ends.powerText_append exponent)

end Parts

/-! ## Whole numbers -/

namespace NumberText

variable (number : NumberText) {rest : List Char}

theorem readWhole_append (ends : EndsDigits rest) :
    readWhole (number.whole.text ++ rest) = .ok (number.whole.text, rest) := by
  have noLeadingZero := number.leading
  simp only [readWhole, readDigits_append number.whole ends, bind, Except.bind]

theorem skipWhole_append (ends : EndsDigits rest) :
    skipWhole (number.whole.text ++ rest) = .ok rest := by
  have skipped := anyDigits_append number.whole ends
  rcases equal : number.whole.text with _ | ⟨first, others⟩
  · exact absurd equal number.whole.nonempty
  · by_cases isZero : first = '0'
    · subst isZero
      cases others with
      | nil =>
          rw [List.singleton_append, skipWhole, if_neg]
          cases rest with
          | nil => simp
          | cons character rest => simp [ends character rfl]
      | cons next others => exact absurd equal (number.leading next others)
    · rw [equal, List.cons_append] at skipped
      rw [List.cons_append, skipWhole, skipped]
      intro others begins
      exact isZero (List.cons.inj begins).1

theorem unsigned_ne_minus (rest others : List Char) : number.unsigned ++ rest ≠ '-' :: others := by
  rcases exists_first number.whole with ⟨first, digits, equal, isFirst⟩
  rw [unsigned, equal]
  intro begins
  have isMinus : first = '-' := (List.cons.inj begins).1
  rw [isMinus] at isFirst
  cases isFirst

theorem unsigned_append :
    number.unsigned ++ rest =
      number.whole.text ++
        (fractionText number.fraction ++ (powerText number.exponent ++ rest)) := by
  simp [unsigned]

theorem readDecimal_append (ends : EndsNumber rest) :
    readDecimal (number.text ++ rest) = .ok (number.decimal, rest) := by
  have whole := number.readWhole_append
    (ends.fractionText_append number.fraction number.exponent)
  have fraction := readFraction_append ends number.fraction number.exponent
  have exponent := readExponent_append ends number.exponent
  have noMinus := number.unsigned_ne_minus rest
  rw [← unsigned_append] at whole
  cases isNegative : number.negative with
  | true =>
      rw [text, isNegative, if_pos rfl, List.cons_append, readDecimal]
      simp [whole, fraction, exponent, decimal, isNegative, bind, Except.bind]
  | false =>
      rw [text, isNegative, if_neg Bool.false_ne_true, readDecimal]
      · simp [whole, fraction, exponent, decimal, isNegative, bind, Except.bind]
      · exact noMinus

theorem numberLength_append (ends : EndsNumber rest) :
    numberLength (number.text ++ rest) = .ok number.text.length := by
  have whole := number.skipWhole_append
    (ends.fractionText_append number.fraction number.exponent)
  have fraction := skipFraction_append ends number.fraction number.exponent
  have exponent := skipExponent_append ends number.exponent
  have noMinus := number.unsigned_ne_minus rest
  rw [← unsigned_append] at whole
  cases isNegative : number.negative with
  | true =>
      rw [text, isNegative, if_pos rfl, List.cons_append, numberLength]
      simp [whole, fraction, exponent, bind, Except.bind]
      omega
  | false =>
      rw [text, isNegative, if_neg Bool.false_ne_true, numberLength]
      · simp [whole, fraction, exponent, bind, Except.bind]
      · exact noMinus

theorem exists_begin :
    ∃ first others, number.text = first :: others ∧ (first = '-' ∨ isDigit first = true) := by
  cases isNegative : number.negative with
  | true => exact ⟨'-', number.unsigned, by rw [text, isNegative, if_pos rfl], Or.inl rfl⟩
  | false =>
      rcases exists_first number.whole with ⟨first, digits, equal, isFirst⟩
      refine ⟨first, digits ++ (fractionText number.fraction ++ powerText number.exponent),
        ?_, Or.inr isFirst⟩
      rw [text, isNegative, if_neg Bool.false_ne_true, unsigned, equal, List.cons_append]

theorem mem_text {character : Char} (member : character ∈ number.text) :
    isDigit character = true ∨ character ∈ ['-', '+', '.', 'e', 'E'] := by
  have inUnsigned : character ∈ number.unsigned →
      isDigit character = true ∨ character ∈ ['-', '+', '.', 'e', 'E'] := by
    rw [unsigned, List.mem_append, List.mem_append]
    rintro (inWhole | inFraction | inPower)
    · exact Or.inl (number.whole.areDigits character inWhole)
    · cases equal : number.fraction with
      | none => simp [equal, fractionText] at inFraction
      | some digits =>
          rw [equal, fractionText, List.mem_cons] at inFraction
          rcases inFraction with rfl | inDigits
          · exact Or.inr (by decide)
          · exact Or.inl (digits.areDigits character inDigits)
    · cases equal : number.exponent with
      | none => simp [equal, powerText] at inPower
      | some power =>
          rw [equal, powerText, List.mem_cons, List.mem_append] at inPower
          rcases inPower with rfl | inSign | inDigits
          · rcases power.isMark with isMark | isMark <;> simp [isMark]
          · rcases sign : power.sign with _ | _ | _ <;> simp_all [signText]
          · exact Or.inl (power.digits.areDigits character inDigits)
  cases isNegative : number.negative with
  | true =>
      rw [text, isNegative, if_pos rfl, List.mem_cons] at member
      rcases member with rfl | member
      · exact Or.inr (by decide)
      · exact inUnsigned member
  | false =>
      rw [text, isNegative, if_neg Bool.false_ne_true] at member
      exact inUnsigned member

end NumberText

end PlanarMesh.Json

import Mathlib.Data.List.TakeWhile
import PlanarMesh.Proofs.Json.Standard

/-! # Records are read step by step

What a standard reader leaves is an end of what it was given, and behind a name it is a
shorter one. So the bound on the number of members is never met, and each member is read by
the step for one member.
-/

namespace PlanarMesh.Json

theorem bind_eq_ok_iff {α β : Type} {result : Except Fault α} {next : α → Except Fault β}
    {value : β} : result.bind next = .ok value ↔
      ∃ first, result = .ok first ∧ next first = .ok value := by
  cases result <;> simp [Except.bind]

theorem map_eq_ok_iff {α β : Type} {result : Except Fault α} {action : α → β} {value : β} :
    result.map action = .ok value ↔ ∃ first, result = .ok first ∧ action first = value := by
  cases result <;> simp [Except.map]

theorem bind_congr_of_ok {α β : Type} {result : Except Fault α} {next other : α → Except Fault β}
    (agree : ∀ value, result = .ok value → next value = other value) :
    result.bind next = result.bind other := by
  cases result with
  | error fault => rfl
  | ok value => exact agree value rfl

variable {toFloat : Decimal → Float} {input rest : List Char}

theorem skipBlanks_suffix (input : List Char) : skipBlanks input <:+ input :=
  List.dropWhile_suffix _

theorem readWord_suffix {word : List Char} (read : readWord word input = .ok rest) :
    rest <:+ input := by
  induction word generalizing input with
  | nil =>
      cases read
      exact List.suffix_refl _
  | cons expected word induction =>
      cases input with
      | nil => cases read
      | cons character input =>
          rw [readWord] at read
          split at read
          · exact (induction read).trans (List.suffix_cons _ _)
          · cases read

theorem readQuoted_suffix {understood : Nat} {characters : List Char}
    (read : readQuoted understood input = .ok (characters, rest)) : rest <:+ input := by
  induction input generalizing understood characters with
  | nil => cases understood <;> cases read
  | cons character input induction =>
      refine List.IsSuffix.trans ?_ (List.suffix_cons character input)
      cases understood with
      | succ understood => exact induction read
      | zero =>
          rw [readQuoted] at read
          split at read
          · cases read
            exact List.suffix_refl _
          · split at read
            · split at read
              · cases read
              · rcases map_eq_ok_iff.mp read with ⟨⟨others, left⟩, further, equal⟩
                cases equal
                exact induction further
            · split at read
              · cases read
              · rcases map_eq_ok_iff.mp read with ⟨⟨others, left⟩, further, equal⟩
                cases equal
                exact induction further

theorem skipFrom_suffix {enclosing : List Container} {place : Place} {pending : Nat}
    (skipped : skipFrom enclosing place pending input = .ok rest) : rest <:+ input := by
  induction input generalizing enclosing place pending with
  | nil =>
      rw [skipFrom] at skipped
      · split at skipped
        · cases skipped
          exact List.suffix_refl _
        · cases skipped
  | cons character input induction =>
      cases pending with
      | succ pending => exact (induction skipped).trans (List.suffix_cons _ _)
      | zero =>
          rw [skipFrom] at skipped
          split at skipped
          · cases skipped
            exact List.suffix_refl _
          · refine List.IsSuffix.trans ?_ (List.suffix_cons character input)
            split at skipped
            · exact induction skipped
            · split at skipped
              · cases skipped
              · exact induction skipped

/-! ## Numbers -/

theorem readDigits_suffix {digits : List Char} (read : readDigits input = .ok (digits, rest)) :
    rest <:+ input := by
  cases input with
  | nil => cases read
  | cons first input =>
      rw [readDigits] at read
      split at read
      · cases read
        exact List.dropWhile_suffix _
      · cases read

theorem readWhole_suffix {digits : List Char} (read : readWhole input = .ok (digits, rest)) :
    rest <:+ input := by
  rcases bind_eq_ok_iff.mp read with ⟨⟨whole, left⟩, readWhole, alone⟩
  dsimp only at alone
  split at alone <;> cases alone
  exact readDigits_suffix readWhole

theorem readFraction_suffix {digits : List Char}
    (read : readFraction input = .ok (digits, rest)) : rest <:+ input := by
  rw [readFraction.eq_def] at read
  split at read
  · exact (readDigits_suffix read).trans (List.suffix_cons _ _)
  · cases read
    exact List.suffix_refl _

theorem readExponent_suffix {power : Int} (read : readExponent input = .ok (power, rest)) :
    rest <:+ input := by
  rw [readExponent.eq_def] at read
  split at read
  · rename_i mark signed
    split at read
    · split at read
      rename_i negative digits isSplit
      have isEnd : digits <:+ signed := by
        split at isSplit <;> cases isSplit
        · exact List.suffix_cons _ _
        · exact List.suffix_cons _ _
        · exact List.suffix_refl _
      split at read <;> cases read
      rename_i readPower
      exact ((readDigits_suffix readPower).trans isEnd).trans (List.suffix_cons mark signed)
    · cases read
      exact List.suffix_refl _
  · cases read
    exact List.suffix_refl _

theorem readDecimal_suffix {decimal : Decimal} (read : readDecimal input = .ok (decimal, rest)) :
    rest <:+ input := by
  rw [readDecimal.eq_def] at read
  split at read
  rename_i negative unsigned isSplit
  have isEnd : unsigned <:+ input := by
    split at isSplit <;> cases isSplit
    · exact List.suffix_cons _ _
    · exact List.suffix_refl _
  rcases bind_eq_ok_iff.mp read with ⟨⟨whole, left⟩, readWhole, read⟩
  rcases bind_eq_ok_iff.mp read with ⟨⟨fraction, others⟩, readFraction, read⟩
  rcases bind_eq_ok_iff.mp read with ⟨⟨power, final⟩, readExponent, read⟩
  cases read
  exact (readExponent_suffix readExponent).trans
    ((readFraction_suffix readFraction).trans ((readWhole_suffix readWhole).trans isEnd))

theorem readNumber_suffix {value : Float} (read : readNumber toFloat input = .ok (value, rest)) :
    rest <:+ input := by
  rcases bind_eq_ok_iff.mp read with ⟨⟨decimal, left⟩, readDecimal, bounded⟩
  dsimp only at bounded
  split at bounded <;> cases bounded
  exact readDecimal_suffix readDecimal

/-! ## Pieces of a record -/

theorem readNumberField_suffix {value : Float}
    (read : readNumberField toFloat input = .ok (value, rest)) : rest <:+ input := by
  refine List.IsSuffix.trans ?_ (skipBlanks_suffix input)
  rw [readNumberField] at read
  split at read
  · cases read
  · rename_i character others skipped
    rw [skipped]
    split at read
    · exact readNumber_suffix read
    · cases read

theorem readFlagField_suffix {value : Bool}
    (read : readFlagField toFloat input = .ok (value, rest)) : rest <:+ input := by
  refine List.IsSuffix.trans ?_ (skipBlanks_suffix input)
  rw [readFlagField] at read
  split at read
  · rename_i others skipped
    rcases map_eq_ok_iff.mp read with ⟨left, word, equal⟩
    cases equal
    rw [skipped]
    exact (readWord_suffix word).trans (List.suffix_cons _ _)
  · rename_i others skipped
    rcases map_eq_ok_iff.mp read with ⟨left, word, equal⟩
    cases equal
    rw [skipped]
    exact (readWord_suffix word).trans (List.suffix_cons _ _)
  · cases read

theorem FieldType.read_suffix {α : Type} {fieldType : FieldType α} {value : α}
    (read : fieldType.read (.standard toFloat) input = .ok (value, rest)) : rest <:+ input := by
  cases fieldType with
  | number => exact readNumberField_suffix read
  | flag => exact readFlagField_suffix read

theorem passColon_suffix (passed : passColon input = .ok rest) : rest <:+ input := by
  refine List.IsSuffix.trans ?_ (skipBlanks_suffix input)
  rw [passColon] at passed
  split at passed
  · cases passed
  · rename_i character others skipped
    split at passed <;> cases passed
    rw [skipped]
    exact List.suffix_cons _ _

theorem seekName_length_lt {first : Bool} (sought : seekName first input = .ok (true, rest)) :
    rest.length < input.length := by
  have shorter := (skipBlanks_suffix input).length_le
  rw [seekName] at sought
  split at sought
  · cases sought
  · rename_i character others skipped
    rw [skipped, List.length_cons] at shorter
    split at sought
    · cases sought
    · split at sought
      · split at sought <;> cases sought
        omega
      · split at sought
        · have furtherShorter := (skipBlanks_suffix others).length_le
          split at sought
          · cases sought
          · rename_i next left skippedOthers
            rw [skippedOthers, List.length_cons] at furtherShorter
            split at sought <;> cases sought
            omega
        · cases sought

theorem nextName_length_lt {first : Bool} {name : String}
    (read : nextName first input = .ok (some name, rest)) : rest.length < input.length := by
  rcases bind_eq_ok_iff.mp read with ⟨⟨more, left⟩, sought, read⟩
  cases more with
  | false => cases read
  | true =>
      rcases bind_eq_ok_iff.mp read with ⟨⟨characters, others⟩, quoted, equal⟩
      cases equal
      exact Nat.lt_of_le_of_lt (readQuoted_suffix quoted).length_le (seekName_length_lt sought)

/-! ## Members -/

namespace RecordShape

variable {α : Type} {shape : RecordShape α} {first : Bool} {found : List (String × α)}

/-- A step depends on the reading of the other members only for shorter texts. -/
theorem memberStep_congr
    {others alternative :
      Bool → List (String × α) → List Char → Except Fault (List α × List Char)}
    (agree : ∀ found left, left.length < input.length →
      others false found left = alternative false found left) :
    shape.memberStep (.standard toFloat) others first found input =
      shape.memberStep (.standard toFloat) alternative first found input := by
  refine bind_congr_of_ok fun ⟨name, behindName⟩ named => ?_
  cases name with
  | none => rfl
  | some name =>
      have shorter := nextName_length_lt named
      dsimp only
      split
      · split
        · rfl
        refine bind_congr_of_ok fun behindColon colon => ?_
        refine bind_congr_of_ok fun ⟨value, behindValue⟩ read => ?_
        have passed := (passColon_suffix colon).length_le
        have gone := (FieldType.read_suffix read).length_le
        exact agree _ _ (Nat.lt_of_le_of_lt (gone.trans passed) shorter)
      · refine bind_congr_of_ok fun behindColon colon => ?_
        refine bind_congr_of_ok fun behindValue skipped => ?_
        have passed := (passColon_suffix colon).length_le
        have gone := (skipFrom_suffix skipped).length_le
        exact agree _ _ (Nat.lt_of_le_of_lt (gone.trans passed) shorter)

/-- More than one step for each character are never taken. -/
theorem readMembers_of_length_lt {bound other : Nat} (enough : input.length < bound)
    (alsoEnough : input.length < other) :
    shape.readMembers (.standard toFloat) bound first found input =
      shape.readMembers (.standard toFloat) other first found input := by
  induction bound generalizing other first found input with
  | zero => exact absurd enough (Nat.not_lt_zero _)
  | succ bound induction =>
      cases other with
      | zero => exact absurd alsoEnough (Nat.not_lt_zero _)
      | succ other =>
          rw [readMembers, readMembers]
          exact memberStep_congr fun found left shorter =>
            induction (by omega) (by omega)

end RecordShape

theorem Codec.lawful_standard (toFloat : Decimal → Float) : (Codec.standard toFloat).Lawful where
  toLawful := Library.lawful_standard toFloat
  readMembers_step shape first found input := by
    change shape.readMembers _ (input.length + 1) first found input = _
    rw [RecordShape.readMembers]
    exact RecordShape.memberStep_congr fun found left shorter =>
      RecordShape.readMembers_of_length_lt shorter (Nat.lt_succ_self _)
  readItems_nil _ _ _ := rfl
  readItems_cons _ _ _ _ _ := rfl

end PlanarMesh.Json

import PlanarMesh.Proofs.Json.Grammar

/-! # Reading quoted texts

Up to its closing quote a quoted text is read as the characters that it denotes, and it
is skipped whatever it denotes. Escaped characters denote themselves.
-/

namespace PlanarMesh.Json

variable {body characters digits rest : List Char} {unit : Nat}

/-! ## Code units -/

theorem DenotesUnit.length_eq (denoted : DenotesUnit digits unit) : digits.length = 4 := by
  rcases denoted with ⟨first, second, third, fourth, mapped, _⟩
  rcases digits with _ | ⟨_, _ | ⟨_, _ | ⟨_, _ | ⟨_, _ | ⟨_, _⟩⟩⟩⟩⟩ <;>
    simp [List.mapM_cons, Option.bind_eq_some_iff] at mapped ⊢

theorem length_le_byteCount (text : List Char) : text.length ≤ byteCount text := by
  induction text with
  | nil => exact Nat.le_refl 0
  | cons character text induction =>
      have positive := Char.utf8Size_pos character
      rw [byteCount, List.length_cons]
      omega

theorem DenotesUnit.codeUnit_append (denoted : DenotesUnit digits unit) (rest : List Char) :
    codeUnit (digits ++ rest) = .ok unit := by
  have four := denoted.length_eq
  have enough := length_le_byteCount digits
  rcases denoted with ⟨first, second, third, fourth, mapped, rfl⟩
  have front : (digits ++ rest).take 4 = digits := List.take_left' four
  rw [codeUnit, front, if_neg (by omega), mapped]
  simp only [List.foldl_cons, List.foldl_nil]
  congr 1
  omega

/-! ## Skipping -/

theorem escapeLength_letter {letter denoted : Char}
    (escape : letterEscape? letter = some denoted) (rest : List Char) :
    escapeLength (letter :: rest) = .ok 1 := by
  unfold escapeLength
  split
  · rename_i empty
    cases empty
  · rename_i equal
    cases equal
    cases escape
  · rename_i equal
    cases equal
    rw [escape, Option.isSome_some, if_pos rfl]

theorem quotedLength_append (word rest : List Char) :
    quotedLength word.length (word ++ rest) =
      (quotedLength 0 rest).map (· + word.length) := by
  induction word with
  | nil =>
      rw [List.nil_append, List.length_nil]
      cases quotedLength 0 rest <;> rfl
  | cons character word induction =>
      rw [List.cons_append, List.length_cons, quotedLength, induction]
      cases quotedLength 0 rest <;> rfl

theorem quotedLength_escape {escape : List Char} {rest : List Char}
    (length : escapeLength (escape ++ rest) = .ok escape.length) :
    quotedLength 0 ('\\' :: (escape ++ rest)) =
      (quotedLength 0 rest).map (· + (escape.length + 1)) := by
  rw [quotedLength, if_neg (by decide), if_pos rfl, length]
  simp only [quotedLength_append]
  cases quotedLength 0 rest <;> rfl

theorem IsQuoted.quotedLength_append (quoted : IsQuoted body) (rest : List Char) :
    quotedLength 0 (body ++ '"' :: rest) = .ok (body.length + 1) := by
  induction quoted with
  | nothing => rfl
  | plain isPlain _ induction =>
      rw [List.cons_append, quotedLength, if_neg isPlain.2.1, if_neg isPlain.2.2,
        if_neg (Nat.not_lt.mpr isPlain.1), induction]
      rfl
  | @letter letter denoted body escape _ induction =>
      have length : escapeLength ([letter] ++ (body ++ '"' :: rest)) = .ok [letter].length :=
        escapeLength_letter escape _
      have skipped := quotedLength_escape length
      rw [induction] at skipped
      exact skipped
  | @unit digits body unit denoted _ induction =>
      have length : escapeLength (('u' :: digits) ++ (body ++ '"' :: rest)) =
          .ok ('u' :: digits).length := by
        rw [List.cons_append, escapeLength, denoted.codeUnit_append, List.length_cons,
          denoted.length_eq]
        rfl
      have skipped := quotedLength_escape length
      rw [induction] at skipped
      simp only [List.cons_append, List.append_assoc] at skipped ⊢
      rw [skipped]
      simp only [Except.map, List.length_cons, List.length_append, Except.ok.injEq]
      omega

/-! ## Reading -/

theorem readQuoted_append (word rest : List Char) :
    readQuoted word.length (word ++ rest) = readQuoted 0 rest := by
  induction word with
  | nil => rfl
  | cons character word induction => rw [List.cons_append, List.length_cons, readQuoted, induction]

theorem readEscape_letter {letter denoted : Char}
    (escape : letterEscape? letter = some denoted) (rest : List Char) :
    readEscape (letter :: rest) = .ok (denoted, 1) := by
  unfold readEscape
  split
  · rename_i empty
    cases empty
  · rename_i equal
    cases equal
    cases escape
  · rename_i equal
    cases equal
    rw [escape]

theorem readEscape_unit (denoted : DenotesUnit digits unit) (notLeading : isLeading unit = false)
    (notTrailing : isTrailing unit = false) (rest : List Char) :
    readEscape ('u' :: (digits ++ rest)) = .ok (Char.ofNat unit, 5) := by
  simp [readEscape, denoted.codeUnit_append, notLeading, notTrailing, bind, Except.bind]

theorem readEscape_pair {second : List Char} {trailing : Nat} (denoted : DenotesUnit digits unit)
    (leads : isLeading unit = true) (denotedSecond : DenotesUnit second trailing)
    (trails : isTrailing trailing = true) (rest : List Char) :
    readEscape ('u' :: (digits ++ '\\' :: 'u' :: (second ++ rest))) =
      .ok (pairedChar unit trailing, 11) := by
  have notTrailing : isTrailing unit = false := by
    simp only [isLeading, isTrailing, decide_eq_true_eq, decide_eq_false_iff_not] at leads ⊢
    omega
  have dropped : (digits ++ '\\' :: 'u' :: (second ++ rest)).drop 4 =
      '\\' :: 'u' :: (second ++ rest) := List.drop_left' denoted.length_eq
  simp [readEscape, denoted.codeUnit_append, leads, notTrailing, dropped, trailingUnit,
    denotedSecond.codeUnit_append, trails, bind, Except.bind]

theorem readQuoted_escape {escape rest : List Char} {denoted : Char}
    (read : readEscape (escape ++ rest) = .ok (denoted, escape.length)) :
    readQuoted 0 ('\\' :: (escape ++ rest)) =
      (readQuoted 0 rest).map fun result => (denoted :: result.1, result.2) := by
  rw [readQuoted, if_neg (by decide), if_pos rfl, read]
  simp only [readQuoted_append]

/-- A quoted text is read as what it denotes. -/
theorem Denotes.readQuoted_append (denotes : Denotes body characters) (rest : List Char) :
    readQuoted 0 (body ++ '"' :: rest) = .ok (characters, rest) := by
  induction denotes with
  | nothing => rfl
  | plain isPlain _ induction =>
      rw [List.cons_append, readQuoted, if_neg isPlain.2.1, if_neg isPlain.2.2,
        if_neg (Nat.not_lt.mpr isPlain.1), induction]
      rfl
  | @letter letter denoted body characters escape _ induction =>
      have read : readEscape ([letter] ++ (body ++ '"' :: rest)) = .ok (denoted, [letter].length) :=
        readEscape_letter escape _
      have passed := readQuoted_escape read
      rw [induction] at passed
      exact passed
  | @unit digits body characters unit denoted notLeading notTrailing _ induction =>
      have read : readEscape (('u' :: digits) ++ (body ++ '"' :: rest)) =
          .ok (Char.ofNat unit, ('u' :: digits).length) := by
        rw [List.length_cons, denoted.length_eq]
        exact readEscape_unit denoted notLeading notTrailing _
      have passed := readQuoted_escape read
      rw [induction] at passed
      simpa [Except.map] using passed
  | @pair first second body characters leading trailing denotedFirst leads denotedSecond trails _
      induction =>
      have read : readEscape (('u' :: (first ++ '\\' :: 'u' :: second)) ++ (body ++ '"' :: rest)) =
          .ok (pairedChar leading trailing, ('u' :: (first ++ '\\' :: 'u' :: second)).length) := by
        have length : ('u' :: (first ++ '\\' :: 'u' :: second)).length = 11 := by
          simp [denotedFirst.length_eq, denotedSecond.length_eq]
        rw [length, ← readEscape_pair denotedFirst leads denotedSecond trails
          (body ++ '"' :: rest)]
        simp
      have passed := readQuoted_escape read
      rw [induction] at passed
      simpa [Except.map] using passed

/-! ## Escaping -/

theorem denotesUnit_control {number : Nat} (control : number < 0x20) :
    DenotesUnit ['0', '0', Nat.digitChar (number / 16), Nat.digitChar (number % 16)] number := by
  have digits : ∀ number : Fin 0x20,
      ['0', '0', Nat.digitChar (number / 16), Nat.digitChar (number % 16)].mapM hexDigit? =
        some [0, 0, number.val / 16, number % 16] := by
    decide
  exact ⟨0, 0, number / 16, number % 16, digits ⟨number, control⟩, by omega⟩

theorem denotes_escaped (characters : List Char) :
    Denotes (characters.flatMap escaped) characters := by
  induction characters with
  | nil => exact .nothing
  | cons character characters induction =>
      rw [List.flatMap_cons]
      unfold escaped
      split
      · exact .letter rfl induction
      · exact .letter rfl induction
      · exact .letter rfl induction
      · exact .letter rfl induction
      · exact .letter rfl induction
      · exact .letter rfl induction
      · exact .letter rfl induction
      · rename_i notQuote notBackslash _ _ _ _ _
        split
        · rename_i control
          have read : Denotes _ (Char.ofNat character.toNat :: characters) :=
            .unit (denotesUnit_control control) (by simp [isLeading]; omega)
              (by simp [isTrailing]; omega) induction
          rw [Char.ofNat_toNat] at read
          exact read
        · rename_i printable
          exact .plain ⟨Nat.not_lt.mp printable, notQuote, notBackslash⟩ induction

end PlanarMesh.Json

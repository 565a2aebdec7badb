import PlanarMesh.Mesh.Obj
import PlanarMesh.Proofs.Matching

/-! # Reading OBJ text

A reader of Wavefront OBJ text as the format defines it: a line is a keyword and words
with one blank between them, every line is ended, and a corner of a face is up to three
numbers between slashes. The reader keeps coordinates as the words that stand there.
-/

namespace PlanarMesh.Wavefront

structure Corner where
  vertex : Nat
  texture : Option Nat
  normal : Option Nat
deriving DecidableEq, Repr

inductive Line where
  | comment (text : List Char)
  | name (text : List Char)
  | position (coordinates : List (List Char))
  | texture (coordinates : List (List Char))
  | normal (coordinates : List (List Char))
  | face (corners : List Corner)
deriving DecidableEq, Repr

def Line.isPosition : Line → Bool
  | .position _ => true
  | _ => false

def Line.isTexture : Line → Bool
  | .texture _ => true
  | _ => false

def Line.isNormal : Line → Bool
  | .normal _ => true
  | _ => false

def readNumeral? (word : List Char) : Option Nat :=
  if word ≠ [] ∧ word.all Char.isDigit then some (Nat.ofDigitChars 10 word 0) else none

/-- Two slashes in a row leave the number of the texture coordinate out. -/
def readCorner? (word : List Char) : Option Corner :=
  match word.splitOn '/' with
  | [vertex] => do some ⟨← readNumeral? vertex, none, none⟩
  | [vertex, texture] => do some ⟨← readNumeral? vertex, some (← readNumeral? texture), none⟩
  | [vertex, [], normal] => do some ⟨← readNumeral? vertex, none, some (← readNumeral? normal)⟩
  | [vertex, texture, normal] => do
      some ⟨← readNumeral? vertex, some (← readNumeral? texture), some (← readNumeral? normal)⟩
  | _ => none

def readWords? : List (List Char) → Option Line
  | ['#'] :: words => some (.comment ([' '].intercalate words))
  | ['o'] :: words => some (.name ([' '].intercalate words))
  | ['v'] :: words => some (.position words)
  | ['v', 't'] :: words => some (.texture words)
  | ['v', 'n'] :: words => some (.normal words)
  | ['f'] :: words => (words.mapM readCorner?).map .face
  | _ => none

def readLine? (line : List Char) : Option Line :=
  readWords? (line.splitOn ' ')

def readLines? (text : List Char) : Option (List Line) :=
  let lines := text.splitOn '\n'
  if lines.getLast? = some [] then lines.dropLast.mapM readLine? else none

/-! ## Lines -/

theorem splitOn_flatMap_ended {lines : List (List Char)} (whole : ∀ line ∈ lines, '\n' ∉ line) :
    (lines.flatMap (· ++ ['\n'])).splitOn '\n' = lines ++ [[]] := by
  induction lines with
  | nil => rfl
  | cons line lines induction =>
      rw [List.forall_mem_cons] at whole
      rw [List.flatMap_cons, List.append_assoc, List.singleton_append,
        List.splitOn_append_cons_self_of_not_mem whole.1, induction whole.2, List.cons_append]

theorem readLines?_flatMap_ended {lines : List (List Char)}
    (whole : ∀ line ∈ lines, '\n' ∉ line) :
    readLines? (lines.flatMap (· ++ ['\n'])) = lines.mapM readLine? := by
  rw [readLines?, splitOn_flatMap_ended whole]
  simp

/-- One line of a text, and what it says. -/
structure Means (line : List Char) (meaning : Line) : Prop where
  whole : '\n' ∉ line
  reads : readLine? line = some meaning

theorem readLines?_of_means {lines : List (List Char)} {meanings : List Line}
    (each : List.Forall₂ Means lines meanings) :
    readLines? (lines.flatMap (· ++ ['\n'])) = some meanings := by
  have whole : ∀ line ∈ lines, '\n' ∉ line := by
    intro line member
    rcases exists_of_forall₂ each member with ⟨meaning, means⟩
    exact means.whole
  rw [readLines?_flatMap_ended whole, mapM_eq_some_iff]
  exact each.imp fun _ _ means => means.reads

/-! ## Words -/

def IsWord (word : List Char) : Prop :=
  ' ' ∉ word ∧ '\n' ∉ word

instance (word : List Char) : Decidable (IsWord word) :=
  inferInstanceAs (Decidable (_ ∧ _))

theorem IsWord.append {first second : List Char} (isWord : IsWord first)
    (alsoWord : IsWord second) : IsWord (first ++ second) :=
  ⟨fun member => (List.mem_append.mp member).elim isWord.1 alsoWord.1,
    fun member => (List.mem_append.mp member).elim isWord.2 alsoWord.2⟩

theorem IsWord.slash {word : List Char} (isWord : IsWord word) : IsWord ('/' :: word) :=
  have isSlash : IsWord ['/'] := by decide
  isSlash.append isWord

section Words

variable {words : List (List Char)} (areWords : ∀ word ∈ words, IsWord word)
include areWords

theorem not_mem_intercalate : '\n' ∉ [' '].intercalate words := by
  induction words with
  | nil => simp
  | cons word words induction =>
      rw [List.forall_mem_cons] at areWords
      cases words with
      | nil => simpa using areWords.1.2
      | cons next words =>
          rw [List.intercalate_cons_cons, List.mem_append, List.mem_append]
          rintro ((inWord | inBlank) | inRest)
          · exact areWords.1.2 inWord
          · revert inBlank; decide
          · exact induction areWords.2 inRest

theorem means_words (nonempty : words ≠ []) {meaning : Line}
    (reads : readWords? words = some meaning) : Means ([' '].intercalate words) meaning where
  whole := not_mem_intercalate areWords
  reads := by
    rw [readLine?, List.splitOn_intercalate ' ' (fun word member => (areWords word member).1)
      nonempty, reads]

end Words

section Texts

variable {text : List Char} (oneLine : '\n' ∉ text)
include oneLine

theorem means_name : Means ('o' :: ' ' :: text) (.name text) where
  whole := by simpa using oneLine
  reads := by
    have split : ('o' :: ' ' :: text).splitOn ' ' = ['o'] :: text.splitOn ' ' :=
      List.splitOn_append_cons_self_of_not_mem (show ' ' ∉ ['o'] by decide) text
    simp [readLine?, split, readWords?, List.intercalate_splitOn]

theorem means_comment : Means ('#' :: ' ' :: text) (.comment text) where
  whole := by simpa using oneLine
  reads := by
    have split : ('#' :: ' ' :: text).splitOn ' ' = ['#'] :: text.splitOn ' ' :=
      List.splitOn_append_cons_self_of_not_mem (show ' ' ∉ ['#'] by decide) text
    simp [readLine?, split, readWords?, List.intercalate_splitOn]

end Texts

/-! ## Corners -/

variable (number : Nat)

theorem ne_of_mem_toDigits {number : Nat} {character : Char}
    (member : character ∈ Nat.toDigits 10 number) {other : Char}
    (isOther : other.isDigit = false) : character ≠ other := by
  rintro rfl
  rw [Nat.isDigit_of_mem_toDigits (by decide) (by decide) member] at isOther
  cases isOther

theorem not_mem_toDigits {other : Char} (isOther : other.isDigit = false) :
    other ∉ Nat.toDigits 10 number :=
  fun member => ne_of_mem_toDigits member isOther rfl

theorem readNumeral?_toDigits : readNumeral? (Nat.toDigits 10 number) = some number := by
  have digits : (Nat.toDigits 10 number).all Char.isDigit = true := by
    rw [List.all_eq_true]
    intro character member
    exact Nat.isDigit_of_mem_toDigits (by decide) (by decide) member
  rw [readNumeral?, if_pos ⟨Nat.toDigits_ne_nil, digits⟩, Nat.ofDigitChars_ten_toDigits]

theorem isWord_toDigits : IsWord (Nat.toDigits 10 number) :=
  ⟨not_mem_toDigits number (by decide), not_mem_toDigits number (by decide)⟩

theorem splitOn_corner (rest : List Char) :
    (Nat.toDigits 10 number ++ '/' :: rest).splitOn '/' =
      Nat.toDigits 10 number :: rest.splitOn '/' :=
  List.splitOn_append_cons_self_of_not_mem (not_mem_toDigits number (by decide)) rest

theorem splitOn_toDigits :
    (Nat.toDigits 10 number).splitOn '/' = [Nat.toDigits 10 number] :=
  List.splitOn_eq_singleton (not_mem_toDigits number (by decide))

theorem readCorner?_vertex :
    readCorner? (Nat.toDigits 10 number) = some ⟨number, none, none⟩ := by
  simp [readCorner?, splitOn_toDigits, readNumeral?_toDigits]

theorem readCorner?_texture (texture : Nat) :
    readCorner? (Nat.toDigits 10 number ++ '/' :: Nat.toDigits 10 texture) =
      some ⟨number, some texture, none⟩ := by
  simp [readCorner?, splitOn_corner, splitOn_toDigits, readNumeral?_toDigits]

theorem readCorner?_normal (normal : Nat) :
    readCorner? (Nat.toDigits 10 number ++ '/' :: '/' :: Nat.toDigits 10 normal) =
      some ⟨number, none, some normal⟩ := by
  have leftOut : ('/' :: Nat.toDigits 10 normal).splitOn '/' = [[], Nat.toDigits 10 normal] := by
    rw [← splitOn_toDigits normal]
    exact List.splitOn_append_cons_self_of_not_mem List.not_mem_nil _
  simp [readCorner?, splitOn_corner, leftOut, readNumeral?_toDigits]

theorem readCorner?_both (texture normal : Nat) :
    readCorner? (Nat.toDigits 10 number ++
        '/' :: (Nat.toDigits 10 texture ++ '/' :: Nat.toDigits 10 normal)) =
      some ⟨number, some texture, some normal⟩ := by
  simp [readCorner?, splitOn_corner, splitOn_toDigits, readNumeral?_toDigits]

end PlanarMesh.Wavefront

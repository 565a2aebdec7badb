import PlanarMesh.Decimal.Basic

/-! # The words of JSON

Readers take the characters that are left and give back what they read together
with the characters after it. A reader fails with the first fault from the left.
-/

namespace PlanarMesh.Json

inductive Fault where
  | ended
  | malformed
  | unfit
deriving DecidableEq, Repr

def isBlank (character : Char) : Bool :=
  character == ' ' || character == '\n' || character == '\t' || character == '\r'

def skipBlanks (input : List Char) : List Char :=
  input.dropWhile isBlank

/-! ## Names of constants -/

def readWord : List Char → List Char → Except Fault (List Char)
  | [], input => .ok input
  | _ :: _, [] => .error .ended
  | expected :: word, character :: rest =>
      if character = expected then readWord word rest else .error .malformed

/-! ## Quoted text -/

def hexDigit? (character : Char) : Option Nat :=
  if '0' ≤ character ∧ character ≤ '9' then
    some (character.toNat - '0'.toNat)
  else if 'a' ≤ character ∧ character ≤ 'f' then
    some (character.toNat - 'a'.toNat + 10)
  else if 'A' ≤ character ∧ character ≤ 'F' then
    some (character.toNat - 'A'.toNat + 10)
  else
    none

def byteCount : List Char → Nat
  | [] => 0
  | character :: rest => character.utf8Size + byteCount rest

/-- The code unit that the four hexadecimal digits at the front denote. A text
that ends within four bytes ends too early, whatever stands there. -/
def codeUnit (input : List Char) : Except Fault Nat :=
  if byteCount (input.take 4) < 4 then
    .error .ended
  else
    match (input.take 4).mapM hexDigit? with
    | some digits => .ok (digits.foldl (fun total digit => 16 * total + digit) 0)
    | none => .error .malformed

def isLeading (unit : Nat) : Bool := decide (0xD800 ≤ unit ∧ unit ≤ 0xDBFF)

def isTrailing (unit : Nat) : Bool := decide (0xDC00 ≤ unit ∧ unit ≤ 0xDFFF)

def pairedChar (leading trailing : Nat) : Char :=
  Char.ofNat (0x10000 + (leading - 0xD800) * 0x400 + (trailing - 0xDC00))

def letterEscape? : Char → Option Char
  | '"' => some '"'
  | '\\' => some '\\'
  | '/' => some '/'
  | 'b' => some '\x08'
  | 'f' => some '\x0c'
  | 'n' => some '\n'
  | 'r' => some '\r'
  | 't' => some '\t'
  | _ => none

def trailingUnit : List Char → Except Fault Nat
  | [] => .error .ended
  | ['\\'] => .error .ended
  | '\\' :: 'u' :: digits => do
      let unit ← codeUnit digits
      if isTrailing unit then .ok unit else .error .malformed
  | _ => .error .malformed

/-- The character that an escape denotes, and how many characters follow the
backslash. A code unit that is half of a pair needs its other half. -/
def readEscape : List Char → Except Fault (Char × Nat)
  | [] => .error .ended
  | 'u' :: digits => do
      let unit ← codeUnit digits
      if isTrailing unit then
        .error .malformed
      else if isLeading unit then
        let trailing ← trailingUnit (digits.drop 4)
        .ok (pairedChar unit trailing, 11)
      else
        .ok (Char.ofNat unit, 5)
  | letter :: _ =>
      match letterEscape? letter with
      | some character => .ok (character, 1)
      | none => .error .malformed

/-- Reads a text whose opening quote has been seen. The first argument counts
characters of an escape that are already understood. -/
def readQuoted : Nat → List Char → Except Fault (List Char × List Char)
  | _, [] => .error .ended
  | understood + 1, _ :: rest => readQuoted understood rest
  | 0, character :: rest =>
      if character = '"' then
        .ok ([], rest)
      else if character = '\\' then
        match readEscape rest with
        | .error fault => .error fault
        | .ok (denoted, length) =>
            (readQuoted length rest).map fun result => (denoted :: result.1, result.2)
      else if character.toNat < 0x20 then
        .error .malformed
      else
        (readQuoted 0 rest).map fun result => (character :: result.1, result.2)

/-! ## Numbers -/

def isDigit (character : Char) : Bool :=
  decide ('0' ≤ character ∧ character ≤ '9')

def digitsValue (digits : List Char) : Nat :=
  digits.foldl (fun total digit => 10 * total + (digit.toNat - '0'.toNat)) 0

def readDigits : List Char → Except Fault (List Char × List Char)
  | [] => .error .ended
  | first :: rest =>
      if isDigit first then
        .ok ((first :: rest).takeWhile isDigit, (first :: rest).dropWhile isDigit)
      else
        .error .malformed

def readWhole (input : List Char) : Except Fault (List Char × List Char) := do
  let (digits, rest) ← readDigits input
  match digits with
  | '0' :: _ :: _ => .error .malformed
  | _ => .ok (digits, rest)

def readFraction : List Char → Except Fault (List Char × List Char)
  | '.' :: rest => readDigits rest
  | input => .ok ([], input)

def readExponent : List Char → Except Fault (Int × List Char)
  | mark :: rest =>
      if mark = 'e' ∨ mark = 'E' then
        let (negative, digits) : Bool × List Char :=
          match rest with
          | '-' :: digits => (true, digits)
          | '+' :: digits => (false, digits)
          | digits => (false, digits)
        match readDigits digits with
        | .error fault => .error fault
        | .ok (digits, rest) =>
            let size : Int := digitsValue digits
            .ok (if negative then -size else size, rest)
      else
        .ok (0, mark :: rest)
  | [] => .ok (0, [])

def readDecimal (input : List Char) : Except Fault (Decimal × List Char) := do
  let (negative, unsigned) : Bool × List Char :=
    match input with
    | '-' :: rest => (true, rest)
    | _ => (false, input)
  let (whole, rest) ← readWhole unsigned
  let (fraction, rest) ← readFraction rest
  let (exponent, rest) ← readExponent rest
  let significand := digitsValue (whole ++ fraction)
  .ok (Decimal.ofParts negative significand (exponent - fraction.length), rest)

/-- The float for the number at the front. A number beyond the range of floats is no
number. -/
def readNumber (toFloat : Decimal → Float) (input : List Char) :
    Except Fault (Float × List Char) := do
  let (decimal, rest) ← readDecimal input
  let value := toFloat decimal
  if value.isInf then .error .malformed else .ok (value, rest)

end PlanarMesh.Json

import PlanarMesh.Decimal.Basic

/-! # Shortest decimals

`Decimal.shortest` finds, for a finite float, the decimal with the fewest digits
that reads back as that float, and among those the nearest one.

On the grid of decimals with a given number of digits only the two neighbours of
the float matter: if any point of the grid reads back, one of them does. Each
number of digits is tried in turn, the nearer neighbour first and of two equally
near ones the even one. Seventeen digits always suffice.
-/

namespace PlanarMesh.Decimal

structure Fraction where
  numerator : Nat
  denominator : Nat

/-- The leading bit of a normal float, which is not stored. -/
def hiddenBit : Nat := 0x10000000000000

def binaryParts (value : Float) : Nat × Int :=
  let bits := value.toBits.toNat
  let field := bits / hiddenBit % 2048
  let low := bits % hiddenBit
  if field = 0 then (low, -1074) else (low + hiddenBit, Int.ofNat field - 1075)

def exactValue (value : Float) : Fraction :=
  let parts := binaryParts value
  match parts.2 with
  | .ofNat exponent => ⟨parts.1 <<< exponent, 1⟩
  | .negSucc exponent => ⟨parts.1, 1 <<< (exponent + 1)⟩

def digitCount (number : Nat) : Nat :=
  (Nat.toDigits 10 number).length

def leadingPower (value : Fraction) : Int :=
  if value.denominator ≤ value.numerator then
    digitCount (value.numerator / value.denominator) - 1
  else
    let places := digitCount (value.denominator / value.numerator)
    if value.numerator * Nat.pow 10 (places - 1) = value.denominator then
      1 - (places : Int)
    else
      -(places : Int)

def scaled (value : Fraction) (power : Int) : Fraction :=
  match power with
  | .ofNat exponent => ⟨value.numerator, value.denominator * Nat.pow 10 exponent⟩
  | .negSucc exponent => ⟨value.numerator * Nat.pow 10 (exponent + 1), value.denominator⟩

/-- The two whole numbers around a fraction, the nearer first; of two equally
near ones the even one first. -/
def neighbours (value : Fraction) : List Nat :=
  let below := value.numerator / value.denominator
  let rest := value.numerator % value.denominator
  let belowFirst := 2 * rest < value.denominator ∨
    (2 * rest = value.denominator ∧ below % 2 = 0)
  if belowFirst then [below, below + 1] else [below + 1, below]

def isNegative (value : Float) : Bool :=
  decide (0x8000000000000000 ≤ value.toBits)

def candidates (value : Float) (digits : Nat) : List Decimal :=
  let exact := exactValue value
  let unit := leadingPower exact - digits + 1
  (neighbours (scaled exact unit)).map fun significand =>
    ofParts (isNegative value) significand unit

def readsBack (value : Float) (decimal : Decimal) : Bool :=
  decimal.toFloat.toBits == value.toBits

def exactDecimal (value : Float) : Decimal :=
  let parts := binaryParts value
  match parts.2 with
  | .ofNat exponent => ofParts (isNegative value) (parts.1 <<< exponent) 0
  | .negSucc exponent =>
      ofParts (isNegative value) (parts.1 * Nat.pow 5 (exponent + 1)) (.negSucc exponent)

def shortest (value : Float) : Decimal :=
  if (binaryParts value).1 = 0 then
    ⟨isNegative value, 0, 0⟩
  else
    ((List.range 17).findSome? fun extra =>
      (candidates value (extra + 1)).find? (readsBack value)).getD (exactDecimal value)

end PlanarMesh.Decimal

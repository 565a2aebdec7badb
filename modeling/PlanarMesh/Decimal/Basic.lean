/-! # Decimal numbers

A decimal is `± significand · 10 ^ exponent`. `ofParts` brings it into normal form:
the significand ends in no zero, and zero has the exponent zero. So two decimals
in normal form are equal as soon as they denote the same signed number.
-/

namespace PlanarMesh

structure Decimal where
  negative : Bool
  significand : Nat
  exponent : Int
deriving DecidableEq, Repr

namespace Decimal

def stripZeros (significand : Nat) (exponent : Int) : Nat × Int :=
  if zeroEnding : significand ≠ 0 ∧ significand % 10 = 0 then
    stripZeros (significand / 10) (exponent + 1)
  else
    (significand, exponent)
termination_by significand
decreasing_by omega

def ofParts (negative : Bool) (significand : Nat) (exponent : Int) : Decimal :=
  if significand = 0 then
    ⟨negative, 0, 0⟩
  else
    let stripped := stripZeros significand exponent
    ⟨negative, stripped.1, stripped.2⟩

/-- The nearest float; infinite when out of range. -/
def toFloat (decimal : Decimal) : Float :=
  let size := Float.ofScientific decimal.significand (decimal.exponent < 0)
    decimal.exponent.natAbs
  if decimal.negative then -size else size

end Decimal

end PlanarMesh

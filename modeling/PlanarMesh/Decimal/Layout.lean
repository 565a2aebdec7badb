import PlanarMesh.Decimal.Basic

/-! # Written decimals

A `Layout` says how a decimal is written: where positional notation gives way to
an exponent, and what follows a whole number.
-/

namespace PlanarMesh.Decimal

structure Layout where
  /-- The powers of ten of a first digit, lowest and highest, between which the
  number is written positionally; none when it always is. -/
  positional : Option (Int × Int)
  wholeEnding : List Char

def firstPower (decimal : Decimal) : Int :=
  decimal.exponent + ((Nat.toDigits 10 decimal.significand).length - 1 : Nat)

def positionalText (wholeEnding : List Char) (decimal : Decimal) : List Char :=
  let digits := Nat.toDigits 10 decimal.significand
  match decimal.exponent with
  | .ofNat exponent => digits ++ List.replicate exponent '0' ++ wholeEnding
  | .negSucc exponent =>
      let places := exponent + 1
      if places < digits.length then
        digits.take (digits.length - places) ++ '.' :: digits.drop (digits.length - places)
      else
        '0' :: '.' :: List.replicate (places - digits.length) '0' ++ digits

def exponentText (decimal : Decimal) : List Char :=
  let power := decimal.firstPower
  let sign := if power < 0 then '-' else '+'
  let mantissa :=
    match Nat.toDigits 10 decimal.significand with
    | first :: second :: rest => first :: '.' :: second :: rest
    | digits => digits
  mantissa ++ 'e' :: sign :: Nat.toDigits 10 power.natAbs

def Layout.isPositional (layout : Layout) (power : Int) : Bool :=
  layout.positional.all fun range => decide (range.1 ≤ power ∧ power ≤ range.2)

def render (layout : Layout) (decimal : Decimal) : List Char :=
  let size :=
    if layout.isPositional decimal.firstPower then
      positionalText layout.wholeEnding decimal
    else
      exponentText decimal
  if decimal.negative then '-' :: size else size

end PlanarMesh.Decimal

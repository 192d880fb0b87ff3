import CommonExpr.Double.Basic

/-! Doubles and decimal numbers: the double nearest to a decimal number, and the
shortest decimal number that is read back as a given double. -/

namespace CommonExpr

/-- A whole number of units, each a power of ten. -/
structure Decimal where
  coefficient : Nat
  exponent : Int
deriving DecidableEq, Repr

namespace Decimal

def digitCount (decimal : Decimal) : Nat :=
  (Nat.toDigits 10 decimal.coefficient).length

/-- How many digits stand before the point; negative if zeros follow the point first. -/
def pointPosition (decimal : Decimal) : Int :=
  decimal.exponent + decimal.digitCount

/-- A decimal number whose first digit lies far outside the range of the doubles
is rounded without being computed. -/
def toDouble (negative : Bool) (decimal : Decimal) : Double :=
  if decimal.coefficient = 0 then .zero negative
  else if 400 < decimal.pointPosition then .infinity negative
  else if decimal.pointPosition < -400 then .zero negative
  else if 0 ≤ decimal.exponent then
    Double.nearest negative (decimal.coefficient * Nat.pow 10 decimal.exponent.toNat) 1
  else Double.nearest negative decimal.coefficient (Nat.pow 10 (-decimal.exponent).toNat)

/-- The same number with no zero at the end of the coefficient. -/
def normalize (decimal : Decimal) : Decimal :=
  let zeros := ((Nat.toDigits 10 decimal.coefficient).reverse.takeWhile (· == '0')).length
  ⟨decimal.coefficient / Nat.pow 10 zeros, decimal.exponent + zeros⟩

end Decimal

namespace Double

/-- The exponent of the greatest power of ten that is at most a quotient of positive numbers. -/
def floorLog10 (numerator denominator : Nat) : Int :=
  let reaches (exponent : Int) : Bool :=
    if 0 ≤ exponent then denominator * Nat.pow 10 exponent.toNat ≤ numerator
    else denominator ≤ numerator * Nat.pow 10 (-exponent).toNat
  let guess := floorLog2 numerator denominator * 30103 / 100000
  if reaches (guess + 1) then guess + 1 else if reaches guess then guess else guess - 1

/-- Of the two decimal numbers of one grid around a magnitude, the nearer one that
is read back; of two at the same distance the one with an even coefficient. -/
def onGrid? (magnitude : Double) (numerator denominator : Nat) (exponent : Int) : Option Decimal :=
  let (whole, unit) :=
    if 0 ≤ exponent then (numerator, denominator * Nat.pow 10 exponent.toNat)
    else (numerator * Nat.pow 10 (-exponent).toNat, denominator)
  let below : Decimal := ⟨whole / unit, exponent⟩
  let above : Decimal := ⟨whole / unit + 1, exponent⟩
  let twice := 2 * (whole % unit)
  match decide (below.toDouble false = magnitude), decide (above.toDouble false = magnitude) with
  | true, true =>
    some (if twice < unit ∨ (twice = unit ∧ below.coefficient % 2 = 0) then below else above)
  | true, false => some below
  | false, true => some above
  | false, false => none

/-- The fewest digits that are read back as the magnitude of a finite double. -/
def shortest (significand : Nat) (exponent : Int) : Decimal :=
  if significand = 0 then ⟨0, 0⟩
  else
    let (numerator, denominator) :=
      if 0 ≤ exponent then (significand <<< exponent.toNat, 1) else (significand, 1 <<< (-exponent).toNat)
    let magnitude := ofParts false significand exponent
    let leading := floorLog10 numerator denominator
    let found := (List.range 17).findSome? fun (digits : Nat) =>
      onGrid? magnitude numerator denominator (leading - (digits : Int))
    (found.getD ⟨significand, exponent⟩).normalize

/-- Up to sixteen digits before the point and four zeros after it are written
out; beyond that an exponent of at least two digits follows. -/
def unsignedText (decimal : Decimal) : String :=
  let digits := Nat.toDigits 10 decimal.coefficient
  let point := decimal.pointPosition
  if decimal.coefficient = 0 then "0.0"
  else if -4 < point ∧ point ≤ 16 then
    if point ≤ 0 then "0." ++ String.ofList (List.replicate (-point).toNat '0' ++ digits)
    else if point < digits.length then
      String.ofList (digits.take point.toNat) ++ "." ++ String.ofList (digits.drop point.toNat)
    else String.ofList (digits ++ List.replicate (point.toNat - digits.length) '0') ++ ".0"
  else
    let fraction := if digits.length ≤ 1 then "" else "." ++ String.ofList (digits.drop 1)
    let exponent := point - 1
    let places := Nat.toDigits 10 exponent.natAbs
    String.ofList (digits.take 1) ++ fraction ++ (if exponent < 0 then "e-" else "e+")
      ++ String.ofList (List.replicate (2 - places.length) '0' ++ places)

/-- The text that shows a double and is read back as it. -/
def text : Double → String
  | .nan _ => "nan"
  | .infinity negative => if negative then "-inf" else "inf"
  | .finite negative significand exponent _ =>
    (if negative then "-" else "") ++ unsignedText (shortest significand exponent)

end Double
end CommonExpr

import CommonExpr.Double.Basic

/-! The operations of the doubles. Each finite result is the exact one, rounded
once; the other cases are those of signed infinities and zeros. -/

namespace CommonExpr.Double

def negate : Double → Double
  | .nan _ => .nan none
  | .infinity negative => .infinity !negative
  | .finite negative significand exponent canonical => .finite (!negative) significand exponent canonical

def absolute : Double → Double
  | .nan _ => .nan none
  | .infinity _ => .infinity false
  | .finite _ significand exponent canonical => .finite false significand exponent canonical

/-- A sum that is exactly zero is negative only if both terms are. -/
def add (left right : Double) : Double :=
  match left, right with
  | .nan _, _ | _, .nan _ => .nan none
  | .infinity first, .infinity second => if first = second then .infinity first else .nan none
  | .infinity first, _ => .infinity first
  | _, .infinity second => .infinity second
  | .finite first m e _, .finite second n f _ =>
    let signed (negative : Bool) (size : Rat) := if negative then -size else size
    let sum := signed first (magnitude m e) + signed second (magnitude n f)
    if sum = 0 then zero (first && second) else ofRat sum

def subtract (left right : Double) : Double :=
  left.add right.negate

/-- An infinity times zero is no number. -/
def multiply (left right : Double) : Double :=
  match left, right with
  | .nan _, _ | _, .nan _ => .nan none
  | .infinity first, .infinity second => .infinity (first != second)
  | .infinity first, .finite second m _ _ | .finite second m _ _, .infinity first =>
    if m = 0 then .nan none else .infinity (first != second)
  | .finite first m e _, .finite second n f _ =>
    let product := magnitude m e * magnitude n f
    nearest (first != second) product.num.natAbs product.den

/-- The divisor is not zero: the language refuses that before it divides. -/
def divide (left right : Double) : Double :=
  match left, right with
  | .nan _, _ | _, .nan _ => .nan none
  | .infinity _, .infinity _ => .nan none
  | .infinity first, _ => .infinity (first != right.isNegative)
  | _, .infinity second => zero (left.isNegative != second)
  | .finite first m e _, .finite second n f _ =>
    let quotient := magnitude m e / magnitude n f
    nearest (first != second) quotient.num.natAbs quotient.den

/-- What is left of the dividend after the divisor has been taken from it a
whole number of times, toward zero; the sign is the dividend's, also of a zero.
An infinite dividend has no remainder. -/
def remainder? (left right : Double) : Option Double :=
  match left, right with
  | .nan _, _ | _, .nan _ => some (.nan none)
  | .infinity _, _ => none
  | .finite .., .infinity _ => some left
  | .finite first m e _, .finite _ n f _ =>
    let dividend := magnitude m e
    let divisor := magnitude n f
    let rest := dividend - ((dividend / divisor).floor : Rat) * divisor
    some (nearest first rest.num.natAbs rest.den)

/-- The integer part of a finite double. -/
def truncate? : Double → Option Int
  | .finite negative significand exponent _ =>
    let size := (magnitude significand exponent).floor
    some (if negative then -size else size)
  | _ => none

def floor? (value : Double) : Option Int :=
  value.toRat?.map Rat.floor

def ceil? (value : Double) : Option Int :=
  value.toRat?.map Rat.ceil

def isZero : Double → Bool
  | .finite _ significand _ _ => significand == 0
  | _ => false

end CommonExpr.Double

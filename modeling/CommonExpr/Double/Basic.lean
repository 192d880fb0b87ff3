/-! Doubles as exact data: a sign, a significand below 2^53 and a power of two.
Every arithmetic operation is the exact rational operation followed by one
rounding to the nearest double, a tie going to the even significand. -/

namespace CommonExpr

/-- The significand has 53 bits unless the exponent is the least one, so each
magnitude has exactly one pair. -/
def Canonical (significand : Nat) (exponent : Int) : Prop :=
  significand < Nat.pow 2 53 ∧ -1074 ≤ exponent ∧ exponent ≤ 971 ∧ (Nat.pow 2 52 ≤ significand ∨ exponent = -1074)

instance (significand : Nat) (exponent : Int) : Decidable (Canonical significand exponent) :=
  inferInstanceAs (Decidable (_ ∧ _))

/-- By its mark what is not a number is known again as a key of a map. What comes in
from outside and what evaluation makes are counted apart. -/
inductive Mark where
  | given (number : Nat)
  | made (number : Nat)
deriving DecidableEq, Repr

/-- No operation on doubles gives its result a mark. -/
inductive Double where
  | nan (mark : Option Mark)
  | infinity (negative : Bool)
  | finite (negative : Bool) (significand : Nat) (exponent : Int) (canonical : Canonical significand exponent)
deriving DecidableEq

/-- The nearest natural number to a quotient, the even one of two. -/
def roundQuotient (numerator denominator : Nat) : Nat :=
  let quotient := numerator / denominator
  let twice := 2 * (numerator % denominator)
  if twice < denominator then quotient
  else if denominator < twice then quotient + 1
  else quotient + quotient % 2

/-- The exponent of the greatest power of two that is at most the quotient of
two positive numbers. -/
def floorLog2 (numerator denominator : Nat) : Int :=
  let guess : Int := (numerator.log2 : Int) - (denominator.log2 : Int)
  let reached :=
    if 0 ≤ guess then denominator <<< guess.toNat ≤ numerator else denominator ≤ numerator <<< (-guess).toNat
  if reached then guess else guess - 1

namespace Double

def zero (negative : Bool) : Double :=
  .finite negative 0 (-1074) (by decide)

instance : Inhabited Double := ⟨zero false⟩

/-- Beyond the greatest finite magnitude stands infinity. -/
def ofParts (negative : Bool) (significand : Nat) (exponent : Int) : Double :=
  if canonical : Canonical significand exponent then .finite negative significand exponent canonical
  else .infinity negative

/-- The double nearest to a quotient. Its unit is chosen so that the rounded
significand has 53 bits, or the least unit where that is not fine enough. -/
def nearest (negative : Bool) (numerator denominator : Nat) : Double :=
  if numerator = 0 then zero negative
  else
    let exponent := max (floorLog2 numerator denominator - 52) (-1074)
    let significand :=
      if 0 ≤ exponent then roundQuotient numerator (denominator <<< exponent.toNat)
      else roundQuotient (numerator <<< (-exponent).toNat) denominator
    if significand = Nat.pow 2 53 then ofParts negative (Nat.pow 2 52) (exponent + 1)
    else ofParts negative significand exponent

def ofRat (value : Rat) : Double :=
  nearest (decide (value < 0)) value.num.natAbs value.den

/-- An integer too big for a finite double has none. -/
def ofInt? (value : Int) : Option Double :=
  match nearest (decide (value < 0)) value.natAbs 1 with
  | .infinity _ => none
  | double => some double

def isNegative : Double → Bool
  | .nan _ => false
  | .infinity negative => negative
  | .finite negative _ _ _ => negative

def isFinite : Double → Bool
  | .finite .. => true
  | _ => false

/-- The magnitude that a significand stands for at an exponent. -/
def magnitude (significand : Nat) (exponent : Int) : Rat :=
  if 0 ≤ exponent then ((significand <<< exponent.toNat : Nat) : Rat)
  else mkRat significand (1 <<< (-exponent).toNat)

/-- The number that a finite double is. -/
def toRat? : Double → Option Rat
  | .finite negative significand exponent _ =>
    let size := magnitude significand exponent
    some (if negative then -size else size)
  | _ => none

end Double
end CommonExpr

import CommonExpr.Double.Basic

/-! The 64-bit interchange form: a sign bit, eleven bits of exponent and
fifty-two bits of fraction. -/

namespace CommonExpr.Double

/-- Every number that is not one is written as the quiet one. -/
def toBits : Double → Nat
  | .nan _ => 0x7ff8000000000000
  | .infinity negative => sign negative + 0x7ff0000000000000
  | .finite negative significand exponent _ =>
    if significand < Nat.pow 2 52 then sign negative + significand
    else sign negative + ((exponent + 1075).toNat <<< 52) + (significand - Nat.pow 2 52)
where
  sign (negative : Bool) : Nat := if negative then Nat.pow 2 63 else 0

def ofBits (bits : Nat) : Double :=
  let negative := bits / Nat.pow 2 63 % 2 == 1
  let exponent : Nat := bits / Nat.pow 2 52 % Nat.pow 2 11
  let fraction := bits % Nat.pow 2 52
  if exponent = 2047 then if fraction = 0 then .infinity negative else .nan none
  else if exponent = 0 then ofParts negative fraction (-1074)
  else ofParts negative (Nat.pow 2 52 + fraction) ((exponent : Int) - 1075)

end CommonExpr.Double

import CommonExpr.Double.Decimal
import CommonExpr.Number.Basic
import CommonExpr.Text.Blank
import CommonExpr.Text.Digit

/-! Numbers and their decimal text. Integers of more than 4300 digits have none, and
a text with more digits than that is not read as an integer. -/

namespace CommonExpr

def digitLimit : Nat := 4300

/-- The decimal text of an integer, unless it has too many digits. -/
def integerText? (value : Int) : Option String :=
  if Nat.pow 10 digitLimit ≤ value.natAbs then none
  else
    let digits := String.ofList (Nat.toDigits 10 value.natAbs)
    some (if value < 0 then "-" ++ digits else digits)

/-- The value of decimal digits, leading zeros counting towards the limit. -/
def readDigits? (digits : List Char) : Option Nat :=
  if digits.isEmpty ∨ digitLimit < digits.length then none
  else (digits.mapM Text.decimalDigit?).map (Text.ofDigits 10)

/-- The text with each decimal digit of any script as one of 0 to 9 and each blank
beyond ASCII as a space. -/
def plainDigits (text : String) : List Char :=
  text.toList.map fun c =>
    if c.toNat < 127 then c
    else if Text.isBlank c then ' '
    else match Text.decimalDigit? c with
      | some digit => Char.ofNat ('0'.toNat + digit)
      | none => '?'

/-- The blanks that may surround a number: the ASCII ones without the four separators. -/
def isMargin (c : Char) : Bool :=
  c == ' ' || (9 ≤ c.toNat && c.toNat ≤ 13)

/-- Drops the underscores, each of which has to stand between two digits. -/
def ungroup (afterDigit : Bool) : List Char → Option (List Char)
  | [] => some []
  | '_' :: rest =>
    if afterDigit && rest.head?.any Char.isDigit then ungroup false rest else none
  | c :: rest => (ungroup c.isDigit rest).map (c :: ·)

def splitSign : List Char → Bool × List Char
  | '-' :: rest => (true, rest)
  | '+' :: rest => (false, rest)
  | characters => (false, characters)

/-- Reads an optional sign and digits, with single underscores between digits and
blanks around the whole. -/
def readInteger? (text : String) : Option Int := do
  let (negative, body) := splitSign (Text.strip isMargin (plainDigits text))
  let digits ← ungroup false body
  if !digits.all Char.isDigit then none
  let value ← readDigits? digits
  return if negative then -value else value

/-- An exponent mark, an optional sign and at least one digit. -/
def readExponent? : List Char → Option Int
  | mark :: rest =>
    let (negative, digits) := splitSign rest
    if (mark = 'e' ∨ mark = 'E') ∧ digits ≠ [] ∧ digits.all Char.isDigit then
      let value : Int := Text.ofDigits 10 (digits.filterMap Text.decimalDigit?)
      some (if negative then -value else value)
    else none
  | [] => some 0

/-- Digits with a point before, between or after them, then an optional exponent. -/
def readDecimal? (characters : List Char) : Option Decimal := do
  let whole := characters.takeWhile Char.isDigit
  let (fraction, rest) := match characters.dropWhile Char.isDigit with
    | '.' :: rest => (rest.takeWhile Char.isDigit, rest.dropWhile Char.isDigit)
    | rest => ([], rest)
  if whole.isEmpty && fraction.isEmpty then none
  let exponent ← readExponent? rest
  let digits := (whole ++ fraction).filterMap Text.decimalDigit?
  return ⟨Text.ofDigits 10 digits, exponent - fraction.length⟩

/-- Reads a decimal number, or the name of an infinity or of what is not a number,
in any letter case. -/
def readDouble? (text : String) : Option Double := do
  let characters ← ungroup false (Text.strip isMargin (plainDigits text))
  let (negative, body) := splitSign characters
  let name := String.ofList (body.map Char.toLower)
  if name = "inf" ∨ name = "infinity" then return .infinity negative
  if name = "nan" then return .nan none
  return (← readDecimal? body).toDouble negative

namespace Double

/-- Why a double is not rounded: the result would take more than 28 digits, or its last
place is out of the range of decimals. -/
inductive RoundingProblem where
  | precision
  | range
deriving DecidableEq, Repr

/-- The double that shows the exact value of rounding to a number of decimal places,
a half away from zero. The rounding works on the shortest decimal form. -/
def roundHalfUp (value : Double) (places : Int) : Except RoundingProblem Double :=
  match value with
  | .finite negative significand exponent _ =>
    let decimal := shortest significand exponent
    if 2000054 < places.natAbs then .error .precision
    else if places < -999999 then .error .range
    else if decimal.coefficient = 0 then .ok value
    else if 28 < decimal.pointPosition + places then .error .precision
    else
      let shift := decimal.exponent + places
      let coefficient :=
        if 0 ≤ shift then decimal.coefficient * Nat.pow 10 shift.toNat
        else
          let unit := Nat.pow 10 (min (-shift) 400).toNat
          (2 * decimal.coefficient + unit) / (2 * unit)
      .ok (Decimal.toDouble negative ⟨coefficient, -places⟩)
  | _ => .error .precision

end Double
end CommonExpr

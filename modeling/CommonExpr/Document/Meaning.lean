import CommonExpr.Document.Timestamp
import CommonExpr.Number.Text

/-! What a plain scalar means by its form: null, a bool, a number, a date with or
without a time of day, one of two marks, or else text. Underscores may stand between
digits, integers may be written in bases two, eight and sixteen, and colons separate
digits of base sixty. -/

namespace CommonExpr.Document

/-- The marks stand for a merge of mappings and for a default value. `reserved` is
what no plain scalar can be, since it starts a node of another kind. -/
inductive Meaning where
  | null
  | bool (value : Bool)
  | int
  | float
  | timestamp
  | mergeMark
  | defaultMark
  | reserved
  | text
deriving DecidableEq

def isGroupedDigit (c : Char) : Bool :=
  c.isDigit || c == '_'

/-- A digit from one to nine, then digits in groups. -/
def isWholeNumber : List Char → Bool
  | c :: rest => '1' ≤ c && c ≤ '9' && rest.all isGroupedDigit
  | [] => false

/-- One or two digits below sixty. -/
def isSixtieth : List Char → Bool
  | [unit] => unit.isDigit
  | [ten, unit] => '0' ≤ ten && ten ≤ '5' && unit.isDigit
  | _ => false

def splitAtColons (text : List Char) : List (List Char) :=
  text.splitOn ':'

def isInteger (text : List Char) : Bool :=
  match (splitSign text).2 with
  | ['0'] => true
  | '0' :: 'b' :: digits => !digits.isEmpty && digits.all fun c => c == '0' || c == '1' || c == '_'
  | '0' :: 'x' :: digits => !digits.isEmpty && digits.all fun c => c == '_' || (Text.hexDigit? c).isSome
  | '0' :: digits => digits.all fun c => c == '_' || ('0' ≤ c && c ≤ '7')
  | body =>
    match splitAtColons body with
    | first :: others => isWholeNumber first && others.all isSixtieth
    | [] => false

/-- Nothing, or an exponent with a sign. -/
def isSignedExponent : List Char → Bool
  | [] => true
  | mark :: sign :: digits =>
    (mark == 'e' || mark == 'E') && (sign == '+' || sign == '-') && !digits.isEmpty && digits.all Char.isDigit
  | _ => false

/-- Digits in groups, the first of which stands at the start. -/
def startsWithDigit (text : List Char) : Bool :=
  text.head?.any Char.isDigit

def isPointed (text : List Char) : Bool :=
  startsWithDigit text &&
    match text.dropWhile isGroupedDigit with
    | '.' :: rest => isSignedExponent (rest.dropWhile isGroupedDigit)
    | _ => false

/-- Digits of base sixty, the last of which have a point behind them. -/
def isPointedSixtieths (text : List Char) : Bool :=
  match splitAtColons (text.takeWhile (· != '.')), text.dropWhile (· != '.') with
  | first :: second :: others, '.' :: fraction =>
    startsWithDigit first && first.all isGroupedDigit && (second :: others).all isSixtieth
      && fraction.all isGroupedDigit
  | _, _ => false

def isFloat (text : List Char) : Bool :=
  let body := (splitSign text).2
  isPointed body || isPointedSixtieths body || body ∈ [".inf", ".Inf", ".INF"].map String.toList
    || text ∈ [".nan", ".NaN", ".NAN"].map String.toList
    || match text with
      | '.' :: rest => startsWithDigit rest && isSignedExponent (rest.dropWhile isGroupedDigit)
      | _ => false

/-- Four digits, two and two, with hyphens between them. -/
def isDate (text : List Char) : Bool :=
  match text.splitOn '-' with
  | [year, month, day] =>
    year.length == 4 && month.length == 2 && day.length == 2 && (year ++ month ++ day).all Char.isDigit
  | _ => false

/-- A date with a time of day. -/
def isMoment (text : List Char) : Bool :=
  (Timestamp.ofText? text).any (·.time.isSome)

/-- A word in small letters, with a capital, or in capitals. -/
def spellings (word : String) : List (List Char) :=
  let letters := word.toList
  [letters, (letters.take 1).map Char.toUpper ++ letters.drop 1, letters.map Char.toUpper]

def meansTrue (text : List Char) : Bool :=
  text ∈ ["yes", "true", "on"].flatMap spellings

def meansFalse (text : List Char) : Bool :=
  text ∈ ["no", "false", "off"].flatMap spellings

def Meaning.ofPlain (text : List Char) : Meaning :=
  if text ∈ [] :: ['~'] :: spellings "null" then .null
  else if meansTrue text then .bool true
  else if meansFalse text then .bool false
  else if isFloat text then .float
  else if isInteger text then .int
  else if isDate text || isMoment text then .timestamp
  else if text = ['<', '<'] then .mergeMark
  else if text = ['='] then .defaultMark
  else if text = ['!'] ∨ text = ['&'] ∨ text = ['*'] then .reserved
  else .text

/-- The value of digits of base sixty, the least first. -/
def ofSixtieths : List Int → Int
  | [] => 0
  | digit :: rest => digit + 60 * ofSixtieths rest

/-- The number that the digits of a base spell, if they are such digits and there is
at least one. -/
def readBase (base : Nat) (digits : List Char) : Option Int := do
  let values ← digits.mapM Text.hexDigit?
  if values.isEmpty || !values.all (· < base) then none
  return (Text.ofDigits base values : Int)

def integerValue? (text : List Char) : Option Int := do
  let (negative, body) := splitSign (text.filter (· != '_'))
  let size ← match body with
    | ['0'] => some 0
    | '0' :: 'b' :: digits => readBase 2 digits
    | '0' :: 'x' :: digits => readBase 16 digits
    | '0' :: digits => readBase 8 digits
    | _ => do
      let parts ← (splitAtColons body).mapM fun part => readInteger? (String.ofList part)
      some (ofSixtieths parts.reverse)
  return if negative then -size else size

/-- The value of digits of base sixty, the least first, of which each is weighed and
added in the arithmetic of doubles. -/
def sumOfSixtieths (weight : Nat) (sum : Double) : List Double → Double
  | [] => sum
  | digit :: rest =>
    sumOfSixtieths (60 * weight) (sum.add (digit.multiply ((Double.ofInt? weight).getD (.nan none)))) rest

def floatValue? (text : List Char) : Option Double := do
  let (negative, body) := splitSign ((text.filter (· != '_')).map Char.toLower)
  let size ← match String.ofList body with
    | ".inf" => some (.infinity false)
    | ".nan" => return .nan (some (.given 0))
    | name => do
      match splitAtColons body with
      | [_] => readDouble? name
      | parts =>
        return sumOfSixtieths 1 (.zero false) ((← parts.mapM fun part => readDouble? (String.ofList part)).reverse)
  return if negative then size.negate else size

end CommonExpr.Document

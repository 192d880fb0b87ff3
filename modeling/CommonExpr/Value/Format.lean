import CommonExpr.Failure
import CommonExpr.Number.Text
import CommonExpr.Value.Basic

/-! The text of a value, as string conversion and concatenation write it. An
integral double is written as an integer, and text inside a list or a map stands
in double quotes. -/

namespace CommonExpr

/-- Integers of too many digits have no text. -/
def integerText (value : Int) : Except Failure String :=
  match integerText? value with
  | some text => .ok text
  | none => .error (.broken .numberTooLong)

def Double.isIntegral (value : Double) : Bool :=
  match value.toRat? with
  | some exact => exact.den == 1
  | none => false

def Number.format : Number → Except Failure String
  | .int value => integerText value
  | .double value =>
    if value.isIntegral then integerText (value.truncate?.getD 0) else .ok value.text

namespace Value

def structName : MapKind → String
  | .struct (some name) => name
  | _ => ""

def enclose (left right : String) (shown : List String) : String :=
  left ++ ", ".intercalate shown ++ right

mutual

/-- The text of a value that stands alone, or inside another value. -/
def render (inside : Bool) : Value → Except Failure String
  | .null => .ok "null"
  | .bool value => .ok (if value then "true" else "false")
  | .number value => value.format
  | .text _ content => .ok (if inside then "\"" ++ content ++ "\"" else content)
  | .list elements => do return enclose "[" "]" (← renderElements elements)
  | .map kind entries => do return structName kind ++ enclose "\x7b" "\x7d" (← renderEntries entries)
  | .date content => .ok content

def renderElements : List Value → Except Failure (List String)
  | [] => .ok []
  | value :: rest => do
    let first ← render true value
    return first :: (← renderElements rest)

def renderEntries : List (Value × Value) → Except Failure (List String)
  | [] => .ok []
  | (key, value) :: rest => do
    let first ← render true key
    let second ← render true value
    return (first ++ ": " ++ second) :: (← renderEntries rest)

end

def format (value : Value) : Except Failure String :=
  value.render false

end Value
end CommonExpr

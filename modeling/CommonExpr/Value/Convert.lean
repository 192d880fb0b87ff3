import CommonExpr.Value.Display

/-! Conversions between values, and the size of a value. -/

namespace CommonExpr.Value

def sizeOf : Value → Except Failure Nat
  | .null => .ok 0
  | .text _ content => .ok content.length
  | .list elements => .ok elements.length
  | .map _ entries => .ok entries.length
  | other => .error (.rejected (.noSize other.typeName))

/-- The failure to read a text as a number shows the text in quotes. -/
def unreadable (kind : TextKind) (content target : String) : Failure :=
  .rejected (.conversion (quotedText kind content) target)

/-- Doubles lose their fraction, toward zero. -/
def toInt : Value → Except Failure Int
  | .bool value => .ok (if value then 1 else 0)
  | .int value => .ok value
  | .double value =>
    match value.truncate? with
    | some whole => .ok whole
    | none => .error (.rejected (.conversion value.text "int"))
  | .text kind content =>
    match readInteger? (Text.trim content) with
    | some value => .ok value
    | none => .error (unreadable kind content "int")
  | other => .error (.rejected (.conversion other.typeName "int"))

def toUnsigned (value : Value) : Except Failure Int := do
  let result ← value.toInt
  if result < 0 then throw (.rejected (.negativeUnsigned (← value.format)))
  return result

def toDouble : Value → Except Failure Double
  | .number value =>
    match value.toDouble? with
    | some result => .ok result
    | none => .error (.broken .overflow)
  | .text kind content =>
    match readDouble? (Text.trim content) with
    | some value => .ok value
    | none => .error (unreadable kind content "double")
  | other => .error (.rejected (.conversion other.typeName "double"))

/-- Zero, null and what is empty count as false, everything else as true. -/
def toBool : Value → Bool
  | .null => false
  | .bool value => value
  | .number value => !value.isZero
  | .text _ content => !content.isEmpty
  | .list elements => !elements.isEmpty
  | .map _ entries => !entries.isEmpty
  | .date _ => true

end CommonExpr.Value

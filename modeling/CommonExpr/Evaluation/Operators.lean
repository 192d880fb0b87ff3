import CommonExpr.Tree.Basic
import CommonExpr.Value.Format
import CommonExpr.Value.Membership
import CommonExpr.Value.Order

/-! The operators on values, selection and indexing. -/

namespace CommonExpr

/-- Counts of repetition and sizes of results stay below this. -/
def countLimit : Nat := Nat.pow 2 63

/-- The most characters or elements that a result can hold. -/
def capacity : Nat := Nat.pow 2 27

namespace Value

def fault (cause : Fault) : Except Failure α :=
  .error (.fault cause)

def isTrue : Value → Bool
  | .bool true => true
  | _ => false

/-- The result of arithmetic on doubles, which may be out of range. -/
def orOverflow (operator : ArithmeticOperator) : Option Number → Except Failure Value
  | some result => .ok (.number result)
  | none => fault (.overflow operator.symbol)

/-- Bytes are joined to bytes; text takes in the text of any other value. -/
def add (left right : Value) : Except Failure Value :=
  match left, right with
  | .bytes first, .bytes second => .ok (.bytes (first ++ second))
  | .text _ _, _ | _, .text _ _ => do
    let first ← left.format
    let second ← right.format
    return .string (first ++ second)
  | .list first, .list second => .ok (.list (first ++ second))
  | .number first, .number second => orOverflow .add (first.add? second)
  | _, _ => fault (.addition left.typeName right.typeName)

def repeatText (kind : TextKind) (content : String) (count : Nat) : Except Failure Value :=
  if countLimit ≤ count ∨ (1 < count ∧ countLimit ≤ content.length * count) then
    fault (.overflow ArithmeticOperator.multiply.symbol)
  else if content.isEmpty then .ok (.text kind content)
  else if capacity < content.length * count then .error (.broken .memory)
  else .ok (.text kind (String.join (List.replicate count content)))

def repeatList (elements : List Value) (count : Nat) : Except Failure Value :=
  if countLimit ≤ count then fault (.overflow ArithmeticOperator.multiply.symbol)
  else if elements.isEmpty then .ok (.list [])
  else if capacity < elements.length * count then .error (.broken .memory)
  else .ok (.list (List.replicate count elements).flatten)

/-- How often a text or a list is to be repeated. -/
def repetitionCount (count : Value) : Except Failure Nat := do
  match count with
  | .int (.ofNat times) => return times
  | other => fault (.repetitionCount (← other.format))

def multiply (left right : Value) : Except Failure Value :=
  match left, right with
  | .number first, .number second => orOverflow .multiply (first.multiply? second)
  | .text kind content, _ => do repeatText kind content (← repetitionCount right)
  | .list elements, _ => do repeatList elements (← repetitionCount right)
  | _, _ => fault (.multiplication left.typeName right.typeName)

/-- Both operands as numbers. -/
def numbers (operation : String) (left right : Value) : Except Failure (Number × Number) :=
  match left, right with
  | .number first, .number second => .ok (first, second)
  | _, _ => fault (.arithmeticOperands operation left.typeName right.typeName)

def subtract (left right : Value) : Except Failure Value := do
  let (first, second) ← numbers "Subtraction" left right
  orOverflow .subtract (first.subtract? second)

/-- The quotient is always a double. -/
def divide (left right : Value) : Except Failure Value := do
  let (first, second) ← numbers "Division" left right
  if second.isZero then fault .divisionByZero
  orOverflow .divide ((first.divide? second).map .double)

/-- The remainder has the sign of the dividend. -/
def modulo (left right : Value) : Except Failure Value := do
  let (first, second) ← numbers "Modulo" left right
  if second.isZero then fault .moduloByZero
  match first, second with
  | .int dividend, .int divisor => return .int (dividend.tmod divisor)
  | _, _ =>
    match first.toDouble?, second.toDouble? with
    | some dividend, some divisor =>
      match dividend.remainder? divisor with
      | some rest => return .double rest
      | none => .error (.broken .infiniteDividend)
    | _, _ => fault (.overflow ArithmeticOperator.modulo.symbol)

def arithmetic : ArithmeticOperator → Value → Value → Except Failure Value
  | .add => add
  | .subtract => subtract
  | .multiply => multiply
  | .divide => divide
  | .modulo => modulo

/-- Equality never fails; an order does for values that have none. -/
def relate (operator : RelationalOperator) (left right : Value) : Except Failure Bool :=
  match operator with
  | .equal => .ok (left.deepEquals right)
  | .notEqual => .ok !(left.deepEquals right)
  | .less => do return (← left.compare right) == .lt
  | .lessEqual => do return (← left.compare right) != .gt
  | .greater => do return (← left.compare right) == .gt
  | .greaterEqual => do return (← left.compare right) != .lt
  | .member => left.memberOf right

def applyUnary (operator : UnaryOperator) (operand : Value) : Except Failure Value :=
  match operator, operand with
  | .not, .bool value => .ok (.bool !value)
  | .not, other => fault (.notOperand other.typeName)
  | .negate, .number value => .ok (.number value.negate)
  | .negate, other => fault (.negationOperand other.typeName)

/-- The value of a field, or in a test whether it is there; nothing is there in null. -/
def select (target : Value) (field : String) (test : Bool) : Except Failure Value :=
  match target with
  | .null => if test then .ok (.bool false) else fault (.selectionFrom field "null")
  | .map _ entries =>
    match Entries.lookup? (.string field) entries, test with
    | found, true => .ok (.bool found.isSome)
    | some value, false => .ok value
    | none, false => fault (.fieldNotFound field)
  | other => fault (.selectionFrom field other.typeName)

/-- The whole number that an index stands for; a fraction is dropped. -/
def position (index : Value) : Except Failure Int :=
  match index with
  | .int value => .ok value
  | .double value =>
    match value.truncate? with
    | some whole => .ok whole
    | none => fault (.indexNotFinite value.text)
  | other => fault (.indexNotNumber other.typeName)

/-- The item at an index, counted from zero, of a target with the given items. -/
def itemAt (typeName : String) (items : List Value) (index : Value) : Except Failure Value := do
  let place ← position index
  let found := if 0 ≤ place then items[place.toNat]? else none
  match found with
  | some item => return item
  | none => fault (.indexOutOfBounds (← integerText place) typeName items.length)

def index (target key : Value) : Except Failure Value :=
  match target with
  | .list elements => itemAt target.typeName elements key
  | .text _ content => itemAt target.typeName (content.toList.map fun c => .string (String.ofList [c])) key
  | .map _ entries =>
    match Entries.lookup? key entries with
    | some value => .ok value
    | none => do fault (.keyNotFound (← key.format))
  | other => fault (.notIndexable other.typeName)

end Value
end CommonExpr

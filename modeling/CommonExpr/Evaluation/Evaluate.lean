import CommonExpr.Evaluation.Bindings
import CommonExpr.Evaluation.Operators

/-! Evaluation of trees. Arguments are evaluated from left to right and before the
target of a method; loops bind their variable for each element in turn and bring
back what it was bound to before, however the loop ends. -/

namespace CommonExpr

/-- What the host supplies: functions by name, and methods by name on a target. -/
structure Functions where
  callFunction : String → List Value → Except Failure Value
  callMethod : Value → String → List Value → Except Failure Value

/-- Whether exactly one element passes; the second one that does ends the search. -/
def exactlyOne (test : Value → Evaluation Bool) (found : Bool) : List Value → Evaluation Bool
  | [] => return found
  | element :: rest => do
    if ← test element then
      if found then return false else exactlyOne test true rest
    else exactlyOne test found rest

/-- A loop whose body is evaluated once for each element it looks at. An element
passes a test only if the body is true. -/
def Loop.run (loop : Loop) (each : Value → Evaluation Value) (elements : List Value) : Evaluation Value :=
  let test (element : Value) : Evaluation Bool := return (← each element).isTrue
  match loop with
  | .map => return .list (← elements.mapM each)
  | .filter => return .list (← elements.filterM test)
  | .all => return .bool (← elements.allM test)
  | .exists => return .bool (← elements.anyM test)
  | .existsOne => return .bool (← exactlyOne test false elements)

/-- The steps of a fold: where the condition is true, the accumulator is computed anew. -/
def foldSteps (name accumulator : String) (condition step : Evaluation Value) : List Value → Evaluation Unit
  | [] => return ()
  | element :: rest => do
    Evaluation.assign name element
    if (← condition).isTrue then Evaluation.assign accumulator (← step)
    foldSteps name accumulator condition step rest

namespace Expr

open Evaluation

/-- The bool that an operand of a logical operator has to be. -/
def logicalOperand (operator : LogicalOperator) (value : Value) : Evaluation Bool :=
  match value with
  | .bool answer => return answer
  | other => fault (.logicalOperand operator.symbol other.typeName)

mutual

def evaluate (functions : Functions) : Expr → Option Nat → Evaluation Value
  | .literal _ value, allowance => within allowance fun _ => return value
  | .identifier name, allowance => within allowance fun _ => do
    match ← lookup? name with
    | some value => return value
    | none => fault (.undefinedVariable name)
  | .select none field test, allowance => within allowance fun _ => do
    match ← lookup? field, test with
    | found, true => return .bool found.isSome
    | some value, false => return value
    | none, false => fault (.fieldNotFound field)
  | .select (some operand) field test, allowance => within allowance fun inner => do
    let target ← evaluate functions operand inner
    settle (target.select field test)
  | .index operand position, allowance => within allowance fun inner => do
    let target ← evaluate functions operand inner
    let key ← evaluate functions position inner
    settle (target.index key)
  | .call (some target) function arguments true, allowance => within allowance fun inner => do
    let subject ← evaluate functions target inner
    match arguments with
    | [.identifier name, body] =>
      match subject with
      | .list elements =>
        match Loop.ofName? function with
        | some loop =>
          restoring [name] (loop.run (fun element => do assign name element; evaluate functions body inner) elements)
        | none => fault (.unknownLoop function)
      | other => fault (.loopTarget function other.typeName)
    | [_, _] => fault (.loopVariable function)
    | _ => fault (.loopShape function)
  | .call (some target) function arguments false, allowance => within allowance fun inner => do
    let values ← evaluateAll functions arguments inner
    let subject ← evaluate functions target inner
    produce (functions.callMethod subject function values)
  | .call none function arguments _, allowance => within allowance fun inner => do
    let values ← evaluateAll functions arguments inner
    produce (functions.callFunction function values)
  | .list elements, allowance => within allowance fun inner => do
    return .list (← evaluateAll functions elements inner)
  | .map entries, allowance => within allowance fun inner => do
    return .map .plain (← evaluateEntries functions entries inner [])
  | .struct typeName fields, allowance => within allowance fun inner => do
    return .map (.struct typeName) (← evaluateFields functions fields inner [])
  | .comprehension name range accumulator initial condition step result, allowance =>
    within allowance fun inner => do
      match ← evaluate functions range inner with
      | .list elements =>
        restoring [name, accumulator] do
          assign accumulator (← evaluate functions initial inner)
          foldSteps name accumulator (evaluate functions condition inner) (evaluate functions step inner) elements
          evaluate functions result inner
      | other => fault (.comprehensionRange other.typeName)
  | .unary operator operand, allowance => within allowance fun inner => do
    let value ← evaluate functions operand inner
    produce (Value.applyUnary operator value)
  | .binary (.logical operator) left right, allowance => within allowance fun inner => do
    let first ← logicalOperand operator (← evaluate functions left inner)
    match operator, first with
    | .and, false => return .bool false
    | .or, true => return .bool true
    | _, _ => return .bool (← logicalOperand operator (← evaluate functions right inner))
  | .binary (.arithmetic operator) left right, allowance => within allowance fun inner => do
    let first ← evaluate functions left inner
    let second ← evaluate functions right inner
    produce (Value.arithmetic operator first second)
  | .binary (.relational operator) left right, allowance => within allowance fun inner => do
    let first ← evaluate functions left inner
    let second ← evaluate functions right inner
    return .bool (← settle (Value.relate operator first second))
  | .conditional condition whenTrue otherwise, allowance => within allowance fun inner => do
    if (← evaluate functions condition inner).isTrue then evaluate functions whenTrue inner
    else evaluate functions otherwise inner
  | .loneEntry _ _, allowance => within allowance fun _ => fault (.unknownNode "MapEntry")
  | .loneField _ _, allowance => within allowance fun _ => fault (.unknownNode "FieldInit")

def evaluateAll (functions : Functions) : List Expr → Option Nat → Evaluation (List Value)
  | [], _ => return []
  | tree :: rest, allowance => do
    let value ← evaluate functions tree allowance
    return value :: (← evaluateAll functions rest allowance)

/-- A key is evaluated and checked before its value is. -/
def evaluateEntries (functions : Functions) :
    List (Expr × Expr) → Option Nat → List (Value × Value) → Evaluation (List (Value × Value))
  | [], _, built => return built
  | (key, value) :: rest, allowance, built => do
    let name ← evaluate functions key allowance
    if !name.isScalar then fault (.keyNotScalar name.typeName)
    let content ← evaluate functions value allowance
    evaluateEntries functions rest allowance (Entries.insert name content built)

def evaluateFields (functions : Functions) :
    List (String × Expr) → Option Nat → List (Value × Value) → Evaluation (List (Value × Value))
  | [], _, built => return built
  | (field, value) :: rest, allowance, built => do
    let content ← evaluate functions value allowance
    evaluateFields functions rest allowance (Entries.insert (.string field) content built)

end

/-- How many trees may stand inside each other where evaluation is at work. -/
def nestingAllowance : Nat := 490

/-- What a tree comes to over bindings, and the bindings after that. -/
def run (tree : Expr) (functions : Functions) (bindings : Bindings) : Except Failure Value × Bindings :=
  let (outcome, scope) := (tree.evaluate functions (some nestingAllowance)).run { bindings }
  (outcome.mapError Failure.overNesting, scope.bindings)

end Expr
end CommonExpr

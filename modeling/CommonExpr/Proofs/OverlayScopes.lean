import CommonExpr.Proofs.EvaluationClosure

/-! A reference for evaluation that never changes a binding. Each body of a loop is
evaluated in an environment of its own, which lays one more binding over those around it;
a fold hands on the environment that its last step was in. All that is threaded through
is how many marks were given to results that are no numbers. -/

namespace CommonExpr.Proofs.OverlayScopes
open EvaluationClosure

/-- The bindings of the host, and what the loops around a tree lay over them. -/
inductive Environment where
  | base (bindings : Bindings)
  | overlay (name : String) (value : Value) (below : Environment)

def Environment.get? : Environment → String → Option Value
  | .base bindings, name => bindings.get? name
  | .overlay bound value below, name => if name = bound then some value else below.get? name

abbrev Reference := ExceptT Failure (StateM Nat)

namespace Reference

def fault (cause : Fault) : Reference α :=
  throw (.fault cause)

def settle (outcome : Except Failure α) : Reference α :=
  ExceptT.mk (pure outcome)

def lookup? (environment : Environment) (name : String) : Reference (Option Value) :=
  return environment.get? name

/-- A new result that is no number gets the next mark. -/
def produce (outcome : Except Failure Value) : Reference Value :=
  ExceptT.mk fun marksMade =>
    match outcome with
    | .ok (.double (.nan none)) => (.ok (.double (.nan (some (.made marksMade)))), marksMade + 1)
    | outcome => (outcome, marksMade)

def within (allowance : Option Nat) (body : Option Nat → Reference α) : Reference α :=
  match allowance with
  | none => body none
  | some 0 => fault .nestedTooDeeply
  | some (left + 1) => body (some left)

def logicalOperand (operator : LogicalOperator) (value : Value) : Reference Bool :=
  match value with
  | .bool answer => return answer
  | other => fault (.logicalOperand operator.symbol other.typeName)

def exactlyOne (test : Value → Reference Bool) (found : Bool) : List Value → Reference Bool
  | [] => return found
  | element :: rest => do
    if ← test element then
      if found then return false else exactlyOne test true rest
    else exactlyOne test found rest

def loop (loop : Loop) (each : Value → Reference Value) (elements : List Value) : Reference Value :=
  let test (element : Value) : Reference Bool := return (← each element).isTrue
  match loop with
  | .map => return .list (← elements.mapM each)
  | .filter => return .list (← elements.filterM test)
  | .all => return .bool (← elements.allM test)
  | .exists => return .bool (← elements.anyM test)
  | .existsOne => return .bool (← exactlyOne test false elements)

private theorem exactlyOneM_eq_exactlyOne (test : Value → Reference Bool) (found : Bool) (elements : List Value) :
    exactlyOneM test found elements = exactlyOne test found elements := by
  induction elements generalizing found with
  | nil => rfl
  | cons element rest ih => simp only [exactlyOneM, exactlyOne, ih]

theorem loopM_eq_loop (loop : Loop) (each : Value → Reference Value) (elements : List Value) :
    loopM loop each elements = Reference.loop loop each elements := by
  cases loop <;> simp only [loopM, Reference.loop, exactlyOneM_eq_exactlyOne]

/-- The environment behind the last step of a fold. Only a true condition lays a new
accumulator over it. -/
def fold (name accumulator : String) (condition step : Environment → Reference Value) :
    Environment → List Value → Reference Environment
  | environment, [] => return environment
  | environment, element :: rest => do
    let here := Environment.overlay name element environment
    if (← condition here).isTrue then
      let next ← step here
      fold name accumulator condition step (.overlay accumulator next here) rest
    else fold name accumulator condition step here rest

variable (functions : Functions)

mutual

def evaluate : Expr → Environment → Option Nat → Reference Value
  | .literal _ value, _, allowance => within allowance fun _ => return value
  | .identifier name, environment, allowance => within allowance fun _ => do
    match ← lookup? environment name with
    | some value => return value
    | none => fault (.undefinedVariable name)
  | .select none field test, environment, allowance => within allowance fun _ => do
    match ← lookup? environment field, test with
    | found, true => return .bool found.isSome
    | some value, false => return value
    | none, false => fault (.fieldNotFound field)
  | .select (some operand) field test, environment, allowance => within allowance fun inner => do
    let target ← evaluate operand environment inner
    settle (target.select field test)
  | .index operand position, environment, allowance => within allowance fun inner => do
    let target ← evaluate operand environment inner
    let key ← evaluate position environment inner
    settle (target.index key)
  | .call (some target) function arguments true, environment, allowance => within allowance fun inner => do
    let subject ← evaluate target environment inner
    match arguments with
    | [.identifier name, body] =>
      match subject with
      | .list elements =>
        match Loop.ofName? function with
        | some kind => loop kind (fun element => evaluate body (.overlay name element environment) inner) elements
        | none => fault (.unknownLoop function)
      | other => fault (.loopTarget function other.typeName)
    | [_, _] => fault (.loopVariable function)
    | _ => fault (.loopShape function)
  | .call (some target) function arguments false, environment, allowance => within allowance fun inner => do
    let values ← evaluateAll arguments environment inner
    let subject ← evaluate target environment inner
    produce (functions.callMethod subject function values)
  | .call none function arguments _, environment, allowance => within allowance fun inner => do
    let values ← evaluateAll arguments environment inner
    produce (functions.callFunction function values)
  | .list elements, environment, allowance => within allowance fun inner => do
    return .list (← evaluateAll elements environment inner)
  | .map entries, environment, allowance => within allowance fun inner => do
    return .map .plain (← evaluateEntries entries environment inner [])
  | .struct typeName fields, environment, allowance => within allowance fun inner => do
    return .map (.struct typeName) (← evaluateFields fields environment inner [])
  | .comprehension name range accumulator initial condition step result, environment, allowance =>
    within allowance fun inner => do
      match ← evaluate range environment inner with
      | .list elements =>
        let start ← evaluate initial environment inner
        let last ← fold name accumulator (fun here => evaluate condition here inner)
          (fun here => evaluate step here inner) (.overlay accumulator start environment) elements
        evaluate result last inner
      | other => fault (.comprehensionRange other.typeName)
  | .unary operator operand, environment, allowance => within allowance fun inner => do
    let value ← evaluate operand environment inner
    produce (Value.applyUnary operator value)
  | .binary (.logical operator) left right, environment, allowance => within allowance fun inner => do
    let first ← logicalOperand operator (← evaluate left environment inner)
    match operator, first with
    | .and, false => return .bool false
    | .or, true => return .bool true
    | _, _ => return .bool (← logicalOperand operator (← evaluate right environment inner))
  | .binary (.arithmetic operator) left right, environment, allowance => within allowance fun inner => do
    let first ← evaluate left environment inner
    let second ← evaluate right environment inner
    produce (Value.arithmetic operator first second)
  | .binary (.relational operator) left right, environment, allowance => within allowance fun inner => do
    let first ← evaluate left environment inner
    let second ← evaluate right environment inner
    return .bool (← settle (Value.relate operator first second))
  | .conditional condition whenTrue otherwise, environment, allowance => within allowance fun inner => do
    if (← evaluate condition environment inner).isTrue then evaluate whenTrue environment inner
    else evaluate otherwise environment inner
  | .loneEntry _ _, _, allowance => within allowance fun _ => fault (.unknownNode "MapEntry")
  | .loneField _ _, _, allowance => within allowance fun _ => fault (.unknownNode "FieldInit")

def evaluateAll : List Expr → Environment → Option Nat → Reference (List Value)
  | [], _, _ => return []
  | tree :: rest, environment, allowance => do
    let value ← evaluate tree environment allowance
    return value :: (← evaluateAll rest environment allowance)

def evaluateEntries :
    List (Expr × Expr) → Environment → Option Nat → List (Value × Value) → Reference (List (Value × Value))
  | [], _, _, built => return built
  | (key, value) :: rest, environment, allowance, built => do
    let name ← evaluate key environment allowance
    if !name.isScalar then fault (.keyNotScalar name.typeName)
    let content ← evaluate value environment allowance
    evaluateEntries rest environment allowance (Entries.insert name content built)

def evaluateFields :
    List (String × Expr) → Environment → Option Nat → List (Value × Value) → Reference (List (Value × Value))
  | [], _, _, built => return built
  | (field, value) :: rest, environment, allowance, built => do
    let content ← evaluate value environment allowance
    evaluateFields rest environment allowance (Entries.insert (.string field) content built)

end

/-- What a tree comes to over the bindings of the host. -/
def answer (tree : Expr) (bindings : Bindings) : Except Failure Value :=
  ((evaluate functions tree (.base bindings) (some Expr.nestingAllowance)).run 0).1.mapError Failure.overNesting

end Reference
end CommonExpr.Proofs.OverlayScopes

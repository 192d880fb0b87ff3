import CommonExpr.Failure
import CommonExpr.Value.Basic

/-! Definitions of functions: how they are called, what they compute, and what their
documentation says. -/

namespace CommonExpr

inductive Category where
  | string
  | math
  | collection
  | conversion
  | custom
deriving DecidableEq, Repr

def Category.name : Category → String
  | .string => "string"
  | .math => "math"
  | .collection => "collection"
  | .conversion => "conversion"
  | .custom => "custom"

def Category.ofName? : String → Option Category
  | "string" => some .string
  | "math" => some .math
  | "collection" => some .collection
  | "conversion" => some .conversion
  | "custom" => some .custom
  | _ => none

/-- A variadic parameter takes any number of arguments, also none. -/
structure Parameter where
  name : String
  type : String
  description : String
  required : Bool := true
  variadic : Bool := false
deriving DecidableEq, Repr

/-- The parameters of a method leave out its target, which the implementation takes
as its first argument. -/
structure Definition where
  name : String
  description : String
  category : Category
  parameters : List Parameter
  returnType : String
  implementation : List Value → Except Failure Value
  method : Bool := false
  examples : List String := []

namespace Definition

/-- A definition of a host's function, which takes any number of arguments. -/
def ofHost (name description : String) (category : Category) (method : Bool)
    (implementation : List Value → Except Failure Value) : Definition where
  name := name
  description := description
  category := category
  parameters :=
    [{ name := "args", type := "any", description := "Arguments", required := false, variadic := true }]
  returnType := "any"
  implementation := implementation
  method := method

def minArguments (definition : Definition) : Nat :=
  definition.parameters.countP fun parameter => parameter.required && !parameter.variadic

/-- Without a bound if one of the parameters is variadic. -/
def maxArguments? (definition : Definition) : Option Nat :=
  if definition.parameters.any (·.variadic) then none else some definition.parameters.length

def signature (definition : Definition) : String :=
  let shown := definition.parameters.map fun parameter =>
    if parameter.variadic then parameter.name ++ "..." else parameter.name
  let target := if definition.method then "<target>." else ""
  target ++ definition.name ++ "(" ++ ", ".intercalate shown ++ ")"

def accepts (definition : Definition) (count : Nat) : Bool :=
  definition.minArguments ≤ count && definition.maxArguments?.all (count ≤ ·)

/-- How many arguments are expected, in words. -/
def expectedCount (definition : Definition) : String :=
  match definition.maxArguments? with
  | none => s!"at least {definition.minArguments}"
  | some most =>
    if most = definition.minArguments then toString most else s!"{definition.minArguments} to {most}"

/-- A breakdown in the implementation is laid to the arguments, unless they cannot
have caused it. -/
def blame (definition : Definition) : Failure → Failure
  | .broken cause =>
    if cause.blamesArguments then .rejected (.broken definition.signature cause) else .broken cause
  | failure => failure

/-- Calls the implementation if the count of arguments fits. -/
def invoke (definition : Definition) (arguments : List Value) (count : Nat) : Except Failure Value :=
  if definition.accepts count then (definition.implementation arguments).mapError definition.blame
  else .error (.rejected (.arity definition.signature definition.expectedCount count))

end Definition
end CommonExpr

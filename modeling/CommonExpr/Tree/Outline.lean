import CommonExpr.Tree.Basic

/-! Trees as plain data: records of named members, lists, and scalars. -/

namespace CommonExpr

inductive Outline where
  | null
  | bool (value : Bool)
  | int (value : Int)
  | double (value : Double)
  | text (content : String)
  | list (items : List Outline)
  | record (members : List (String × Outline))

namespace Value

mutual

/-- Bytes become text, a map or a struct a list of key and value pairs, and a date
its text. -/
def outline : Value → Outline
  | .null => .null
  | .bool value => .bool value
  | .int value => .int value
  | .double value => .double value
  | .text _ content => .text content
  | .list elements => .list (outlines elements)
  | .map _ entries => .list (entryOutlines entries)
  | .date content => .text content

def outlines : List Value → List Outline
  | [] => []
  | value :: rest => value.outline :: outlines rest

def entryOutlines : List (Value × Value) → List Outline
  | [] => []
  | (key, value) :: rest => .list [key.outline, value.outline] :: entryOutlines rest

end

end Value

namespace Expr

def node (name : String) (members : List (String × Outline)) : Outline :=
  .record (("node", .text name) :: members)

def optionalText : Option String → Outline
  | some content => .text content
  | none => .null

mutual

/-- Each tree is a record of the name of its kind and its parts. -/
def outline : Expr → Outline
  | .literal kind value => node "Literal" [("value", value.outline), ("kind", .text kind.name)]
  | .identifier name => node "Identifier" [("name", .text name)]
  | .select operand field test =>
    node "Select" [("operand", optionalOutline operand), ("field", .text field), ("test", .bool test)]
  | .index operand position => node "Index" [("operand", operand.outline), ("index", position.outline)]
  | .call target function arguments loop =>
    node "Call" [("target", optionalOutline target), ("function", .text function),
      ("args", .list (outlines arguments)), ("macro", .bool loop)]
  | .list elements => node "ListLiteral" [("elements", .list (outlines elements))]
  | .map entries => node "MapLiteral" [("entries", .list (entryOutlines entries))]
  | .struct typeName fields =>
    node "StructLiteral" [("type_name", optionalText typeName), ("fields", .list (fieldOutlines fields))]
  | .comprehension name range accumulator initial condition step result =>
    node "Comprehension" [("variable", .text name), ("range", range.outline),
      ("accumulator", .text accumulator), ("initializer", initial.outline),
      ("condition", condition.outline), ("step", step.outline), ("result", result.outline)]
  | .unary operator operand =>
    node "UnaryOp" [("operator", .text operator.symbol), ("operand", operand.outline)]
  | .binary operator left right =>
    node "BinaryOp" [("operator", .text operator.symbol), ("left", left.outline), ("right", right.outline)]
  | .conditional condition whenTrue otherwise =>
    node "Conditional" [("condition", condition.outline), ("then", whenTrue.outline),
      ("otherwise", otherwise.outline)]
  | .loneEntry key value => node "MapEntry" [("key", key.outline), ("value", value.outline)]
  | .loneField field value => node "FieldInit" [("field", .text field), ("value", value.outline)]

def optionalOutline : Option Expr → Outline
  | some tree => tree.outline
  | none => .null

def outlines : List Expr → List Outline
  | [] => []
  | tree :: rest => tree.outline :: outlines rest

def entryOutlines : List (Expr × Expr) → List Outline
  | [] => []
  | (key, value) :: rest =>
    node "MapEntry" [("key", key.outline), ("value", value.outline)] :: entryOutlines rest

def fieldOutlines : List (String × Expr) → List Outline
  | [] => []
  | (field, value) :: rest =>
    node "FieldInit" [("field", .text field), ("value", value.outline)] :: fieldOutlines rest

end

end Expr
end CommonExpr

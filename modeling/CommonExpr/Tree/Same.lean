import CommonExpr.Tree.Basic
import CommonExpr.Value.Equality

/-! Structural equality of trees. Literals are the same if they were written in the
same form and have equal values. -/

namespace CommonExpr.Expr

mutual

def same : Expr → Expr → Bool
  | .literal kind value, .literal otherKind other => kind == otherKind && value.deepEquals other
  | .identifier name, .identifier other => name == other
  | .select operand field test, .select other otherField otherTest =>
    sameOptional operand other && field == otherField && test == otherTest
  | .index operand position, .index other otherPosition => same operand other && same position otherPosition
  | .call target function arguments loop, .call other otherFunction others otherLoop =>
    sameOptional target other && function == otherFunction && sameList arguments others && loop == otherLoop
  | .list elements, .list others => sameList elements others
  | .map entries, .map others => sameEntries entries others
  | .struct typeName fields, .struct otherName others => typeName == otherName && sameFields fields others
  | .comprehension name range accumulator initial condition step result,
    .comprehension name' range' accumulator' initial' condition' step' result' =>
    name == name' && same range range' && accumulator == accumulator' && same initial initial'
      && same condition condition' && same step step' && same result result'
  | .unary operator operand, .unary otherOperator other => operator == otherOperator && same operand other
  | .binary operator left right, .binary otherOperator otherLeft otherRight =>
    operator == otherOperator && same left otherLeft && same right otherRight
  | .conditional condition whenTrue otherwise, .conditional condition' whenTrue' otherwise' =>
    same condition condition' && same whenTrue whenTrue' && same otherwise otherwise'
  | .loneEntry key value, .loneEntry otherKey other => same key otherKey && same value other
  | .loneField field value, .loneField otherField other => field == otherField && same value other
  | _, _ => false

def sameOptional : Option Expr → Option Expr → Bool
  | none, none => true
  | some tree, some other => same tree other
  | _, _ => false

def sameList : List Expr → List Expr → Bool
  | [], [] => true
  | tree :: rest, other :: others => same tree other && sameList rest others
  | _, _ => false

def sameEntries : List (Expr × Expr) → List (Expr × Expr) → Bool
  | [], [] => true
  | (key, value) :: rest, (otherKey, other) :: others =>
    same key otherKey && same value other && sameEntries rest others
  | _, _ => false

def sameFields : List (String × Expr) → List (String × Expr) → Bool
  | [], [] => true
  | (field, value) :: rest, (otherField, other) :: others =>
    field == otherField && same value other && sameFields rest others
  | _, _ => false

end

end CommonExpr.Expr

import CommonExpr.Value.Basic

/-! Syntax trees of expressions. -/

namespace CommonExpr

/-- The form in which a literal was written. -/
inductive LiteralKind where
  | null
  | bool
  | int
  | uint
  | double
  | string
  | bytes
deriving DecidableEq, Repr

def LiteralKind.name : LiteralKind → String
  | .null => "null"
  | .bool => "bool"
  | .int => "int"
  | .uint => "uint"
  | .double => "double"
  | .string => "string"
  | .bytes => "bytes"

inductive UnaryOperator where
  | not
  | negate
deriving DecidableEq, Repr

def UnaryOperator.symbol : UnaryOperator → String
  | .not => "!"
  | .negate => "-"

inductive ArithmeticOperator where
  | add
  | subtract
  | multiply
  | divide
  | modulo
deriving DecidableEq, Repr

def ArithmeticOperator.symbol : ArithmeticOperator → String
  | .add => "+"
  | .subtract => "-"
  | .multiply => "*"
  | .divide => "/"
  | .modulo => "%"

inductive RelationalOperator where
  | equal
  | notEqual
  | less
  | lessEqual
  | greater
  | greaterEqual
  | member
deriving DecidableEq, Repr

def RelationalOperator.symbol : RelationalOperator → String
  | .equal => "=="
  | .notEqual => "!="
  | .less => "<"
  | .lessEqual => "<="
  | .greater => ">"
  | .greaterEqual => ">="
  | .member => "in"

inductive LogicalOperator where
  | and
  | or
deriving DecidableEq, Repr

def LogicalOperator.symbol : LogicalOperator → String
  | .and => "&&"
  | .or => "||"

inductive BinaryOperator where
  | arithmetic (operator : ArithmeticOperator)
  | relational (operator : RelationalOperator)
  | logical (operator : LogicalOperator)
deriving DecidableEq, Repr

def BinaryOperator.symbol : BinaryOperator → String
  | .arithmetic operator => operator.symbol
  | .relational operator => operator.symbol
  | .logical operator => operator.symbol

/-- A selection without an operand reads the bindings themselves, and a test asks for
presence only. A call marked as a loop keeps its arguments unevaluated. A map entry
or a field outside a map or a struct is a tree, but has no meaning. -/
inductive Expr where
  | literal (kind : LiteralKind) (value : Value)
  | identifier (name : String)
  | select (operand : Option Expr) (field : String) (test : Bool)
  | index (operand position : Expr)
  | call (target : Option Expr) (function : String) (arguments : List Expr) (loop : Bool)
  | list (elements : List Expr)
  | map (entries : List (Expr × Expr))
  | struct (typeName : Option String) (fields : List (String × Expr))
  | comprehension (name : String) (range : Expr) (accumulator : String)
      (initial condition step result : Expr)
  | unary (operator : UnaryOperator) (operand : Expr)
  | binary (operator : BinaryOperator) (left right : Expr)
  | conditional (condition whenTrue otherwise : Expr)
  | loneEntry (key value : Expr)
  | loneField (field : String) (value : Expr)

instance : Inhabited Expr := ⟨.identifier ""⟩

/-- The loops over a list. -/
inductive Loop where
  | map
  | filter
  | all
  | exists
  | existsOne
deriving DecidableEq, Repr

def Loop.ofName? : String → Option Loop
  | "map" => some .map
  | "filter" => some .filter
  | "all" => some .all
  | "exists" => some .exists
  | "existsOne" => some .existsOne
  | _ => none

end CommonExpr

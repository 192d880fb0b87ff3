import CommonExpr.Tree.Literal

/-! The grammar of expressions, as a relation between runs of tokens and what they
mean. It says which trees a list of tokens stands for without saying how to find them. -/

namespace CommonExpr.Proofs.Grammar

/-- The levels of operators between operands, the loosest first. -/
inductive Level where
  | disjunction
  | conjunction
  | relation
  | sum
  | product
deriving DecidableEq

/-- Which token denotes which operator of a level. -/
inductive Level.Sign : Level → TokenKind → BinaryOperator → Prop where
  | or : Sign .disjunction .or (.logical .or)
  | and : Sign .conjunction .and (.logical .and)
  | equal : Sign .relation .eq (.relational .equal)
  | notEqual : Sign .relation .ne (.relational .notEqual)
  | less : Sign .relation .lt (.relational .less)
  | lessEqual : Sign .relation .le (.relational .lessEqual)
  | greater : Sign .relation .gt (.relational .greater)
  | greaterEqual : Sign .relation .ge (.relational .greaterEqual)
  | member : Sign .relation .member (.relational .member)
  | add : Sign .sum .plus (.arithmetic .add)
  | subtract : Sign .sum .minus (.arithmetic .subtract)
  | multiply : Sign .product .star (.arithmetic .multiply)
  | divide : Sign .product .slash (.arithmetic .divide)
  | modulo : Sign .product .percent (.arithmetic .modulo)

/-- The token of an operator before its operand. -/
def mark : UnaryOperator → TokenKind
  | .not => .bang
  | .negate => .minus

/-- What stands between commas: an element of a list or an argument, a field of a
struct, or an entry of a map. -/
inductive Item where
  | element (tree : Expr)
  | field (name : String) (value : Expr)
  | entry (key value : Expr)

/-- What a run of tokens can be taken as. `items` are one or more with a comma between
them, and a `sequence` is none, or items with or without a comma behind them. -/
inductive Phrase where
  | source (tree : Expr)
  | expression (tree : Expr)
  | chain (level : Level) (tree : Expr)
  | unary (tree : Expr)
  | member (tree : Expr)
  | primary (tree : Expr)
  | typeName (parts : List String)
  | item (item : Item)
  | items (items : List Item)
  | sequence (items : List Item)

/-- The operands of a level are what the next level joins. -/
def Level.operand : Level → Expr → Phrase
  | .disjunction => .chain .conjunction
  | .conjunction => .chain .relation
  | .relation => .chain .sum
  | .sum => .chain .product
  | .product => .unary

/-- A name with a colon behind it comes first. -/
def StartsField (tokens : List Token) : Prop :=
  ∃ name colon rest, tokens = name :: colon :: rest ∧ name.kind = .identifier ∧ colon.kind = .colon

/-- The call of `has` with a selection, which asks for presence. -/
def AsksPresence (function : String) (arguments : List Expr) : Prop :=
  function = "has" ∧ ∃ operand field, arguments = [.select operand field false]

def elements (trees : List Expr) : List Item :=
  trees.map .element

def fields (members : List (String × Expr)) : List Item :=
  members.map fun (name, value) => .field name value

def entries (pairs : List (Expr × Expr)) : List Item :=
  pairs.map fun (key, value) => .entry key value

inductive Derives : List Token → Phrase → Prop where
  | source {tokens : List Token} {tree : Expr} {ending : Token}
      (whole : Derives tokens (.expression tree)) (ends : ending.kind = .endOfInput) :
      Derives (tokens ++ [ending]) (.source tree)
  | plain {tokens : List Token} {tree : Expr} (chain : Derives tokens (.chain .disjunction tree)) :
      Derives tokens (.expression tree)
  | conditional {first second third : List Token} {condition whenTrue otherwise : Expr} {question colon : Token}
      (tested : Derives first (.chain .disjunction condition)) (asks : question.kind = .question)
      (chosen : Derives second (.chain .disjunction whenTrue)) (parts : colon.kind = .colon)
      (other : Derives third (.expression otherwise)) :
      Derives (first ++ question :: (second ++ colon :: third)) (.expression (.conditional condition whenTrue otherwise))
  | operand {tokens : List Token} {tree : Expr} (level : Level) (single : Derives tokens (level.operand tree)) :
      Derives tokens (.chain level tree)
  | operation {first second : List Token} {left right : Expr} {level : Level} {sign : Token} {operator : BinaryOperator}
      (before : Derives first (.chain level left)) (joins : level.Sign sign.kind operator)
      (behind : Derives second (level.operand right)) :
      Derives (first ++ sign :: second) (.chain level (.binary operator left right))
  | signed {tokens : List Token} {tree : Expr} {sign : Token} {operator : UnaryOperator} (marks : sign.kind = mark operator)
      (operand : Derives tokens (.unary tree)) : Derives (sign :: tokens) (.unary (.unary operator tree))
  | bare {tokens : List Token} {tree : Expr} (operand : Derives tokens (.member tree)) : Derives tokens (.unary tree)
  | start {tokens : List Token} {tree : Expr} (operand : Derives tokens (.primary tree)) : Derives tokens (.member tree)
  | selection {tokens : List Token} {tree : Expr} {dot name : Token} (operand : Derives tokens (.member tree))
      (dots : dot.kind = .dot) (names : name.kind = .identifier) :
      Derives (tokens ++ [dot, name]) (.member (.select (some tree) name.text false))
  | method {tokens others : List Token} {tree : Expr} {arguments : List Expr} {dot name opening closing : Token}
      (operand : Derives tokens (.member tree)) (dots : dot.kind = .dot) (names : name.kind = .identifier)
      (opens : opening.kind = .leftParen) (given : Derives others (.sequence (elements arguments)))
      (closes : closing.kind = .rightParen) :
      Derives (tokens ++ dot :: name :: opening :: (others ++ [closing]))
        (.member (.call (some tree) name.text arguments (Loop.ofName? name.text).isSome))
  | index {tokens others : List Token} {tree position : Expr} {opening closing : Token}
      (operand : Derives tokens (.member tree)) (opens : opening.kind = .leftBracket)
      (place : Derives others (.expression position)) (closes : closing.kind = .rightBracket) :
      Derives (tokens ++ opening :: (others ++ [closing])) (.member (.index tree position))
  | literal {token : Token} {tree : Expr} (denotes : Literal.ofToken? token = some (some tree)) :
      Derives [token] (.primary tree)
  | group {tokens : List Token} {tree : Expr} {opening closing : Token} (opens : opening.kind = .leftParen)
      (inner : Derives tokens (.expression tree)) (closes : closing.kind = .rightParen) :
      Derives (opening :: (tokens ++ [closing])) (.primary tree)
  | list {tokens : List Token} {trees : List Expr} {opening closing : Token} (opens : opening.kind = .leftBracket)
      (inner : Derives tokens (.sequence (elements trees))) (closes : closing.kind = .rightBracket) :
      Derives (opening :: (tokens ++ [closing])) (.primary (.list trees))
  | leadingSelection {dot name : Token} (dots : dot.kind = .dot) (names : name.kind = .identifier) :
      Derives [dot, name] (.primary (.select none name.text false))
  | leadingCall {tokens : List Token} {arguments : List Expr} {dot name opening closing : Token}
      (dots : dot.kind = .dot) (names : name.kind = .identifier) (opens : opening.kind = .leftParen)
      (given : Derives tokens (.sequence (elements arguments))) (closes : closing.kind = .rightParen) :
      Derives (dot :: name :: opening :: (tokens ++ [closing])) (.primary (.call none name.text arguments false))
  | presence {tokens : List Token} {operand : Option Expr} {field : String} {name opening closing : Token}
      (names : name.kind = .identifier) (has : name.text = "has") (opens : opening.kind = .leftParen)
      (given : Derives tokens (.sequence (elements [.select operand field false])))
      (closes : closing.kind = .rightParen) :
      Derives (name :: opening :: (tokens ++ [closing])) (.primary (.select operand field true))
  | call {tokens : List Token} {arguments : List Expr} {name opening closing : Token}
      (names : name.kind = .identifier) (opens : opening.kind = .leftParen)
      (given : Derives tokens (.sequence (elements arguments))) (closes : closing.kind = .rightParen)
      (ordinary : ¬ AsksPresence name.text arguments) :
      Derives (name :: opening :: (tokens ++ [closing])) (.primary (.call none name.text arguments false))
  | identifier {name : Token} (names : name.kind = .identifier) : Derives [name] (.primary (.identifier name.text))
  | typed {first second : List Token} {parts : List String} {members : List (String × Expr)} {opening closing : Token}
      (type : Derives first (.typeName parts)) (opens : opening.kind = .leftBrace)
      (inner : Derives second (.sequence (fields members))) (closes : closing.kind = .rightBrace) :
      Derives (first ++ opening :: (second ++ [closing])) (.primary (.struct (some (".".intercalate parts)) members))
  | untyped {tokens : List Token} {members : List (String × Expr)} {opening closing : Token}
      (opens : opening.kind = .leftBrace) (inner : Derives tokens (.sequence (fields members)))
      (closes : closing.kind = .rightBrace) (starts : StartsField tokens) :
      Derives (opening :: (tokens ++ [closing])) (.primary (.struct none members))
  | map {tokens : List Token} {pairs : List (Expr × Expr)} {opening closing : Token}
      (opens : opening.kind = .leftBrace) (inner : Derives tokens (.sequence (entries pairs)))
      (closes : closing.kind = .rightBrace) (apart : ¬ StartsField tokens) :
      Derives (opening :: (tokens ++ [closing])) (.primary (.map pairs))
  | simpleName {name : Token} (names : name.kind = .identifier) : Derives [name] (.typeName [name.text])
  | dottedName {tokens : List Token} {parts : List String} {name dot : Token} (names : name.kind = .identifier)
      (dots : dot.kind = .dot) (rest : Derives tokens (.typeName parts)) :
      Derives (name :: dot :: tokens) (.typeName (name.text :: parts))
  | element {tokens : List Token} {tree : Expr} (inner : Derives tokens (.expression tree)) :
      Derives tokens (.item (.element tree))
  | field {tokens : List Token} {tree : Expr} {name colon : Token} (names : name.kind = .identifier)
      (parts : colon.kind = .colon) (inner : Derives tokens (.expression tree)) :
      Derives (name :: colon :: tokens) (.item (.field name.text tree))
  | entry {first second : List Token} {key value : Expr} {colon : Token} (before : Derives first (.expression key))
      (parts : colon.kind = .colon) (behind : Derives second (.expression value)) :
      Derives (first ++ colon :: second) (.item (.entry key value))
  | single {tokens : List Token} {item : Item} (only : Derives tokens (.item item)) : Derives tokens (.items [item])
  | several {first second : List Token} {item : Item} {others : List Item} {comma : Token}
      (head : Derives first (.item item)) (separates : comma.kind = .comma) (tail : Derives second (.items others)) :
      Derives (first ++ comma :: second) (.items (item :: others))
  | none : Derives [] (.sequence [])
  | some {tokens : List Token} {items : List Item} (all : Derives tokens (.items items)) :
      Derives tokens (.sequence items)
  | trailing {tokens : List Token} {items : List Item} {comma : Token} (all : Derives tokens (.items items))
      (separates : comma.kind = .comma) : Derives (tokens ++ [comma]) (.sequence items)

end CommonExpr.Proofs.Grammar

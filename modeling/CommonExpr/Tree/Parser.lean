import CommonExpr.Limits
import CommonExpr.Token.Stream
import CommonExpr.Tree.Literal
import CommonExpr.Tree.SyntaxError

/-! The grammar of expressions, by recursive descent. Operators of one level group to
the left; a conditional and the operators before an operand group to the right.
Every step into a sub-expression uses up one unit of the nesting allowance. -/

namespace CommonExpr

/-- The token at hand and the tokens behind it. The bound is above their number, so
that a loop that consumes a token each time never runs out of steps. -/
structure Reader where
  current : Token
  following : TokenStream
  bound : Nat

abbrev Parser := StateT Reader (Except ParseFailure)

namespace Parser

def failWith (failure : ParseFailure) : Parser α :=
  fun _ => .error failure

/-- An error at the token at hand. -/
def fail (cause : SyntaxCause) : Parser α :=
  fun reader => .error (.invalid ⟨cause, reader.current.location⟩)

def unexpected : Parser α := fun reader =>
  if reader.current.kind = .endOfInput then fail .unexpectedEnd reader
  else fail (.unexpected reader.current.text) reader

/-- Consumes the token at hand. The next one is scanned at once, so its failure is
reported before anything is made of the token consumed. -/
def advance : Parser Token := fun reader =>
  match reader.following.uncons with
  | .ok (token, rest) => .ok (reader.current, ⟨token, rest, reader.bound⟩)
  | .error failure => .error (.invalid failure.toSyntaxError)

def kind : Parser TokenKind :=
  return (← get).current.kind

/-- Consumes the token at hand if it has the given kind. -/
def accept (expected : TokenKind) : Parser Bool := do
  if (← kind) = expected then
    let _ ← advance
    return true
  else return false

def expect (expected : TokenKind) (expectation : Expectation) : Parser Token := do
  if (← kind) = expected then advance
  else fail (.expected expectation (← get).current.text)

def expectName (expectation : Expectation) : Parser String :=
  return (← expect .identifier expectation).text

/-- The steps that a loop is given. -/
def steps : Parser Nat :=
  return (← get).bound

/-- Operands with operators of one level between them, grouped to the left. -/
def chainFrom (operator? : TokenKind → Option BinaryOperator) (operand : Parser Expr) : Nat → Expr → Parser Expr
  | 0, left => return left
  | steps + 1, left => do
    match operator? (← kind) with
    | none => return left
    | some operator =>
      let _ ← advance
      let right ← operand
      chainFrom operator? operand steps (.binary operator left right)

def chain (operator? : TokenKind → Option BinaryOperator) (operand : Parser Expr) : Parser Expr := do
  let first ← operand
  chainFrom operator? operand (← steps) first

def multiplicative? : TokenKind → Option BinaryOperator
  | .star => some (.arithmetic .multiply)
  | .slash => some (.arithmetic .divide)
  | .percent => some (.arithmetic .modulo)
  | _ => none

def additive? : TokenKind → Option BinaryOperator
  | .plus => some (.arithmetic .add)
  | .minus => some (.arithmetic .subtract)
  | _ => none

def relational? : TokenKind → Option BinaryOperator
  | .eq => some (.relational .equal)
  | .ne => some (.relational .notEqual)
  | .lt => some (.relational .less)
  | .le => some (.relational .lessEqual)
  | .gt => some (.relational .greater)
  | .ge => some (.relational .greaterEqual)
  | .member => some (.relational .member)
  | _ => none

def conjunctive? : TokenKind → Option BinaryOperator
  | .and => some (.logical .and)
  | _ => none

def disjunctive? : TokenKind → Option BinaryOperator
  | .or => some (.logical .or)
  | _ => none

/-- The five levels of operators between operands. -/
def disjunction (operand : Parser Expr) : Parser Expr :=
  chain disjunctive? (chain conjunctive? (chain relational? (chain additive? (chain multiplicative? operand))))

/-- The items behind the first one, up to the closing token; a comma before that is allowed. -/
def itemsFrom (item : Parser α) (closing : TokenKind) : Nat → Parser (List α)
  | 0 => return []
  | steps + 1 => do
    if !(← accept .comma) then return []
    if (← kind) = closing then return []
    let first ← item
    return first :: (← itemsFrom item closing steps)

/-- Items between commas, up to the closing token, which is not consumed. -/
def items (item : Parser α) (closing : TokenKind) : Parser (List α) := do
  if (← kind) = closing then return []
  let first ← item
  return first :: (← itemsFrom item closing (← steps))

section

variable (expression : Parser Expr)

def callArguments : Parser (List Expr) := do
  let arguments ← items expression .rightParen
  let _ ← expect .rightParen .argumentsEnd
  return arguments

def listLiteral : Parser Expr := do
  let _ ← advance
  let elements ← items expression .rightBracket
  let _ ← expect .rightBracket .listEnd
  return .list elements

def structField : Parser (String × Expr) := do
  let name ← expectName .fieldName
  let _ ← expect .colon .fieldColon
  return (name, ← expression)

def mapEntry : Parser (Expr × Expr) := do
  let key ← expression
  let _ ← expect .colon .keyColon
  return (key, ← expression)

/-- Whether the token at hand is a name and the next one a colon. -/
def startsField : Parser Bool := fun reader =>
  if reader.current.kind = .identifier then
    match reader.following.uncons with
    | .ok (token, _) => .ok (token.kind = .colon, reader)
    | .error failure => .error (.invalid failure.toSyntaxError)
  else .ok (false, reader)

/-- Braces hold the fields of a struct if a type name stands before them or if the
first entry is a name and a colon; otherwise they hold the entries of a map. -/
def braces (typeName : Option String) : Parser Expr := do
  let _ ← advance
  if ← accept .rightBrace then
    return if typeName.isSome then .struct typeName [] else .map []
  let isStruct ← if typeName.isSome then pure true else startsField
  if isStruct then
    let fields ← items (structField expression) .rightBrace
    let _ ← expect .rightBrace .structEnd
    return .struct typeName fields
  else
    let entries ← items (mapEntry expression) .rightBrace
    let _ ← expect .rightBrace .mapEnd
    return .map entries

/-- Whether a stream behind a dot runs on as names between dots, up to a brace. -/
def isQualifiedStruct : TokenStream → Except LexicalError Bool
  | .failed failure => .error failure
  | .finished _ => .ok false
  | .more name rest =>
    if name.kind ≠ .identifier then .ok false
    else match rest with
      | .failed failure => .error failure
      | .finished _ => .ok false
      | .more mark behind =>
        if mark.kind = .leftBrace then .ok true
        else if mark.kind = .dot then isQualifiedStruct behind
        else .ok false

/-- Whether the token at hand is a dot that continues the name of a struct type. -/
def startsQualifiedStruct : Parser Bool := fun reader =>
  if reader.current.kind = .dot then
    match isQualifiedStruct reader.following with
    | .ok answer => .ok (answer, reader)
    | .error failure => .error (.invalid failure.toSyntaxError)
  else .ok (false, reader)

/-- The parts of a dotted name behind its first one. -/
def nameParts : Nat → Parser (List String)
  | 0 => return []
  | steps + 1 => do
    if !(← accept .dot) then return []
    let part ← expectName .typeNamePart
    return part :: (← nameParts steps)

/-- A test whether a field is there is written as a call with the selection of the
field as its one argument. -/
def presenceTest (function : String) (arguments : List Expr) : Expr :=
  match function, arguments with
  | "has", [.select operand field false] => .select operand field true
  | _, _ => .call none function arguments false

/-- What may stand behind a name that starts an operand. -/
def named (name : String) : Parser Expr := do
  if ← accept .leftParen then return presenceTest name (← callArguments expression)
  if ← startsQualifiedStruct then
    let parts ← nameParts (← steps)
    return ← braces expression (some (".".intercalate (name :: parts)))
  if (← kind) = .leftBrace then return ← braces expression (some name)
  return .identifier name

/-- A selection or a call behind a dot that starts an operand. -/
def leadingDot : Parser Expr := do
  let name ← expectName .memberName
  if ← accept .leftParen then return .call none name (← callArguments expression) false
  return .select none name false

def primary : Parser Expr := do
  let token := (← get).current
  match Literal.ofToken? token with
  | some literal =>
    let _ ← advance
    match literal with
    | some tree => return tree
    | none => failWith (.broken (.tooManyDigits (token.text.toList.takeWhile Char.isDigit).length))
  | none =>
    match token.kind with
    | .leftBracket => listLiteral expression
    | .leftBrace => braces expression none
    | .leftParen =>
      let _ ← advance
      let inner ← expression
      let _ ← expect .rightParen .groupEnd
      return inner
    | .dot =>
      let _ ← advance
      leadingDot expression
    | .identifier =>
      let _ ← advance
      named expression token.text
    | _ => unexpected

/-- Selections, method calls and indexes behind an operand. -/
def membersFrom : Nat → Expr → Parser Expr
  | 0, operand => return operand
  | steps + 1, operand => do
    if ← accept .dot then
      let name ← expectName .memberName
      if ← accept .leftParen then
        let arguments ← callArguments expression
        membersFrom steps (.call (some operand) name arguments (Loop.ofName? name).isSome)
      else membersFrom steps (.select (some operand) name false)
    else if ← accept .leftBracket then
      let position ← expression
      let _ ← expect .rightBracket .indexEnd
      membersFrom steps (.index operand position)
    else return operand

def member : Parser Expr := do
  let operand ← primary expression
  membersFrom expression (← steps) operand

/-- An operator before an operand applies to all that `deeper` reads. -/
def unary (deeper : Parser Expr) : Parser Expr := do
  match ← kind with
  | .bang =>
    let _ ← advance
    return .unary .not (← deeper)
  | .minus =>
    let _ ← advance
    return .unary .negate (← deeper)
  | _ => member expression

/-- An expression whose operands and whose sub-expressions are given. -/
def conditional (operand : Parser Expr) : Parser Expr := do
  let condition ← disjunction operand
  if ← accept .question then
    let whenTrue ← disjunction operand
    let _ ← expect .colon .conditionalColon
    let otherwise ← expression
    return .conditional condition whenTrue otherwise
  return condition

end

mutual

/-- An expression within an allowance of nesting. -/
def expression : Nat → Parser Expr
  | 0 => fail .nestedTooDeeply
  | allowance + 1 => fun reader => conditional (expression allowance) (operand allowance) reader

/-- An operand, with the operators before it, inside an expression. -/
def operand : Nat → Parser Expr
  | 0 => fun reader => unary (fail .nestedTooDeeply) (fail .nestedTooDeeply) reader
  | allowance + 1 => fun reader =>
    unary (fun inner => conditional (expression allowance) (operand allowance) inner) (operand allowance) reader

end

/-- A whole source: one expression and nothing behind it. -/
def source (allowance : Nat) : Parser Expr := do
  if (← kind) = .endOfInput then fail .empty
  let tree ← expression allowance
  if (← kind) ≠ .endOfInput then fail (.trailing (← get).current.text)
  return tree

end Parser

/-- Reads an expression under limits. The length is checked before anything else. -/
def Expr.parse (text : String) (limits : Limits) : Except ParseFailure Expr :=
  if limits.maxSourceLength < text.length then
    .error (.invalid ⟨.sourceTooLong limits.maxSourceLength, .start⟩)
  else
    match (TokenStream.ofSource text).uncons with
    | .error failure => .error (.invalid failure.toSyntaxError)
    | .ok (token, rest) =>
      match Parser.source limits.maxDepth.toNat ⟨token, rest, rest.length + 2⟩ with
      | .ok (tree, _) => .ok tree
      | .error failure => .error failure

end CommonExpr

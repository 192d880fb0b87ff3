import CommonExpr.Proofs.ParserSoundness

/-! The parser with a record of its work: which tokens it asks the lexer for, how far it
looks ahead, and which of its procedures and loops it is in. The events stay also if it fails.
But for them it is the parser as it stands. What is left to do in a loop is an activity
inside the iteration before it, as if the loop were a procedure that calls itself. -/

namespace CommonExpr.Proofs.ParserActivity
open Grammar (Level)
open ParserSoundness (table)

/-- The procedures of the parser, and the loops inside them. The loop that looks ahead for a
dotted name is told apart by how far ahead it looks. -/
inductive Activity where
  | expression | operators (level : Level) | unary | member | primary
  | arguments | elements | list | braces | field | entry | qualifiedName
  | operatorLoop (level : Level) | memberLoop | elementLoop | fieldLoop | entryLoop | nameLoop
  | lookahead (distance : Nat)
  deriving DecidableEq

inductive Event where
  /-- The lexer is asked for the next token. -/
  | next
  /-- The lexer is asked for a token that is so many places behind the one at hand. -/
  | peek (distance : Nat)
  | enter (activity : Activity)
  | leave (activity : Activity)
  /-- A loop has used up the steps that it was given. -/
  | stall
  deriving DecidableEq

/-- A part of the parser that adds to the events so far, the latest one first. -/
abbrev Recorded := StateT Reader (ExceptT ParseFailure (StateM (List Event)))

/-- The stream behind so many of its tokens; nothing follows its end. -/
def behind : Nat → TokenStream → TokenStream
  | distance + 1, .more _ rest => behind distance rest
  | _, stream => stream

namespace Recorded

def note (event : Event) : Recorded Unit := fun reader =>
  ExceptT.mk fun events => (.ok ((), reader), event :: events)

/-- A part of the parser that leaves nothing to note. -/
def silently (parser : Parser α) : Recorded α := fun reader =>
  ExceptT.mk fun events => (parser reader, events)

/-- A failure ends the parse, so nothing is noted behind it. -/
def within (activity : Activity) (body : Recorded α) : Recorded α := do
  note (.enter activity)
  let value ← body
  note (.leave activity)
  return value

def stalled (value : α) : Recorded α := do
  note .stall
  return value

def fail (cause : SyntaxCause) : Recorded α :=
  silently (Parser.fail cause)

def advance : Recorded Token := do
  note .next
  silently Parser.advance

def kind : Recorded TokenKind :=
  silently Parser.kind

def steps : Recorded Nat :=
  silently Parser.steps

/-- The kind of the token that is so many places behind the one at hand. -/
def kindAt (distance : Nat) : Parser TokenKind := fun reader =>
  match (behind (distance - 1) reader.following).uncons with
  | .ok (token, _) => .ok (token.kind, reader)
  | .error failure => .error (.invalid failure.toSyntaxError)

def peek (distance : Nat) : Recorded TokenKind := do
  note (.peek distance)
  silently (kindAt distance)

def accept (expected : TokenKind) : Recorded Bool := do
  if (← kind) = expected then
    let _ ← advance
    return true
  else return false

def expect (expected : TokenKind) (expectation : Expectation) : Recorded Token := do
  if (← kind) = expected then advance
  else fail (.expected expectation (← get).current.text)

def expectName (expectation : Expectation) : Recorded String :=
  return (← expect .identifier expectation).text

def chainFrom (level : Level) (operand : Recorded Expr) : Nat → Expr → Recorded Expr
  | 0, left => stalled left
  | steps + 1, left => within (.operatorLoop level) do
    match table level (← kind) with
    | none => return left
    | some operator =>
      let _ ← advance
      let right ← operand
      chainFrom level operand steps (.binary operator left right)

def chain (level : Level) (operand : Recorded Expr) : Recorded Expr :=
  within (.operators level) do
    let first ← operand
    chainFrom level operand (← steps) first

def disjunction (operand : Recorded Expr) : Recorded Expr :=
  chain .disjunction (chain .conjunction (chain .relation (chain .sum (chain .product operand))))

def itemsFrom (loop : Activity) (item : Recorded α) (closing : TokenKind) : Nat → Recorded (List α)
  | 0 => stalled []
  | steps + 1 => within loop do
    if !(← accept .comma) then return []
    if (← kind) = closing then return []
    let first ← item
    return first :: (← itemsFrom loop item closing steps)

def items (loop : Activity) (item : Recorded α) (closing : TokenKind) : Recorded (List α) := do
  if (← kind) = closing then return []
  let first ← item
  return first :: (← itemsFrom loop item closing (← steps))

section

variable (expression : Recorded Expr)

def elements (closing : TokenKind) : Recorded (List Expr) :=
  within .elements (items .elementLoop expression closing)

def callArguments : Recorded (List Expr) :=
  within .arguments do
    let arguments ← elements expression .rightParen
    let _ ← expect .rightParen .argumentsEnd
    return arguments

def listLiteral : Recorded Expr :=
  within .list do
    let _ ← advance
    let elements ← elements expression .rightBracket
    let _ ← expect .rightBracket .listEnd
    return .list elements

def structField : Recorded (String × Expr) :=
  within .field do
    let name ← expectName .fieldName
    let _ ← expect .colon .fieldColon
    return (name, ← expression)

def mapEntry : Recorded (Expr × Expr) :=
  within .entry do
    let key ← expression
    let _ ← expect .colon .keyColon
    return (key, ← expression)

def startsField : Recorded Bool := do
  if (← kind) = .identifier then return (← peek 1) = .colon
  else return false

def fields (typeName : Option String) : Recorded Expr := do
  let fields ← items .fieldLoop (structField expression) .rightBrace
  let _ ← expect .rightBrace .structEnd
  return .struct typeName fields

def entries : Recorded Expr := do
  let entries ← items .entryLoop (mapEntry expression) .rightBrace
  let _ ← expect .rightBrace .mapEnd
  return .map entries

def braces (typeName : Option String) : Recorded Expr :=
  within .braces do
    let _ ← advance
    if ← accept .rightBrace then
      return if typeName.isSome then .struct typeName [] else .map []
    let isStruct ← if typeName.isSome then pure true else startsField
    if isStruct then fields expression typeName else entries expression

/-- The iterations of the lookahead, from a distance on. -/
def isQualifiedStruct : Nat → Nat → Recorded Bool
  | 0, _ => stalled false
  | steps + 1, distance => within (.lookahead distance) do
    if (← peek distance) ≠ .identifier then return false
    let mark ← peek (distance + 1)
    if mark = .leftBrace then return true
    if mark ≠ .dot then return false
    isQualifiedStruct steps (distance + 2)

def startsQualifiedStruct : Recorded Bool := do
  if (← kind) = .dot then isQualifiedStruct (← steps) 1 else return false

def nameParts : Nat → Recorded (List String)
  | 0 => stalled []
  | steps + 1 => within .nameLoop do
    if !(← accept .dot) then return []
    let part ← expectName .typeNamePart
    return part :: (← nameParts steps)

def qualifiedName : Recorded (List String) :=
  within .qualifiedName do nameParts (← steps)

def named (name : String) : Recorded Expr := do
  if ← accept .leftParen then return Parser.presenceTest name (← callArguments expression)
  if ← startsQualifiedStruct then
    let parts ← qualifiedName
    return ← braces expression (some (".".intercalate (name :: parts)))
  if (← kind) = .leftBrace then return ← braces expression (some name)
  return .identifier name

def leadingDot : Recorded Expr := do
  let name ← expectName .memberName
  if ← accept .leftParen then return .call none name (← callArguments expression) false
  return .select none name false

/-- What is made of the token that an operand starts with. -/
def operandAt (token : Token) : Recorded Expr :=
  match Literal.ofToken? token with
  | some literal => do
    let _ ← advance
    match literal with
    | some tree => return tree
    | none => silently (Parser.failWith (.broken (.tooManyDigits (token.text.toList.takeWhile Char.isDigit).length)))
  | none =>
    match token.kind with
    | .leftBracket => listLiteral expression
    | .leftBrace => braces expression none
    | .leftParen => do
      let _ ← advance
      let inner ← expression
      let _ ← expect .rightParen .groupEnd
      return inner
    | .dot => do
      let _ ← advance
      leadingDot expression
    | .identifier => do
      let _ ← advance
      named expression token.text
    | _ => silently Parser.unexpected

def primary : Recorded Expr :=
  within .primary do operandAt expression (← get).current

def membersFrom : Nat → Expr → Recorded Expr
  | 0, operand => stalled operand
  | steps + 1, operand => within .memberLoop do
    if ← accept .dot then
      let name ← expectName .memberName
      if ← accept .leftParen then
        let arguments ← callArguments expression
        membersFrom steps (.call (some operand) name arguments (Loop.ofName? name).isSome)
      else membersFrom steps (.select (some operand) name false)
    else if ← accept .leftBracket then
      let position ← expression
      let _ ← expect .rightBracket .indexEnd
      membersFrom steps (.index operand position)
    else return operand

def member : Recorded Expr :=
  within .member do
    let operand ← primary expression
    membersFrom expression (← steps) operand

def unary (deeper : Recorded Expr) : Recorded Expr :=
  within .unary do
    match ← kind with
    | .bang =>
      let _ ← advance
      return .unary .not (← deeper)
    | .minus =>
      let _ ← advance
      return .unary .negate (← deeper)
    | _ => member expression

def conditional (operand : Recorded Expr) : Recorded Expr := do
  let condition ← disjunction operand
  if ← accept .question then
    let whenTrue ← disjunction operand
    let _ ← expect .colon .conditionalColon
    let otherwise ← expression
    return .conditional condition whenTrue otherwise
  return condition

end

mutual

def expression : Nat → Recorded Expr
  | 0 => within .expression (fail .nestedTooDeeply)
  | allowance + 1 => within .expression fun reader => conditional (expression allowance) (operand allowance) reader

/-- An operator before an operand takes up its nesting before the operand is entered. -/
def operand : Nat → Recorded Expr
  | 0 => unary (within .expression (fail .nestedTooDeeply)) (fail .nestedTooDeeply)
  | allowance + 1 => fun reader =>
    unary (within .expression fun inner => conditional (expression allowance) (operand allowance) inner)
      (operand allowance) reader

end

def source (allowance : Nat) : Recorded Expr := do
  if (← kind) = .endOfInput then fail .empty
  let tree ← expression allowance
  if (← kind) ≠ .endOfInput then fail (.trailing (← get).current.text)
  return tree

end Recorded

/-- Reads an expression under limits as `Expr.parse` does, with the events of that, the first
one first. -/
def record (text : String) (limits : Limits) : List Event × Except ParseFailure Expr :=
  if limits.maxSourceLength < text.length then
    ([], .error (.invalid ⟨.sourceTooLong limits.maxSourceLength, .start⟩))
  else
    match (TokenStream.ofSource text).uncons with
    | .error failure => ([.next], .error (.invalid failure.toSyntaxError))
    | .ok (token, rest) =>
      let (outcome, events) := Recorded.source limits.maxDepth.toNat ⟨token, rest, rest.length + 2⟩ [.next]
      (events.reverse, outcome.map (·.1))

end CommonExpr.Proofs.ParserActivity

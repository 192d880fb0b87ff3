import CommonExpr.Failure
import CommonExpr.Token.Lexer

/-! Errors of reading an expression: a cause and the place of the token at fault. -/

namespace CommonExpr

/-- What the grammar asked for. -/
inductive Expectation where
  | conditionalColon
  | memberName
  | indexEnd
  | groupEnd
  | typeNamePart
  | argumentsEnd
  | listEnd
  | structEnd
  | mapEnd
  | fieldName
  | fieldColon
  | keyColon
deriving DecidableEq, Repr

def Expectation.message : Expectation → String
  | .conditionalColon => "Expected ':' in conditional expression"
  | .memberName => "Expected identifier after '.'"
  | .indexEnd => "Expected ']' after index"
  | .groupEnd => "Expected ')' after expression"
  | .typeNamePart => "Expected identifier in type name"
  | .argumentsEnd => "Expected ')' after arguments"
  | .listEnd => "Expected ']' after list elements"
  | .structEnd => "Expected '\x7d' after struct fields"
  | .mapEnd => "Expected '\x7d' after map entries"
  | .fieldName => "Expected field name in struct literal"
  | .fieldColon => "Expected ':' after field name"
  | .keyColon => "Expected ':' after map key"

inductive SyntaxCause where
  | lexical (cause : LexicalCause)
  | sourceTooLong (limit : Int)
  | empty
  | trailing (text : String)
  | expected (expectation : Expectation) (found : String)
  | nestedTooDeeply
  | unexpectedEnd
  | unexpected (text : String)
deriving DecidableEq, Repr

structure SyntaxError where
  cause : SyntaxCause
  location : Location
deriving DecidableEq, Repr

def LexicalCause.message : LexicalCause → String
  | .unterminated .string => "Unterminated string"
  | .unterminated .tripleString => "Unterminated triple-quoted string"
  | .unterminated .bytes => "Unterminated bytes literal"
  | .unexpected c => s!"Unexpected character '{c}'"

/-- The end of the source is the one token without a text. -/
def SyntaxCause.message : SyntaxCause → String
  | .lexical cause => cause.message
  | .sourceTooLong limit => s!"Expression exceeds {limit} characters"
  | .empty => "Empty expression"
  | .trailing text => s!"Unexpected token '{text}' after expression"
  | .expected expectation found =>
    let shown := if found.isEmpty then "end of input" else found
    s!"{expectation.message}, found '{shown}'"
  | .nestedTooDeeply => "Expression nested too deeply"
  | .unexpectedEnd => "Unexpected end of expression"
  | .unexpected text => s!"Unexpected token '{text}'"

def SyntaxError.message (error : SyntaxError) : String :=
  s!"{error.cause.message} at line {error.location.line}, column {error.location.column}"

def LexicalError.toSyntaxError (error : LexicalError) : SyntaxError :=
  ⟨.lexical error.cause, error.location⟩

/-- Whether the source could not even be cut into tokens. -/
def SyntaxError.isLexical (error : SyntaxError) : Bool :=
  match error.cause with
  | .lexical _ => true
  | _ => false

/-- The name under which an error is reported. -/
def SyntaxError.name (error : SyntaxError) : String :=
  if error.isLexical then "LexerError" else "ParseError"

/-- Why an expression could not be read: an error in it, or a number with more
digits than can be converted. -/
inductive ParseFailure where
  | invalid (error : SyntaxError)
  | broken (cause : Breakdown)
deriving DecidableEq, Repr

end CommonExpr

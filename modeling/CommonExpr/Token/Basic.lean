/-! Tokens: a kind, the text as it was written, and the place where it starts. -/

namespace CommonExpr

inductive TokenKind where
  | null
  | truth
  | falsity
  | int
  | uint
  | double
  | string
  | bytes
  | identifier
  | plus
  | minus
  | star
  | slash
  | percent
  | eq
  | ne
  | lt
  | le
  | gt
  | ge
  | and
  | or
  | bang
  | member
  | leftParen
  | rightParen
  | leftBracket
  | rightBracket
  | leftBrace
  | rightBrace
  | dot
  | comma
  | colon
  | question
  | endOfInput
deriving DecidableEq, Repr

/-- The name under which token listings show a kind. -/
def TokenKind.name : TokenKind → String
  | .null => "NULL"
  | .truth => "TRUE"
  | .falsity => "FALSE"
  | .int => "INT"
  | .uint => "UINT"
  | .double => "DOUBLE"
  | .string => "STRING"
  | .bytes => "BYTES"
  | .identifier => "IDENTIFIER"
  | .plus => "PLUS"
  | .minus => "MINUS"
  | .star => "STAR"
  | .slash => "SLASH"
  | .percent => "PERCENT"
  | .eq => "EQ"
  | .ne => "NE"
  | .lt => "LT"
  | .le => "LE"
  | .gt => "GT"
  | .ge => "GE"
  | .and => "AND"
  | .or => "OR"
  | .bang => "BANG"
  | .member => "IN"
  | .leftParen => "LPAREN"
  | .rightParen => "RPAREN"
  | .leftBracket => "LBRACKET"
  | .rightBracket => "RBRACKET"
  | .leftBrace => "LBRACE"
  | .rightBrace => "RBRACE"
  | .dot => "DOT"
  | .comma => "COMMA"
  | .colon => "COLON"
  | .question => "QUESTION"
  | .endOfInput => "EOF"

/-- A place in a source: line and column count from one, the position from zero. -/
structure Location where
  line : Nat
  column : Nat
  position : Nat
deriving DecidableEq, Repr

namespace Location

def start : Location := ⟨1, 1, 0⟩

/-- The place behind a text. A carriage return, a line feed, and the two in a row
are one line break each. -/
def after (location : Location) : List Char → Location
  | [] => location
  | '\r' :: '\n' :: rest => after ⟨location.line + 1, 1, location.position + 2⟩ rest
  | '\r' :: rest => after ⟨location.line + 1, 1, location.position + 1⟩ rest
  | '\n' :: rest => after ⟨location.line + 1, 1, location.position + 1⟩ rest
  | _ :: rest => after ⟨location.line, location.column + 1, location.position + 1⟩ rest

end Location

structure Token where
  kind : TokenKind
  text : String
  location : Location
deriving DecidableEq, Repr

end CommonExpr

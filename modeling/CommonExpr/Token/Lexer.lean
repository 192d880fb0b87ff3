import CommonExpr.Token.Lexeme

/-! The lexer cuts a source into tokens on demand and can look ahead any distance.
Tokens that were looked at wait in a buffer until they are consumed. -/

namespace CommonExpr

inductive LexicalCause where
  | unterminated (form : Delimited)
  | unexpected (c : Char)
deriving DecidableEq, Repr

structure LexicalError where
  cause : LexicalCause
  location : Location
deriving DecidableEq, Repr

/-- What is left of a source, and where that starts. -/
structure Cursor where
  rest : List Char
  location : Location
deriving DecidableEq

namespace Cursor

def ofSource (source : String) : Cursor :=
  ⟨source.toList, .start⟩

def advance (cursor : Cursor) (count : Nat) : Cursor :=
  ⟨cursor.rest.drop count, cursor.location.after (cursor.rest.take count)⟩

def skipSpace (cursor : Cursor) : Cursor :=
  cursor.advance (cursor.rest.takeWhile Lexeme.isSpace).length

/-- The next token, and the cursor behind it. At the end of the source that is the
end token, again and again. A character that starts no token stays where it is; a
literal without an end uses up the source. -/
def scan (cursor : Cursor) : Except LexicalError Token × Cursor :=
  let start := cursor.skipSpace
  match Lexeme.read start.rest with
  | .nothing => (.ok ⟨.endOfInput, "", start.location⟩, start)
  | .token kind length =>
    (.ok ⟨kind, String.ofList (start.rest.take length), start.location⟩, start.advance length)
  | .unterminated form => (.error ⟨.unterminated form, start.location⟩, start.advance start.rest.length)
  | .unexpected c => (.error ⟨.unexpected c, start.location⟩, start)

end Cursor

structure Lexer where
  cursor : Cursor
  buffer : List Token

namespace Lexer

def ofSource (source : String) : Lexer :=
  ⟨.ofSource source, []⟩

/-- Consumes the next token. -/
def next (lexer : Lexer) : Except LexicalError Token × Lexer :=
  match lexer.buffer with
  | token :: rest => (.ok token, ⟨lexer.cursor, rest⟩)
  | [] =>
    let (outcome, cursor) := lexer.cursor.scan
    (outcome, ⟨cursor, []⟩)

/-- Scans that many more tokens into the buffer, or as many as there are before a failure. -/
def fill : Nat → Lexer → Except LexicalError Unit × Lexer
  | 0, lexer => (.ok (), lexer)
  | missing + 1, lexer =>
    match lexer.cursor.scan with
    | (.ok token, cursor) => fill missing ⟨cursor, lexer.buffer ++ [token]⟩
    | (.error failure, cursor) => (.error failure, ⟨cursor, lexer.buffer⟩)

/-- Why there is no token at distance zero. -/
def peekRefusal : String :=
  "peek count must be at least 1"

/-- The token that is the given distance ahead, counted from one; at distance zero
there is none. -/
def peek? (lexer : Lexer) (distance : Nat) : Except LexicalError (Option Token) × Lexer :=
  if distance = 0 then (.ok none, lexer)
  else
    let (outcome, filled) := fill (distance - lexer.buffer.length) lexer
    (outcome.map fun _ => filled.buffer[distance - 1]?, filled)

/-- Consumes tokens up to the end token, which comes within the given number of steps. -/
def drain : Nat → Lexer → Except LexicalError (List Token) × Lexer
  | 0, lexer => (.ok [], lexer)
  | steps + 1, lexer =>
    match lexer.next with
    | (.error failure, after) => (.error failure, after)
    | (.ok token, after) =>
      if token.kind = .endOfInput then (.ok [token], after)
      else
        let (outcome, last) := drain steps after
        (outcome.map (token :: ·), last)

/-- Every token but the end one takes a character or a place in the buffer. -/
def tokenize (lexer : Lexer) : Except LexicalError (List Token) × Lexer :=
  drain (lexer.buffer.length + lexer.cursor.rest.length + 1) lexer

end Lexer
end CommonExpr

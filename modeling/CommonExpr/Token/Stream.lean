import CommonExpr.Token.Lexer

/-! The tokens of a source as one value: they end with the end token, or where the
lexer fails. -/

namespace CommonExpr

inductive TokenStream where
  | more (token : Token) (rest : TokenStream)
  | finished (ending : Token)
  | failed (failure : LexicalError)

namespace TokenStream

/-- The stream behind a cursor whose source has fewer characters than there are steps. -/
def scanFrom : Nat → Cursor → TokenStream
  | 0, cursor => .finished ⟨.endOfInput, "", cursor.location⟩
  | steps + 1, cursor =>
    match cursor.scan with
    | (.error failure, _) => .failed failure
    | (.ok token, after) =>
      if token.kind = .endOfInput then .finished token else .more token (scanFrom steps after)

def ofSource (source : String) : TokenStream :=
  let cursor := Cursor.ofSource source
  scanFrom (cursor.rest.length + 1) cursor

/-- How many tokens come before the end. -/
def length : TokenStream → Nat
  | .more _ rest => rest.length + 1
  | .finished _ | .failed _ => 0

/-- The first token and the stream behind it; nothing follows the end token. -/
def uncons : TokenStream → Except LexicalError (Token × TokenStream)
  | .more token rest => .ok (token, rest)
  | .finished ending => .ok (ending, .finished ending)
  | .failed failure => .error failure

end TokenStream
end CommonExpr

import CommonExpr.Text.Quoted
import CommonExpr.Token.Basic

/-! How tokens are shown one by one. -/

namespace CommonExpr.Token

/-- The kind, the quoted text, and the place. -/
def display (token : Token) : String :=
  s!"Token({token.kind.name}, {Text.quoted token.text}, {token.location.line}:{token.location.column})"

/-- A line of a listing: the place, the kind, and the text as it stands. -/
def listing (token : Token) : String :=
  s!"{token.location.line}:{token.location.column}\t{token.kind.name}\t{token.text}"

end CommonExpr.Token

import CommonExpr.Pattern.Matcher
import CommonExpr.Pattern.Reader
import CommonExpr.Value.Convert

/-! Whether the match of a pattern occurs in a text. -/

namespace CommonExpr

/-- A malformed pattern is a rejected argument. A match with a group that ends before it
starts is none that could be shown. -/
def Pattern.search (kind : TextKind) (pattern text : String) : Except Failure Bool :=
  let lexemes := pattern.toList
  match compile lexemes with
  | .ok compiled =>
    match firstMatch? compiled.flags compiled.body text.toList.toArray with
    | none => .ok false
    | some reached => if reached.marks.isCrossed then .error (.broken .crossedGroup) else .ok true
  | .error (.broken cause) => .error (.broken cause)
  | .error (.malformed problem position) =>
    .error (.rejected (.badPattern (Value.quotedText kind pattern) (describe lexemes problem position)))

def Value.matchesPattern (text pattern : Value) : Except Failure Bool :=
  match text, pattern with
  | .text _ subject, .text kind written => Pattern.search kind written subject
  | _, _ => .error (.rejected .matchOperands)

end CommonExpr

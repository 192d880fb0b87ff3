import CommonExpr.Number.Text
import CommonExpr.Token.Basic
import CommonExpr.Token.Escape
import CommonExpr.Tree.Basic

/-! What the lexeme of a literal denotes. -/

namespace CommonExpr.Literal

/-- The value of hexadecimal digits, of which there has to be one. -/
def readHexadecimal? (digits : List Char) : Option Nat :=
  if digits.isEmpty then none else (digits.mapM Text.hexDigit?).map (Text.ofDigits 16)

/-- Only decimal numbers are subject to the limit on digits. -/
def integer? : List Char → Option Nat
  | '0' :: 'x' :: digits | '0' :: 'X' :: digits => readHexadecimal? digits
  | digits => readDigits? digits

def double? (lexeme : List Char) : Option Double :=
  (readDecimal? lexeme).map (·.toDouble false)

/-- What stands between the quotes, three of which open the long form. -/
def content (quotedText : List Char) : List Char :=
  match quotedText with
  | '"' :: '"' :: '"' :: rest@(_ :: _ :: _ :: _) | '\'' :: '\'' :: '\'' :: rest@(_ :: _ :: _ :: _) =>
    rest.take (rest.length - 3)
  | _ :: rest => rest.dropLast
  | [] => []

def string (lexeme : List Char) : String :=
  match lexeme with
  | 'r' :: rest | 'R' :: rest => String.ofList (content rest)
  | _ => Escape.decode (String.ofList (content lexeme))

def bytes (lexeme : List Char) : String :=
  Escape.decode (String.ofList (lexeme.drop 2).dropLast)

/-- The tree of a token that is a literal; the outer option is empty for other
tokens, the inner one for a number that is not read. Of the tokens that the lexer
makes, only integers of too many digits are not. -/
def ofToken? (token : Token) : Option (Option Expr) :=
  let lexeme := token.text.toList
  match token.kind with
  | .null => some (some (.literal .null .null))
  | .truth => some (some (.literal .bool (.bool true)))
  | .falsity => some (some (.literal .bool (.bool false)))
  | .int => some ((integer? lexeme).map fun value => .literal .int (.int value))
  | .uint => some ((integer? lexeme.dropLast).map fun value => .literal .uint (.int value))
  | .double => some ((double? lexeme).map fun value => .literal .double (.double value))
  | .string => some (some (.literal .string (.string (string lexeme))))
  | .bytes => some (some (.literal .bytes (.bytes (bytes lexeme))))
  | _ => none

end CommonExpr.Literal

import CommonExpr.Text.Digit
import CommonExpr.Token.Basic

/-! Lexemes: which characters at the head of a source make up its first token. -/

namespace CommonExpr

/-- The literals that have a closing delimiter. -/
inductive Delimited where
  | string
  | tripleString
  | bytes
deriving DecidableEq, Repr

/-- What stands at the head of a source without blanks before it. -/
inductive Lexeme where
  | nothing
  | token (kind : TokenKind) (length : Nat)
  | unterminated (form : Delimited)
  | unexpected (c : Char)
deriving DecidableEq, Repr

namespace Lexeme

/-- White space between tokens. -/
def isSpace (c : Char) : Bool :=
  c == ' ' || c == '\t' || c == '\r' || c == '\n'

def isQuote (c : Char) : Bool :=
  c == '"' || c == '\''

def isNameStart (c : Char) : Bool :=
  c.isAlpha || c == '_'

def isNamePart (c : Char) : Bool :=
  c.isAlphanum || c == '_'

/-- The kind of a word: four words are reserved, any other one is a name. -/
def wordKind (word : List Char) : TokenKind :=
  match String.ofList word with
  | "null" => .null
  | "true" => .truth
  | "false" => .falsity
  | "in" => .member
  | _ => .identifier

/-- How far the closing delimiter of a literal reaches, if there is one. Unless the
literal is raw, a backslash takes the next character with it. -/
def closingEnd? (closing : List Char) (raw : Bool) (passed : Nat) : List Char → Option Nat
  | [] => none
  | [c] => if closing.isPrefixOf [c] then some (passed + closing.length) else none
  | c :: d :: rest =>
    if closing.isPrefixOf (c :: d :: rest) then some (passed + closing.length)
    else if !raw && c == '\\' then closingEnd? closing raw (passed + 2) rest
    else closingEnd? closing raw (passed + 1) (d :: rest)

/-- A literal whose opening delimiter ends at `opened`. -/
def delimited (kind : TokenKind) (form : Delimited) (closing : List Char) (raw : Bool) (opened : Nat)
    (source : List Char) : Lexeme :=
  match closingEnd? closing raw opened (source.drop opened) with
  | some length => .token kind length
  | none => .unterminated form

/-- A string literal, whose quote stands at `start`; three quotes open the triple form. -/
def stringLiteral (raw : Bool) (start : Nat) (quote : Char) (source : List Char) : Lexeme :=
  let triple := [quote, quote, quote]
  if triple.isPrefixOf (source.drop start) then
    delimited .string .tripleString triple raw (start + 3) source
  else delimited .string .string [quote] raw (start + 1) source

def digitCount (source : List Char) : Nat :=
  (source.takeWhile Char.isDigit).length

/-- A point with at least one digit behind it. -/
def fractionLength : List Char → Nat
  | '.' :: rest => if digitCount rest = 0 then 0 else digitCount rest + 1
  | _ => 0

/-- An exponent mark, an optional sign, and at least one digit. -/
def exponentLength : List Char → Nat
  | mark :: rest =>
    let signs := match rest with
      | '+' :: _ | '-' :: _ => 1
      | _ => 0
    let digits := digitCount (rest.drop signs)
    if (mark = 'e' ∨ mark = 'E') ∧ digits ≠ 0 then 1 + signs + digits else 0
  | [] => 0

/-- A hexadecimal number is marked by a zero and an x, and has at least one digit. -/
def hexLength : List Char → Nat
  | '0' :: x :: rest =>
    let digits := (rest.takeWhile fun c => (Text.hexDigit? c).isSome).length
    if (x = 'x' ∨ x = 'X') ∧ digits ≠ 0 then 2 + digits else 0
  | _ => 0

/-- An integer may have a suffix that makes it unsigned. -/
def integerEnd (source : List Char) (length : Nat) : Lexeme :=
  match source.drop length with
  | 'u' :: _ | 'U' :: _ => .token .uint (length + 1)
  | _ => .token .int length

def number (source : List Char) : Lexeme :=
  let hex := hexLength source
  if hex ≠ 0 then integerEnd source hex
  else
    let whole := digitCount source
    let fraction := fractionLength (source.drop whole)
    let exponent := exponentLength (source.drop (whole + fraction))
    if fraction + exponent = 0 then integerEnd source whole
    else .token .double (whole + fraction + exponent)

/-- The operators and punctuation marks, the longer ones first. -/
def symbol? : List Char → Option (TokenKind × Nat)
  | '=' :: '=' :: _ => some (.eq, 2)
  | '!' :: '=' :: _ => some (.ne, 2)
  | '<' :: '=' :: _ => some (.le, 2)
  | '>' :: '=' :: _ => some (.ge, 2)
  | '&' :: '&' :: _ => some (.and, 2)
  | '|' :: '|' :: _ => some (.or, 2)
  | '<' :: _ => some (.lt, 1)
  | '>' :: _ => some (.gt, 1)
  | '!' :: _ => some (.bang, 1)
  | '+' :: _ => some (.plus, 1)
  | '-' :: _ => some (.minus, 1)
  | '*' :: _ => some (.star, 1)
  | '/' :: _ => some (.slash, 1)
  | '%' :: _ => some (.percent, 1)
  | '(' :: _ => some (.leftParen, 1)
  | ')' :: _ => some (.rightParen, 1)
  | '[' :: _ => some (.leftBracket, 1)
  | ']' :: _ => some (.rightBracket, 1)
  | '{' :: _ => some (.leftBrace, 1)
  | '}' :: _ => some (.rightBrace, 1)
  | '.' :: _ => some (.dot, 1)
  | ',' :: _ => some (.comma, 1)
  | ':' :: _ => some (.colon, 1)
  | '?' :: _ => some (.question, 1)
  | _ => none

/-- A word, unless it is one letter that marks the literal behind it. -/
def word (source : List Char) : Lexeme :=
  let name := source.takeWhile isNamePart
  .token (wordKind name) name.length

def read (source : List Char) : Lexeme :=
  match source with
  | [] => .nothing
  | c :: rest =>
    let quoted := rest.head?.filter isQuote
    match quoted, isQuote c, c == 'r' || c == 'R', c == 'b' || c == 'B' with
    | _, true, _, _ => stringLiteral false 0 c source
    | some quote, _, true, _ => stringLiteral true 1 quote source
    | some quote, _, _, true => delimited .bytes .bytes [quote] false 2 source
    | _, _, _, _ =>
      if c.isDigit then number source
      else if isNameStart c then word source
      else match symbol? source with
        | some (kind, length) => .token kind length
        | none => .unexpected c

end Lexeme
end CommonExpr

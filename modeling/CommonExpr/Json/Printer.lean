import CommonExpr.Json.Basic
import CommonExpr.Text.Quoted

/-! The text of JSON documents: one line in ASCII, with a blank behind each comma
and colon. -/

namespace CommonExpr.Json

/-- A code unit of sixteen bits in four hexadecimal digits. -/
def unitEscape (unit : Nat) : List Char :=
  '\\' :: 'u' :: Text.hexDigits 4 unit

/-- A character beyond the first 65536 is a pair of units. -/
def codeEscape (code : Nat) : List Char :=
  if code < 0x10000 then unitEscape code
  else unitEscape (0xD800 + (code - 0x10000) / 0x400) ++ unitEscape (0xDC00 + (code - 0x10000) % 0x400)

def escapeChar (c : Char) : List Char :=
  match c with
  | '"' | '\\' => ['\\', c]
  | '\n' => ['\\', 'n']
  | '\r' => ['\\', 'r']
  | '\t' => ['\\', 't']
  | '\x0c' => ['\\', 'f']
  | '\x08' => ['\\', 'b']
  | _ => if ' ' ≤ c ∧ c ≤ '~' then [c] else codeEscape c.toNat

def quote (content : String) : String :=
  String.ofList ('"' :: content.toList.flatMap escapeChar ++ ['"'])

/-- JSON has no names for what is not a finite number; these are the customary ones. -/
def doubleText : Double → String
  | .nan _ => "NaN"
  | .infinity negative => if negative then "-Infinity" else "Infinity"
  | value => value.text

mutual

def render : Json → Except Failure String
  | .null => .ok "null"
  | .bool value => .ok (if value then "true" else "false")
  | .int value => integerText value
  | .double value => .ok (doubleText value)
  | .text content => .ok (quote content)
  | .array elements => do return Value.enclose "[" "]" (← renderElements elements)
  | .object members => do return Value.enclose "\x7b" "\x7d" (← renderMembers members)

def renderElements : List Json → Except Failure (List String)
  | [] => .ok []
  | element :: rest => do
    let first ← render element
    return first :: (← renderElements rest)

def renderMembers : List (String × Json) → Except Failure (List String)
  | [] => .ok []
  | (name, content) :: rest => do
    let text ← render content
    return (quote name ++ ": " ++ text) :: (← renderMembers rest)

end

end CommonExpr.Json

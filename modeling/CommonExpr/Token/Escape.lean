import CommonExpr.Text.Digit

/-! Escapes in the content of a literal that is not raw. A backslash that starts no
escape stands for itself. Texts are sequences of Unicode scalar values here: a text with
half of a surrogate pair in it, which an escape could spell, is outside the model. -/

namespace CommonExpr.Escape

/-- The character that a one-letter escape stands for. -/
def simple? : Char → Option Char
  | '\\' => some '\\'
  | '"' => some '"'
  | '\'' => some '\''
  | '\x60' => some '\x60'
  | '?' => some '?'
  | 'a' => some '\x07'
  | 'b' => some '\x08'
  | 'f' => some '\x0c'
  | 'n' => some '\n'
  | 'r' => some '\r'
  | 't' => some '\t'
  | 'v' => some '\x0b'
  | _ => none

/-- The character with a code point, where there is one. A surrogate is a code point but no
character, so that an escape that spells one is left as it is written. -/
def character? (code : Nat) : Option Char :=
  if code.isValidChar then some (Char.ofNat code) else none

/-- The character that a number of hexadecimal digits names. -/
def hexadecimal? (width : Nat) (characters : List Char) : Option Char := do
  let digits ← (characters.take width).mapM Text.hexDigit?
  if digits.length = width then character? (Text.ofDigits 16 digits) else none

def octalDigit? (c : Char) : Option Nat :=
  if '0' ≤ c ∧ c ≤ '7' then some (c.toNat - '0'.toNat) else none

/-- What stands behind a backslash, and how many characters that takes. -/
def read? : List Char → Option (Char × Nat)
  | [] => none
  | 'x' :: rest => (hexadecimal? 2 rest).map (·, 3)
  | 'u' :: rest => (hexadecimal? 4 rest).map (·, 5)
  | 'U' :: rest => (hexadecimal? 8 rest).map (·, 9)
  | c :: rest =>
    match simple? c, c :: rest.take 2 with
    | some character, _ => some (character, 1)
    | none, [first, second, third] => do
      let digits ← [first, second, third].mapM octalDigit?
      if '3' < first then none
      return (Char.ofNat (Text.ofDigits 8 digits), 3)
    | none, _ => none

/-- The content with its escapes replaced; the first `skip` characters belong to an
escape that was already replaced. -/
def decodeFrom : Nat → List Char → List Char
  | _, [] => []
  | skip + 1, _ :: rest => decodeFrom skip rest
  | 0, '\\' :: rest =>
    match read? rest with
    | some (character, length) => character :: decodeFrom length rest
    | none => '\\' :: decodeFrom 0 rest
  | 0, c :: rest => c :: decodeFrom 0 rest

def decode (content : String) : String :=
  String.ofList (decodeFrom 0 content.toList)

end CommonExpr.Escape

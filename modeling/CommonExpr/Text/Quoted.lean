import CommonExpr.Text.Printable

/-! Text in quotes, as messages show it: every character that cannot be printed,
the backslash and the quote itself are escaped. -/

namespace CommonExpr.Text

def hexDigits (width code : Nat) : List Char :=
  let digits := Nat.toDigits 16 code
  List.replicate (width - digits.length) '0' ++ digits

/-- An escape by code point has two, four or eight digits, as few as suffice. -/
def escapeCode (code : Nat) : List Char :=
  if code < 0x100 then '\\' :: 'x' :: hexDigits 2 code
  else if code < 0x10000 then '\\' :: 'u' :: hexDigits 4 code
  else '\\' :: 'U' :: hexDigits 8 code

def quotedChar (quote c : Char) : List Char :=
  if c = quote ∨ c = '\\' then ['\\', c]
  else if c = '\t' then ['\\', 't']
  else if c = '\n' then ['\\', 'n']
  else if c = '\r' then ['\\', 'r']
  else if isPrintable c then [c]
  else escapeCode c.toNat

/-- Single quotes, or double ones around a text that holds single quotes alone. -/
def quoted (text : String) : String :=
  let characters := text.toList
  let quote := if '\'' ∈ characters ∧ '"' ∉ characters then '"' else '\''
  String.ofList (quote :: characters.flatMap (quotedChar quote) ++ [quote])

end CommonExpr.Text

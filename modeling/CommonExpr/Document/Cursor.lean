/-! Documents are data in lines and indentation, or in brackets. A cursor stands in
front of what is left of the text and knows its place. -/

namespace CommonExpr.Document

/-- What is wrong with a document: a character that may not occur, tokens, their
arrangement, references between nodes, or what a node stands for. The other kinds are
about scalars: a number or a date that is written well but denotes nothing, and what
is said to be a bool, a number or a date but is no word, has no digits, or has not the
form. -/
inductive Problem where
  | character
  | token
  | arrangement
  | reference
  | content
  | value
  | word
  | digits
  | form
deriving DecidableEq, Repr

/-- Whether a problem is one that readers of documents look out for. Scalars that do
not keep what they promise are none. -/
def Problem.isReported : Problem → Bool
  | .value | .word | .digits | .form => false
  | _ => true

def isBreak (c : Char) : Bool :=
  c == '\n' || c == '\r' || c == '\x85' || c == '\u2028' || c == '\u2029'

/-- White space or a line break. -/
def isGap (c : Char) : Bool :=
  c == ' ' || c == '\t' || isBreak c

/-- Whether a word ends here: at white space or at the end of the text. -/
def endsWord (next : Option Char) : Bool :=
  next.all isGap

structure Cursor where
  rest : List Char
  index : Nat
  line : Nat
  column : Nat

namespace Cursor

def ofText (text : String) : Cursor :=
  ⟨text.toList, 0, 0, 0⟩

def head? (cursor : Cursor) : Option Char :=
  cursor.rest.head?

/-- A carriage return before a line feed does not end the line yet. -/
def step (cursor : Cursor) : Cursor :=
  match cursor.rest with
  | [] => cursor
  | c :: rest =>
    if isBreak c && !(c == '\r' && rest.head? == some '\n') then ⟨rest, cursor.index + 1, cursor.line + 1, 0⟩
    else ⟨rest, cursor.index + 1, cursor.line, cursor.column + (if c = '\uFEFF' then 0 else 1)⟩

def advance : Nat → Cursor → Cursor
  | 0, cursor => cursor
  | count + 1, cursor => advance count cursor.step

/-- The characters of a class at the head, and the cursor behind them. -/
def span (keep : Char → Bool) (cursor : Cursor) : List Char × Cursor :=
  let taken := cursor.rest.takeWhile keep
  (taken, cursor.advance taken.length)

def skip (drop : Char → Bool) (cursor : Cursor) : Cursor :=
  (cursor.span drop).2

/-- The character that a line break at the head counts as, and the cursor behind it.
The line and paragraph separators count as themselves. -/
def lineBreak? (cursor : Cursor) : Option (Char × Cursor) :=
  match cursor.rest with
  | '\r' :: '\n' :: _ => some ('\n', cursor.advance 2)
  | c :: _ =>
    if c = '\u2028' ∨ c = '\u2029' then some (c, cursor.step)
    else if isBreak c then some ('\n', cursor.step)
    else none
  | [] => none

/-- Whether the word at the head is a mark between documents. -/
def startsWithMark (mark : Char) (cursor : Cursor) : Bool :=
  match cursor.rest with
  | a :: b :: c :: rest => a == mark && b == mark && c == mark && endsWord rest.head?
  | _ => false

def atBoundary (cursor : Cursor) : Bool :=
  cursor.startsWithMark '-' || cursor.startsWithMark '.'

/-- A bound on how many steps there are to the end. -/
def fuel (cursor : Cursor) : Nat :=
  cursor.rest.length + 1

end Cursor

/-- Whether a character may occur in a document at all. -/
def isAllowed (c : Char) : Bool :=
  let code := c.toNat
  code == 9 || code == 10 || code == 13 || (0x20 ≤ code && code ≤ 0x7E) || code == 0x85
    || (0xA0 ≤ code && code ≤ 0xD7FF) || (0xE000 ≤ code && code ≤ 0xFFFD) || 0x10000 ≤ code

end CommonExpr.Document

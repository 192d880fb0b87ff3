import CommonExpr.Document.Cursor
import CommonExpr.Document.Meaning
import CommonExpr.Text.Quoted

/-! How a text is written as a scalar: plain where that is read back as the same text,
else in single quotes, and in double quotes where characters have to be escaped.
Lines that have grown beyond eighty columns are folded at a blank. -/

namespace CommonExpr.Document

inductive ScalarStyle where
  | plain
  | single
  | double
deriving DecidableEq, Repr

def isAscii (c : Char) : Bool :=
  c == '\n' || (' ' ≤ c && c ≤ '~')

/-- Pairs of neighbours in a text. -/
def neighbours (text : List Char) : List (Char × Char) :=
  text.zip text.tail

/-- Whether characters stand next to each other somewhere. -/
def hasPair (first second : Char) (text : List Char) : Bool :=
  (neighbours text).any (· == (first, second))

/-- A text that would be taken for something else, by an indicator at its start, the
mark of a document, or a colon or a comment inside. -/
def hasIndicator (text : List Char) : Bool :=
  ["---".toList, "...".toList].any (·.isPrefixOf text)
    || text.head?.any (fun c => "#,[]\x7b\x7d&*!|>'\"%@\x60".contains c)
    || (text.head?.any (fun c => "?:-".contains c) && endsWord (text.drop 1).head?)
    || text.getLast? == some ':'
    || (neighbours text).any fun (c, d) => (c == ':' && isGap d) || (isGap c && d == '#')

/-- A blank or a line break. -/
def isWhite (c : Char) : Bool :=
  c == ' ' || c == '\n'

def ScalarStyle.ofText (text : List Char) : ScalarStyle :=
  let edges := text.head?.any isWhite || text.getLast?.any isWhite
  if !text.all isAscii || hasPair ' ' '\n' text then .double
  else if hasPair '\n' ' ' text then .double
  else if edges || '\n' ∈ text || hasIndicator text || Meaning.ofPlain text ≠ .text then .single
  else .plain

/-- What has been written of a scalar, and the column behind it. -/
structure Written where
  text : List Char
  column : Nat

namespace Written

def write (written : Written) (characters : List Char) : Written :=
  ⟨written.text ++ characters, written.column + characters.length⟩

/-- Goes to an indented new line. -/
def newLine (written : Written) (indent : Nat) : Written :=
  ⟨written.text ++ '\n' :: List.replicate indent ' ', indent⟩

end Written

/-- The column that a line may fill before it is folded. -/
def bestWidth : Nat := 80

/-- The maximal runs of characters of one class: blanks, line breaks, or others. -/
def runs : List Char → List (List Char)
  | [] => []
  | c :: rest =>
    let sameClass (d : Char) : Bool := (c == ' ') == (d == ' ') && (c == '\n') == (d == '\n')
    match runs rest with
    | (d :: more) :: others => if sameClass d then (c :: d :: more) :: others else [c] :: (d :: more) :: others
    | others => [c] :: others

/-- Writes the runs of a text. A single blank between words may become a new line; a
run of line breaks takes one more, since one break alone counts as a blank. -/
def writeRuns (fold : Bool) (indent : Nat) : Bool → List (List Char) → Written → Written
  | _, [], written => written
  | first, run :: rest, written =>
    let next :=
      if run = [' '] ∧ fold ∧ !first ∧ rest ≠ [] ∧ bestWidth < written.column then written.newLine indent
      else if run.head? = some '\n' then
        ⟨written.text ++ '\n' :: run ++ List.replicate indent ' ', indent⟩
      else written.write run
    writeRuns fold indent false rest next

/-- The letter of an escape in double quotes, for the characters that have one. -/
def escapeLetter? : Char → Option Char
  | '\x00' => some '0'
  | '\x07' => some 'a'
  | '\x08' => some 'b'
  | '\t' => some 't'
  | '\n' => some 'n'
  | '\x0b' => some 'v'
  | '\x0c' => some 'f'
  | '\r' => some 'r'
  | '\x1b' => some 'e'
  | '"' => some '"'
  | '\\' => some '\\'
  | '\x85' => some 'N'
  | '\xa0' => some '_'
  | '\u2028' => some 'L'
  | '\u2029' => some 'P'
  | _ => none

/-- Escapes by code point have capital digits. -/
def codeEscape (code : Nat) : List Char :=
  let digits (width : Nat) := (Text.hexDigits width code).map Char.toUpper
  if code < 0x100 then '\\' :: 'x' :: digits 2
  else if code < 0x10000 then '\\' :: 'u' :: digits 4
  else '\\' :: 'U' :: digits 8

/-- What a character is written as in double quotes, if not as itself. -/
def escape? (c : Char) : Option (List Char) :=
  match escapeLetter? c with
  | some letter => some ['\\', letter]
  | none => if ' ' ≤ c ∧ c ≤ '~' then none else some (codeEscape c.toNat)

/-- Joins a line to the next one by a backslash; a blank that follows is escaped, so
that it is not taken for indentation. -/
def splitLine (indent : Nat) (next : Option Char) (written : Written) : Written :=
  let broken := (written.write ['\\']).newLine indent
  if next = some ' ' then broken.write ['\\'] else broken

/-- Writes a text in double quotes. A line may be split before a blank and around
escapes, but not at the first and the last character. -/
def writeEscaped (fold : Bool) (indent : Nat) : Bool → List Char → List Char → Written → Written
  | _, pending, [], written => written.write pending
  | first, pending, c :: rest, written =>
    let inside := fold && !first && !rest.isEmpty
    match escape? c with
    | some escaped =>
      let next := (written.write pending).write escaped
      if inside && bestWidth + 1 < next.column then
        writeEscaped fold indent false [] rest (splitLine indent rest.head? next)
      else writeEscaped fold indent false [] rest next
    | none =>
      if inside && (c == ' ' || pending.isEmpty) && bestWidth < written.column + pending.length then
        writeEscaped fold indent false [c] rest (splitLine indent (some c) (written.write pending))
      else writeEscaped fold indent false (pending ++ [c]) rest written

/-- A text as a scalar that starts at a column; further lines are indented. -/
def scalarText (fold : Bool) (column indent : Nat) (text : String) : String :=
  let characters := text.toList
  let written := match ScalarStyle.ofText characters with
    | .plain => writeRuns fold indent true (runs characters) ⟨[], column⟩
    | .single =>
      let doubled := characters.flatMap fun c => if c = '\'' then [c, c] else [c]
      (writeRuns fold indent true (runs doubled) ⟨['\''], column + 1⟩).write ['\'']
    | .double => (writeEscaped fold indent true [] characters ⟨['"'], column + 1⟩).write ['"']
  String.ofList written.text

end CommonExpr.Document

import CommonExpr.Document.Cursor
import CommonExpr.Text.Digit

/-! The texts of scalars: plain, in single or double quotes, and in blocks of lines.
Lines of a plain or quoted scalar are folded: one break counts as a blank, and more
than one as the breaks after the first. -/

namespace CommonExpr.Document

/-- What the breaks between two lines of a folded scalar count as. -/
def foldBreaks (first : Char) (more : List Char) : List Char :=
  if first ≠ '\n' then first :: more else if more.isEmpty then [' '] else more

namespace Plain

/-- How far a plain scalar reaches without a gap. In brackets it also ends before a
comma, a question mark or a bracket. -/
def wordLength (inBrackets : Bool) : List Char → Nat
  | [] => 0
  | c :: rest =>
    let isMark (d : Char) : Bool := d == ',' || d == '[' || d == ']' || d == '\x7b' || d == '\x7d'
    let ended := isGap c || (c == ':' && rest.head?.all fun d => isGap d || (inBrackets && isMark d))
      || (inBrackets && (isMark c || c == '?'))
    if ended then 0 else wordLength inBrackets rest + 1

/-- Breaks and the blanks around them, up to the next word; nothing if a mark between
documents comes first. -/
def moreBreaks : Nat → Cursor → List Char → Option (List Char) × Cursor
  | 0, cursor, found => (some found, cursor)
  | fuel + 1, cursor, found =>
    let cursor := cursor.skip (· == ' ')
    match cursor.lineBreak? with
    | none => (some found, cursor)
    | some (c, after) =>
      if after.atBoundary then (none, after) else moreBreaks fuel after (found ++ [c])

/-- The gap behind a word: what it counts as, whether a line ended in it, and the
cursor behind it. -/
def gap (cursor : Cursor) : List Char × Bool × Cursor :=
  let (blanks, after) := cursor.span (· == ' ')
  match after.lineBreak? with
  | none => (blanks, false, after)
  | some (first, next) =>
    if next.atBoundary then ([], true, next)
    else
      let (more, last) := moreBreaks next.fuel next []
      ((more.map (foldBreaks first)).getD [], true, last)

/-- The words of a plain scalar and the gaps between them. Outside brackets it ends
where a line is not indented enough. Says too whether a line ended after the last word. -/
def scanWords (inBrackets : Bool) (indent : Int) : Nat → Cursor → List Char → List Char → Bool →
    (List Char × Bool) × Cursor
  | 0, cursor, text, _, crossed => ((text, crossed), cursor)
  | fuel + 1, cursor, text, pending, crossed =>
    let length := if cursor.head? = some '#' then 0 else wordLength inBrackets cursor.rest
    if length = 0 then ((text, crossed), cursor)
    else
      let word := cursor.rest.take length
      let (blanks, crossed, after) := gap (cursor.advance length)
      let text := text ++ pending ++ word
      if blanks.isEmpty ∨ after.head? = some '#' ∨ (!inBrackets ∧ (after.column : Int) < indent) then
        ((text, crossed), after)
      else scanWords inBrackets indent fuel after text blanks crossed

def scan (inBrackets : Bool) (indent : Int) (cursor : Cursor) : (List Char × Bool) × Cursor :=
  scanWords inBrackets indent cursor.fuel cursor [] [] false

end Plain

namespace Quoted

/-- The character that a one-letter escape stands for. -/
def simpleEscape? : Char → Option Char
  | '0' => some '\x00'
  | 'a' => some '\x07'
  | 'b' => some '\x08'
  | 't' | '\t' => some '\t'
  | 'n' => some '\n'
  | 'v' => some '\x0b'
  | 'f' => some '\x0c'
  | 'r' => some '\r'
  | 'e' => some '\x1b'
  | ' ' => some ' '
  | '"' => some '"'
  | '\\' => some '\\'
  | '/' => some '/'
  | 'N' => some '\x85'
  | '_' => some '\xa0'
  | 'L' => some '\u2028'
  | 'P' => some '\u2029'
  | _ => none

/-- How many hexadecimal digits follow the letter of an escape by code point. -/
def escapeWidth? : Char → Option Nat
  | 'x' => some 2
  | 'u' => some 4
  | 'U' => some 8
  | _ => none

def codeEscape (width : Nat) (cursor : Cursor) : Except Problem (Char × Cursor) :=
  match (cursor.rest.take width).mapM Text.hexDigit? with
  | some digits =>
    if digits.length < width then .error .token
    else
      let code := Text.ofDigits 16 digits
      if code.isValidChar then .ok (Char.ofNat code, cursor.advance width) else .error .value
  | none => .error .token

/-- Breaks and the white space around them, none of which is a mark between documents. -/
def moreBreaks : Nat → Cursor → List Char → Except Problem (List Char × Cursor)
  | 0, cursor, found => .ok (found, cursor)
  | fuel + 1, cursor, found =>
    if cursor.atBoundary then .error .token
    else
      let cursor := cursor.skip fun c => c == ' ' || c == '\t'
      match cursor.lineBreak? with
      | none => .ok (found, cursor)
      | some (c, after) => moreBreaks fuel after (found ++ [c])

/-- White space inside the quotes. -/
def gap (cursor : Cursor) : Except Problem (List Char × Cursor) :=
  let (blanks, after) := cursor.span fun c => c == ' ' || c == '\t'
  if after.rest.isEmpty then .error .token
  else match after.lineBreak? with
    | none => .ok (blanks, after)
    | some (first, next) => do
      let (more, last) ← moreBreaks next.fuel next []
      return (foldBreaks first more, last)

/-- What stands behind a backslash; an escaped line break joins two lines. -/
def escape (cursor : Cursor) : Except Problem (List Char × Cursor) :=
  match cursor.head? with
  | none => .error .token
  | some c =>
    match simpleEscape? c, escapeWidth? c, cursor.lineBreak? with
    | some character, _, _ => .ok ([character], cursor.step)
    | none, some width, _ => do
      let (character, after) ← codeEscape width cursor.step
      return ([character], after)
    | none, none, some (_, after) => moreBreaks after.fuel after []
    | none, none, none => .error .token

/-- Characters that mean themselves in quotes of both kinds. -/
def isOrdinary (c : Char) : Bool :=
  !isGap c && c != '\'' && c != '"' && c != '\\'

/-- The content up to the closing quote, which the cursor ends behind. -/
def scanContent (quote : Char) : Nat → Cursor → List Char → Except Problem (List Char × Cursor)
  | 0, _, _ => .error .token
  | fuel + 1, cursor, text =>
    match cursor.rest with
    | [] => .error .token
    | c :: rest =>
      if c = quote then
        if quote = '\'' ∧ rest.head? = some '\'' then
          scanContent quote fuel (cursor.advance 2) (text ++ ['\''])
        else .ok (text, cursor.step)
      else if c = '\\' ∧ quote = '"' then do
        let (characters, after) ← escape cursor.step
        scanContent quote fuel after (text ++ characters)
      else if isGap c then do
        let (characters, after) ← gap cursor
        scanContent quote fuel after (text ++ characters)
      else match cursor.span isOrdinary with
        | ([], _) => scanContent quote fuel cursor.step (text ++ [c])
        | (characters, after) => scanContent quote fuel after (text ++ characters)

/-- A quoted scalar from its opening quote on. -/
def scan (quote : Char) (cursor : Cursor) : Except Problem (List Char × Cursor) :=
  scanContent quote cursor.fuel cursor.step []

end Quoted

namespace Block

/-- How the line breaks at the end of a block are treated. -/
inductive Chomping where
  | strip
  | clip
  | keep
deriving DecidableEq

def chomping? : Char → Option Chomping
  | '-' => some .strip
  | '+' => some .keep
  | _ => none

/-- The marks behind the indicator of a block, in either order: the treatment of the
last breaks, and by how much the block is indented. -/
def header (cursor : Cursor) : Except Problem ((Chomping × Option Nat) × Cursor) := do
  let chomping := cursor.head?.bind chomping?
  let cursor := if chomping.isSome then cursor.step else cursor
  let increment := cursor.head?.filter Char.isDigit
  let cursor := if increment.isSome then cursor.step else cursor
  let late := if chomping.isNone && increment.isSome then cursor.head?.bind chomping? else none
  let cursor := if late.isSome then cursor.step else cursor
  if increment = some '0' then throw .token
  if !(cursor.head?.all fun c => c == ' ' || isBreak c) then throw .token
  return ((((chomping.or late).getD .clip), increment.map (·.toNat - '0'.toNat)), cursor)

/-- The rest of the line of the header: blanks and a comment. -/
def headerEnd (cursor : Cursor) : Except Problem Cursor :=
  let cursor := cursor.skip (· == ' ')
  let cursor := if cursor.head? = some '#' then cursor.skip (!isBreak ·) else cursor
  match cursor.lineBreak? with
  | some (_, after) => .ok after
  | none => if cursor.rest.isEmpty then .ok cursor else .error .token

/-- Blanks up to a column. -/
def indentTo (column : Nat) (cursor : Cursor) : Cursor :=
  let blanks := (cursor.rest.takeWhile (· == ' ')).length
  cursor.advance (min blanks (column - cursor.column))

/-- The breaks of empty lines before the block, and the widest indentation among them. -/
def leadingBreaks : Nat → Cursor → List Char → Nat → (List Char × Nat) × Cursor
  | 0, cursor, found, widest => ((found, widest), cursor)
  | fuel + 1, cursor, found, widest =>
    let cursor := cursor.skip (· == ' ')
    let widest := max widest cursor.column
    match cursor.lineBreak? with
    | none => ((found, widest), cursor)
    | some (c, after) => leadingBreaks fuel after (found ++ [c]) widest

/-- The breaks of empty lines inside the block. -/
def innerBreaks (column : Nat) : Nat → Cursor → List Char → List Char × Cursor
  | 0, cursor, found => (found, cursor)
  | fuel + 1, cursor, found =>
    let cursor := indentTo column cursor
    match cursor.lineBreak? with
    | none => (found, cursor)
    | some (c, after) => innerBreaks column fuel after (found ++ [c])

/-- The lines of a block. A folded block joins two lines by a blank unless one of them
is indented further. -/
def scanLines (folded : Bool) (chomping : Chomping) (column : Nat) : Nat → Cursor → List Char → List Char →
    List Char × Cursor
  | 0, cursor, text, _ => (text, cursor)
  | fuel + 1, cursor, text, breaks =>
    if cursor.column ≠ column ∨ cursor.rest.isEmpty then
      (text ++ if chomping = .keep then breaks else [], cursor)
    else
      let isWhite (c : Option Char) : Bool := c == some ' ' || c == some '\t'
      let flush := !isWhite cursor.head?
      let (line, ending) := cursor.span (!isBreak ·)
      let (lineBreak, next) := match ending.lineBreak? with
        | some (c, after) => ([c], after)
        | none => ([], ending)
      let (more, last) := innerBreaks column next.fuel next []
      let text := text ++ breaks ++ line
      if last.column = column ∧ !last.rest.isEmpty then
        let joint :=
          if folded && lineBreak == ['\n'] && flush && !isWhite last.head? then
            if more.isEmpty then [' '] else []
          else lineBreak
        scanLines folded chomping column fuel last (text ++ joint) more
      else
        let ending := match chomping with
          | .strip => []
          | .clip => lineBreak
          | .keep => lineBreak ++ more
        (text ++ ending, last)

/-- A block from its indicator on, inside lines that are indented to the given column. -/
def scan (folded : Bool) (indent : Int) (cursor : Cursor) : Except Problem (List Char × Cursor) := do
  let ((chomping, increment), after) ← header cursor.step
  let start ← headerEnd after
  let least := (max (indent + 1) 1).toNat
  match increment with
  | none =>
    let ((breaks, widest), first) := leadingBreaks start.fuel start [] 0
    return scanLines folded chomping (max least widest) first.fuel first [] breaks
  | some more =>
    let column := least + more - 1
    let (breaks, first) := innerBreaks column start.fuel start []
    return scanLines folded chomping column first.fuel first [] breaks

end Block

end CommonExpr.Document

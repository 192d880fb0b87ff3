import CommonExpr.Document.Scalar

/-! Tokens of documents. Indentation becomes tokens of its own, and so does a key,
which is known to be one only when the colon behind it is found: until then its place
in the queue of tokens is remembered. -/

namespace CommonExpr.Document

/-- What a node says about its own kind. -/
inductive Tag where
  | unspecific
  | standard (name : String)
  | foreign
  | undefinedHandle
deriving DecidableEq

inductive Token where
  | documentEnd
  | documentStart
  | directive
  | streamEnd
  | blockSequenceStart
  | blockMappingStart
  | blockEnd
  | sequenceStart
  | sequenceEnd
  | mappingStart
  | mappingEnd
  | entry
  | separator
  | key
  | value
  | alias (name : String)
  | anchor (name : String)
  | tag (tag : Tag)
  | scalar (plain : Bool) (text : String)
deriving DecidableEq

/-- A token that may turn out to be a key: its number among all tokens, where it
starts, and whether nothing but a key may stand there. -/
structure Candidate where
  number : Nat
  required : Bool
  start : Cursor

structure Scanner where
  cursor : Cursor
  queue : List Token
  taken : Nat
  finished : Bool
  brackets : Int
  indent : Int
  indents : List Int
  keysAllowed : Bool
  candidates : List (Int × Candidate)

abbrev Scan := StateT Scanner (Except Problem)

namespace Scanner

/-- A byte order mark at the start of the text is passed over. -/
def ofText (text : String) : Scanner where
  cursor := if text.toList.head? = some '\uFEFF' then (Cursor.ofText text).step else .ofText text
  queue := []
  taken := 0
  finished := false
  brackets := 0
  indent := -1
  indents := []
  keysAllowed := true
  candidates := []

/-- Only outside brackets do lines and indentation count. -/
def inBlock (scanner : Scanner) : Bool :=
  scanner.brackets == 0

def push (token : Token) : Scan Unit :=
  modify fun scanner => { scanner with queue := scanner.queue ++ [token] }

/-- Puts a token in front of the one with a number. -/
def insertBefore (number : Nat) (token : Token) : Scan Unit :=
  modify fun scanner => { scanner with queue := scanner.queue.insertIdx (number - scanner.taken) token }

def moveTo (cursor : Cursor) : Scan Unit :=
  modify fun scanner => { scanner with cursor := cursor }

def allowKeys (allowed : Bool) : Scan Unit :=
  modify fun scanner => { scanner with keysAllowed := allowed }

/-- Drops the candidates that a test names, none of which may be required. -/
def dropCandidates (drop : Int → Candidate → Bool) : Scan Unit := do
  let scanner ← get
  let (dropped, kept) := scanner.candidates.partition fun (level, candidate) => drop level candidate
  if dropped.any (·.2.required) then throw .token
  set { scanner with candidates := kept }

/-- A key stands on one line with its colon, at most 1024 characters before it. -/
def dropStale : Scan Unit := do
  let cursor := (← get).cursor
  dropCandidates fun _ candidate =>
    candidate.start.line != cursor.line || 1024 < cursor.index - candidate.start.index

def dropCurrent : Scan Unit := do
  let level := (← get).brackets
  dropCandidates fun other _ => other == level

/-- Remembers that the token about to be read may be a key. -/
def saveCandidate : Scan Unit := do
  if (← get).keysAllowed then
    dropCurrent
    let scanner ← get
    let candidate : Candidate :=
      { number := scanner.taken + scanner.queue.length
        required := scanner.inBlock && scanner.indent == scanner.cursor.column
        start := scanner.cursor }
    set { scanner with candidates := (scanner.brackets, candidate) :: scanner.candidates }

/-- Ends the blocks that are indented further than a column. -/
def unindentTo (column : Int) : Scan Unit :=
  modify fun scanner =>
    if !scanner.inBlock then scanner
    else
      let enclosing := scanner.indent :: scanner.indents
      let (ended, left) := (enclosing.takeWhile (column < ·), enclosing.dropWhile (column < ·))
      { scanner with
        queue := scanner.queue ++ ended.map fun _ => .blockEnd
        indent := left.head?.getD (-1)
        indents := left.tail }

/-- Starts a block at a column that is indented further than the current one. -/
def indentTo (column : Nat) : Scan Bool := do
  let scanner ← get
  if scanner.indent < column then
    set { scanner with indent := (column : Int), indents := scanner.indent :: scanner.indents }
    return true
  else return false

/-- Blanks, comments and line breaks; a new line outside brackets may start with a key. -/
def skipToToken : Nat → Scan Unit
  | 0 => return ()
  | fuel + 1 => do
    let cursor := (← get).cursor.skip (· == ' ')
    let cursor := if cursor.head? = some '#' then cursor.skip (!isBreak ·) else cursor
    match cursor.lineBreak? with
    | none => moveTo cursor
    | some (_, after) =>
      moveTo after
      if (← get).inBlock then allowKeys true
      skipToToken fuel

/-- A token of that many characters. -/
def pushSymbol (token : Token) (length : Nat) : Scan Unit := do
  moveTo ((← get).cursor.advance length)
  push token

def fetchStreamEnd : Scan Unit := do
  unindentTo (-1)
  dropCurrent
  modify fun scanner => { scanner with keysAllowed := false, candidates := [], finished := true }
  push .streamEnd

def isNamePart (c : Char) : Bool :=
  c.isAlphanum || c == '-' || c == '_'

/-- The rest of the line of a directive is not looked at. -/
def fetchDirective : Scan Unit := do
  unindentTo (-1)
  dropCurrent
  allowKeys false
  let (name, after) := (← get).cursor.step.span isNamePart
  if name.isEmpty || !(after.head?.all fun c => c == ' ' || isBreak c) then throw .token
  moveTo (after.skip (!isBreak ·))
  push .directive

def fetchBoundary (token : Token) : Scan Unit := do
  unindentTo (-1)
  dropCurrent
  allowKeys false
  pushSymbol token 3

def fetchOpening (token : Token) : Scan Unit := do
  saveCandidate
  modify fun scanner => { scanner with brackets := scanner.brackets + 1, keysAllowed := true }
  pushSymbol token 1

def fetchClosing (token : Token) : Scan Unit := do
  dropCurrent
  modify fun scanner => { scanner with brackets := scanner.brackets - 1, keysAllowed := false }
  pushSymbol token 1

def fetchSeparator : Scan Unit := do
  allowKeys true
  dropCurrent
  pushSymbol .separator 1

/-- In a block, an entry, a key or a value may start a block of its own, but only
where a key may stand. -/
def startBlock (token : Token) : Scan Unit := do
  let scanner ← get
  if scanner.inBlock then
    if !scanner.keysAllowed then throw .token
    if ← indentTo scanner.cursor.column then push token

def fetchEntry : Scan Unit := do
  startBlock .blockSequenceStart
  allowKeys true
  dropCurrent
  pushSymbol .entry 1

def fetchKey : Scan Unit := do
  startBlock .blockMappingStart
  allowKeys (← get).inBlock
  dropCurrent
  pushSymbol .key 1

/-- A colon makes the candidate before it a key. -/
def fetchValue : Scan Unit := do
  let scanner ← get
  match scanner.candidates.lookup scanner.brackets with
  | some candidate =>
    set { scanner with candidates := scanner.candidates.filter (·.1 != scanner.brackets) }
    insertBefore candidate.number .key
    if scanner.inBlock then
      if ← indentTo candidate.start.column then insertBefore candidate.number .blockMappingStart
    allowKeys false
  | none =>
    startBlock .blockMappingStart
    allowKeys scanner.inBlock
    dropCurrent
  pushSymbol .value 1

/-- The name behind an asterisk or an ampersand. -/
def fetchName (token : String → Token) : Scan Unit := do
  saveCandidate
  allowKeys false
  let (name, after) := (← get).cursor.step.span isNamePart
  if name.isEmpty || !(after.head?.all fun c => isGap c || "?:,]\x7d%@\x60".contains c) then throw .token
  moveTo after
  push (token (String.ofList name))

def isTagPart (c : Char) : Bool :=
  c.isAlphanum || "-;/?:@&=+$,_.!~*'()[]%".contains c

/-- Tags of the standard kinds are written with two exclamation marks or in full. -/
def standardTag (name : List Char) : Tag :=
  let spaceName := "tag:yaml.org,2002:".toList
  if spaceName.isPrefixOf name then .standard (String.ofList (name.drop spaceName.length)) else .foreign

/-- Reads a tag; the handle before its last exclamation mark has to be a known one. -/
def readTag (cursor : Cursor) : Except Problem (Tag × Cursor) :=
  match cursor.rest with
  | '!' :: '<' :: _ =>
    let (name, after) := (cursor.advance 2).span isTagPart
    if name.isEmpty ∨ after.head? ≠ some '>' then .error .token else .ok (standardTag name, after.step)
  | _ =>
    let (name, after) := cursor.step.span isTagPart
    match name with
    | [] => if endsWord after.head? then .ok (.unspecific, after) else .error .token
    | '!' :: rest => if rest.isEmpty then .error .token else .ok (.standard (String.ofList rest), after)
    | _ =>
      let handle := name.takeWhile isNamePart
      match name.drop handle.length with
      | '!' :: rest => if rest.isEmpty then .error .token else .ok (.undefinedHandle, after)
      | rest => if '!' ∈ rest then .error .token else .ok (.foreign, after)

def fetchTag : Scan Unit := do
  saveCandidate
  allowKeys false
  let (tag, after) ← (readTag (← get).cursor : Except Problem _)
  if !(after.head?.all fun c => c == ' ' || isBreak c) then throw .token
  moveTo after
  push (.tag tag)

def fetchBlock (folded : Bool) : Scan Unit := do
  allowKeys true
  dropCurrent
  let scanner ← get
  let (text, after) ← (Block.scan folded scanner.indent scanner.cursor : Except Problem _)
  moveTo after
  push (.scalar false (String.ofList text))

def fetchQuoted (quote : Char) : Scan Unit := do
  saveCandidate
  allowKeys false
  let (text, after) ← (Quoted.scan quote (← get).cursor : Except Problem _)
  moveTo after
  push (.scalar false (String.ofList text))

def fetchPlain : Scan Unit := do
  saveCandidate
  let scanner ← get
  let ((text, crossed), after) := Plain.scan (!scanner.inBlock) (scanner.indent + 1) scanner.cursor
  allowKeys crossed
  moveTo after
  push (.scalar true (String.ofList text))

/-- Whether a plain scalar may start here: some indicators may, before a character
that is no gap. -/
def startsPlain (inBlock : Bool) (first : Char) (second : Option Char) : Bool :=
  !(isGap first || "-?:,[]\x7b\x7d#&*!|>'\"%@\x60".contains first)
    || (!endsWord second && (first == '-' || (inBlock && (first == '?' || first == ':'))))

/-- Reads the next tokens into the queue. -/
def fetch : Scan Unit := do
  skipToToken (← get).cursor.fuel
  dropStale
  unindentTo (← get).cursor.column
  let scanner ← get
  let cursor := scanner.cursor
  match cursor.rest with
  | [] => fetchStreamEnd
  | c :: rest =>
    let word := endsWord rest.head?
    if cursor.column = 0 ∧ c = '%' then fetchDirective
    else if cursor.column = 0 ∧ cursor.startsWithMark '-' then fetchBoundary .documentStart
    else if cursor.column = 0 ∧ cursor.startsWithMark '.' then fetchBoundary .documentEnd
    else if c = '[' then fetchOpening .sequenceStart
    else if c = '\x7b' then fetchOpening .mappingStart
    else if c = ']' then fetchClosing .sequenceEnd
    else if c = '\x7d' then fetchClosing .mappingEnd
    else if c = ',' then fetchSeparator
    else if c = '-' ∧ word then fetchEntry
    else if c = '?' ∧ (!scanner.inBlock ∨ word) then fetchKey
    else if c = ':' ∧ (!scanner.inBlock ∨ word) then fetchValue
    else if c = '*' then fetchName .alias
    else if c = '&' then fetchName .anchor
    else if c = '!' then fetchTag
    else if c = '|' ∧ scanner.inBlock then fetchBlock false
    else if c = '>' ∧ scanner.inBlock then fetchBlock true
    else if c = '\'' ∨ c = '"' then fetchQuoted c
    else if startsPlain scanner.inBlock c rest.head? then fetchPlain
    else throw .token

/-- Whether the first token of the queue could still get a key in front of it. -/
def undecided : Scan Bool := do
  if (← get).finished then return false
  if (← get).queue.isEmpty then return true
  dropStale
  let scanner ← get
  return scanner.candidates.any (·.2.number == scanner.taken)

/-- Reads until the first token of the queue is decided. -/
def ensure : Nat → Scan Unit
  | 0 => return ()
  | fuel + 1 => do
    if ← undecided then
      fetch
      ensure fuel

/-- The next token; behind the end comes the end again. -/
def peek : Scan Token := do
  ensure ((← get).cursor.fuel + 1)
  return (← get).queue.head?.getD .streamEnd

def take : Scan Token := do
  let token ← peek
  modify fun scanner => { scanner with queue := scanner.queue.tail, taken := scanner.taken + 1 }
  return token

end Scanner
end CommonExpr.Document

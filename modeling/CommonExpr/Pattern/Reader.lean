import CommonExpr.Failure
import CommonExpr.Number.Text
import CommonExpr.Pattern.Branch
import CommonExpr.Text.Identifier
import CommonExpr.Text.Name.Lookup
import CommonExpr.Text.Quoted

/-! The notation of regular expressions. A pattern is read lexeme by lexeme, each a
character or a backslash with the character behind it; groups are numbered in the
order of their opening parentheses. -/

namespace CommonExpr.Pattern

/-- What is wrong with a pattern, and at which character; or a breakdown while it was read. -/
inductive Flaw where
  | malformed (problem : String) (position : Option Nat)
  | broken (cause : Breakdown)
deriving DecidableEq, Repr

/-- The next lexeme, the characters behind it, and how many lie before those. -/
structure Source where
  next : List Char
  rest : List Char
  index : Nat

/-- Where the next lexeme starts; at the end of the pattern there is an empty one. -/
def Source.position (source : Source) : Nat :=
  source.index - source.next.length

def Source.advance (source : Source) : Except Flaw Source :=
  match source.rest with
  | [] => .ok ⟨[], [], source.index⟩
  | ['\\'] => .error (.malformed "bad escape (end of pattern)" (some source.index))
  | '\\' :: c :: rest => .ok ⟨['\\', c], rest, source.index + 2⟩
  | c :: rest => .ok ⟨[c], rest, source.index + 1⟩

/-- What has been read of a pattern so far. A group that is still open has no width.
The depth grows by two with each group that is open, and by one with each choice. -/
structure Reading where
  source : Source
  flags : Flags
  groups : List (Option Width)
  names : List (String × Nat)
  groupsBeforeLook : Option Nat
  forwardReferences : List (Nat × Nat)
  depth : Nat

abbrev Reader := StateT Reading (Except Flaw)

namespace Reader

/-- An error, the given number of characters before the next lexeme. -/
def fail (problem : String) (back : Nat) : Reader α := fun reading =>
  .error (.malformed problem (some (reading.source.position - back)))

def breakDown (cause : Breakdown) : Reader α := fun _ =>
  .error (.broken cause)

def peek : Reader (List Char) :=
  return (← get).source.next

def position : Reader Nat :=
  return (← get).source.position

def take : Reader (List Char) := fun reading =>
  match reading.source.advance with
  | .ok source => .ok (reading.source.next, { reading with source })
  | .error flaw => .error flaw

def accept (c : Char) : Reader Bool := do
  if (← peek) = [c] then
    let _ ← take
    return true
  return false

/-- Up to a number of characters of a class. -/
def takeWhile (belongs : Char → Bool) : Nat → Reader (List Char)
  | 0 => return []
  | count + 1 => do
    match ← peek with
    | [c] =>
      if belongs c then
        let _ ← take
        return c :: (← takeWhile belongs count)
      else return []
    | _ => return []

/-- Everything up to a closing character, which is consumed. -/
def takeUntil (closing : Char) (name : String) : Nat → List Char → Reader (List Char)
  | 0, _ => fail "pattern too long" 0
  | steps + 1, taken => do
    let lexeme ← take
    if lexeme.isEmpty then
      if taken.isEmpty then fail ("missing " ++ name) 0
      else fail s!"missing {closing}, unterminated name" taken.length
    else if lexeme = [closing] then
      if taken.isEmpty then fail ("missing " ++ name) 1 else return taken
    else takeUntil closing name steps (taken ++ lexeme)

def remaining : Reader Nat :=
  return (← get).source.rest.length + 2

def takeName (closing : Char) : Reader (List Char) := do
  takeUntil closing "group name" (← remaining) []

/-- The most depth at which there is room for another node. -/
def depthLimit : Nat := 980

/-- Reads what lies deeper by some weight than what is around it. -/
def nested (weight : Nat) (body : Reader α) : Reader α := do
  let depth := (← get).depth
  if depthLimit < depth + weight then breakDown .patternNesting
  modify ({ · with depth := depth + weight })
  let found ← body
  modify ({ · with depth })
  return found

/-- The groups opened so far, counting the whole match as one. -/
def groupCount : Reader Nat :=
  return (← get).groups.length + 1

def isClosed (number : Nat) : Reader Bool := do
  let groups := (← get).groups
  return number ≠ 0 && (groups[number - 1]?.join).isSome

/-- Inside a look-behind only groups from before it may be referred to. -/
def checkLookBehind (number : Nat) : Reader Unit := do
  match (← get).groupsBeforeLook with
  | none => return ()
  | some before =>
    if !(← isClosed number) then fail "cannot refer to an open group" 0
    if before ≤ number then fail "cannot refer to group defined in the same lookbehind subpattern" 0

def openGroup (name : Option (List Char)) : Reader Nat := do
  let number ← groupCount
  modify fun reading => { reading with groups := reading.groups ++ [none] }
  match name with
  | none => return number
  | some characters =>
    let text := String.ofList characters
    match (← get).names.lookup text with
    | some other =>
      fail s!"redefinition of group name {Text.quoted text} as group {number}; was group {other}"
        (characters.length + 1)
    | none =>
      modify fun reading => { reading with names := (text, number) :: reading.names }
      return number

def widths (reading : Reading) (number : Nat) : Width :=
  ((reading.groups[number - 1]?).join).getD .zero

def closeGroup (number : Nat) (body : List Node) : Reader Unit :=
  modify fun reading =>
    { reading with groups := reading.groups.set (number - 1) (some (widthOfAll (widths reading) body)) }

def isOctal (c : Char) : Bool := '0' ≤ c && c ≤ '7'

def isHex (c : Char) : Bool := (Text.hexDigit? c).isSome

def octal (digits : List Char) : Nat :=
  Text.ofDigits 8 (digits.filterMap Text.hexDigit?)

/-- The control character that a one-letter escape stands for. -/
def control? : Char → Option Nat
  | 'a' => some 7
  | 'b' => some 8
  | 'f' => some 12
  | 'n' => some 10
  | 'r' => some 13
  | 't' => some 9
  | 'v' => some 11
  | '\\' => some 92
  | _ => none

def category? : Char → Option SetItem
  | 'd' => some (.category .digit false)
  | 'D' => some (.category .digit true)
  | 's' => some (.category .space false)
  | 'S' => some (.category .space true)
  | 'w' => some (.category .word false)
  | 'W' => some (.category .word true)
  | _ => none

def anchor? : Char → Option Anchor
  | 'A' => some .textStart
  | 'b' => some .wordBoundary
  | 'B' => some .noWordBoundary
  | 'Z' => some .textEnd
  | _ => none

def failEscape (what : String) (escape : List Char) : Reader α :=
  fail s!"{what} escape {String.ofList escape}" escape.length

/-- A code point written with a fixed number of hexadecimal digits. -/
def hexEscape (mark : Char) (width : Nat) : Reader Nat := do
  let digits ← takeWhile isHex width
  let escape := '\\' :: mark :: digits
  if digits.length ≠ width then failEscape "incomplete" escape
  let code := Text.ofDigits 16 (digits.filterMap Text.hexDigit?)
  if 0x10FFFF < code then failEscape "bad" escape
  return code

/-- A character given by its name. -/
def namedEscape : Reader Nat := do
  if !(← accept '{') then fail "missing \x7b" 0
  let name ← takeUntil '}' "character name" (← remaining) []
  match Text.Name.codePoint? (String.ofList name) with
  | some code => return code
  | none => fail s!"undefined character name {Text.quoted (String.ofList name)}" (name.length + 4)

def octalEscape (digits : List Char) : Reader Nat := do
  let code := octal digits
  if 0xFF < code then
    fail s!"octal escape value \\{String.ofList digits} outside of range 0-0o377" (digits.length + 1)
  return code

/-- The escapes that mean the same inside a set and outside. -/
def sharedEscape (c : Char) : Reader Nat := do
  match c with
  | 'x' => hexEscape c 2
  | 'u' => hexEscape c 4
  | 'U' => hexEscape c 8
  | 'N' => namedEscape
  | _ => if c.isAlphanum then failEscape "bad" ['\\', c] else return c.toNat

def setEscape (c : Char) : Reader SetItem := do
  match control? c, category? c with
  | some code, _ => return .literal code
  | none, some item => return item
  | none, none =>
    if isOctal c then return .literal (← octalEscape (c :: (← takeWhile isOctal 2)))
    return .literal (← sharedEscape c)

def reference (number back : Nat) : Reader Node := do
  if !(← isClosed number) then fail "cannot refer to an open group" back
  checkLookBehind number
  return .backreference number

/-- One or two digits refer to a group; three octal ones are a code point. -/
def digitEscape (c : Char) : Reader Node := do
  let second ← takeWhile Char.isDigit 1
  let octals := (c :: second).all isOctal && second.length = 1
  let third ← if octals then takeWhile isOctal 1 else pure []
  if third.length = 1 then return .literal (← octalEscape (c :: second ++ third))
  let digits := c :: second
  let number := Text.ofDigits 10 (digits.filterMap Text.decimalDigit?)
  if number < (← groupCount) then reference number (digits.length + 1)
  else fail s!"invalid group reference {number}" digits.length

def escape (c : Char) : Reader Node := do
  match anchor? c, category? c, control? c with
  | some anchor, _, _ => return .anchor anchor
  | none, some item, _ => return .set false [item]
  | none, none, some code => return .literal code
  | none, none, none =>
    if c = '0' then return .literal (octal ('0' :: (← takeWhile isOctal 2)))
    if c.isDigit then digitEscape c else return .literal (← sharedEscape c)

/-- The item of a set that a lexeme starts. -/
def setItem (lexeme : List Char) : Reader SetItem := do
  match lexeme with
  | ['\\', c] => setEscape c
  | [c] => return .literal c.toNat
  | _ => fail "unterminated character set" 0

/-- The items of a set up to its closing bracket, which stands for itself if it comes first. -/
def setItems (start : Nat) : Nat → List SetItem → Reader (List SetItem)
  | 0, _ => fail "pattern too long" 0
  | steps + 1, items => do
    let unterminated : Reader (List SetItem) := do
      fail "unterminated character set" ((← position) - start)
    let lexeme ← take
    if lexeme.isEmpty then return ← unterminated
    if lexeme = [']'] && !items.isEmpty then return items
    let item ← setItem lexeme
    if !(← accept '-') then return ← setItems start steps (items ++ [item])
    let behind ← take
    if behind.isEmpty then return ← unterminated
    if behind = [']'] then return items ++ [item, .literal '-'.toNat]
    let other ← setItem behind
    let badRange : Reader (List SetItem) :=
      fail s!"bad character range {String.ofList lexeme}-{String.ofList behind}"
        (lexeme.length + 1 + behind.length)
    match item, other with
    | .literal first, .literal last =>
      if last < first then badRange else setItems start steps (items ++ [.range first last])
    | _, _ => badRange

def characterSet : Reader Node := do
  let start := (← position) - 1
  let negated ← accept '^'
  match negated, (← setItems start (← remaining) []).eraseDups with
  | false, [.literal code] => return .literal code
  | _, items => return .set negated items

def repeatCount (digits : List Char) (default : Option Nat) : Reader (Option Nat) := do
  if digits.isEmpty then return default
  match readDigits? digits with
  | none => breakDown (.tooManyDigits digits.length)
  | some count => if repeatLimit ≤ count then breakDown .repetitionLimit else return some count

/-- The bounds between braces, or nothing if the brace stands for itself; in that case
only the brace is consumed. -/
def braceBounds : Reader (Option (Nat × Option Nat)) := do
  let before ← get
  let start ← position
  if (← peek) = ['}'] then return none
  let least ← takeWhile Char.isDigit (← remaining)
  let most ← if ← accept ',' then takeWhile Char.isDigit (← remaining) else pure least
  if !(← accept '}') then
    set before
    return none
  let low := (← repeatCount least (some 0)).getD 0
  let high ← repeatCount most none
  if high.any (· < low) then fail "min repeat greater than max repeat" ((← position) - start)
  return some (low, high)

def bounds (mark : Char) : Reader (Option (Nat × Option Nat)) :=
  match mark with
  | '?' => return some (0, some 1)
  | '*' => return some (0, none)
  | '+' => return some (1, none)
  | _ => braceBounds

/-- What follows a repeat says which of its matches is preferred. -/
def repeatMode : Reader RepeatMode := do
  if ← accept '?' then return .lazy
  if ← accept '+' then return .possessive
  return .greedy

/-- The part that a repeat applies to has to be there, and be neither an anchor nor a
repeat itself. -/
def repeated (start : Nat) (bound : Nat × Option Nat) : List Node → Reader (List Node)
  | [] => do fail "nothing to repeat" ((← position) - start + 1)
  | node :: before => do
    match node with
    | .anchor _ => fail "nothing to repeat" ((← position) - start + 1)
    | .iterate .. => fail "multiple repeat" ((← position) - start + 1)
    | _ => return .iterate (← repeatMode) bound.1 bound.2 node.opened :: before

def flag? : Char → Option Flags
  | 'i' => some { ignoreCase := true }
  | 'm' => some { multiline := true }
  | 's' => some { dotAll := true }
  | 'x' => some { verbose := true }
  | 'a' => some { ascii := true }
  | 'u' => some { unicode := true }
  | 't' => some { template := true }
  | _ => none

def isFlagLetter (c : Char) : Bool :=
  c == 'L' || (flag? c).isSome

/-- The failure at a lexeme that is no flag. -/
def failFlag (lexeme : List Char) (missing : String) : Reader α := do
  if lexeme.isEmpty then fail ("missing " ++ missing) 0
  fail (if lexeme.all Text.isLetter then "unknown flag" else "missing " ++ missing) lexeme.length

/-- The flags to be turned on, up to the mark behind them. -/
def addedFlags : Nat → Flags → Char → Reader (Flags × Char)
  | 0, _, _ => fail "pattern too long" 0
  | steps + 1, flags, letter => do
    match flag? letter with
    | none => fail "bad inline flags: cannot use 'L' flag with a str pattern" 0
    | some flag =>
      let flags := flags.union flag
      if (flag.ascii || flag.unicode) && flags.ascii && flags.unicode then
        fail "bad inline flags: flags 'a', 'u' and 'L' are incompatible" 0
      let lexeme ← take
      match lexeme with
      | [c] =>
        if c = ')' ∨ c = '-' ∨ c = ':' then return (flags, c)
        if isFlagLetter c then addedFlags steps flags c else failFlag lexeme "-, : or )"
      | _ => failFlag lexeme "-, : or )"

/-- The flags to be turned off, up to the colon behind them. -/
def removedFlags : Nat → Flags → Char → Reader Flags
  | 0, _, _ => fail "pattern too long" 0
  | steps + 1, flags, letter => do
    match flag? letter with
    | none => fail "bad inline flags: cannot turn off flags 'a', 'u' and 'L'" 0
    | some flag =>
      if flag.ascii || flag.unicode then fail "bad inline flags: cannot turn off flags 'a', 'u' and 'L'" 0
      let flags := flags.union flag
      let lexeme ← take
      match lexeme with
      | [':'] => return flags
      | [c] => if isFlagLetter c then removedFlags steps flags c else failFlag lexeme ":"
      | _ => failFlag lexeme ":"

/-- Flags for the whole pattern, which give nothing, or for one group. -/
def inlineFlags (letter : Char) : Reader (Option (Flags × Flags)) := do
  let (added, mark) ← if letter = '-' then pure ({}, '-') else addedFlags (← remaining) {} letter
  if mark = ')' then
    modify fun reading => { reading with flags := reading.flags.union added }
    return none
  if added.template then fail "bad inline flags: cannot turn on global flag" 1
  let removed ←
    if mark = '-' then do
      let lexeme ← take
      match lexeme with
      | [c] => if isFlagLetter c then removedFlags (← remaining) {} c else failFlag lexeme "flag"
      | _ => failFlag lexeme "flag"
    else pure {}
  if removed.template then fail "bad inline flags: cannot turn off global flag" 1
  if added.intersects removed then fail "bad inline flags: flag turned on and off" 1
  return some (added, removed)

/-- Groups are named by identifiers. -/
def checkName (name : List Char) : Reader Unit := do
  if !Text.isIdentifier name then
    fail s!"bad character in group name {Text.quoted (String.ofList name)}" (name.length + 1)

def groupNamed (name : List Char) : Reader Nat := do
  match (← get).names.lookup (String.ofList name) with
  | some number => return number
  | none => fail s!"unknown group name {Text.quoted (String.ofList name)}" (name.length + 1)

/-- The group whose presence decides between two patterns; it may come later. -/
def decidingGroup : Reader Nat := do
  let name ← takeName ')'
  if Text.isIdentifier name then return ← groupNamed name
  match readInteger? (String.ofList name) with
  | some (.ofNat 0) => fail "bad group number" (name.length + 1)
  | some (.ofNat number) =>
    if repeatLimit / 2 ≤ number then fail s!"invalid group reference {number}" (name.length + 1)
    let place := (← position) - name.length - 1
    modify fun reading =>
      if (reading.forwardReferences.lookup number).isSome then reading
      else { reading with forwardReferences := reading.forwardReferences ++ [(number, place)] }
    return number
  | _ => fail s!"bad character in group name {Text.quoted (String.ofList name)}" (name.length + 1)

/-- Passes over a comment in parentheses. -/
def skipRemark (start : Nat) : Nat → Reader Unit
  | 0 => fail "pattern too long" 0
  | steps + 1 => do
    if (← peek).isEmpty then fail "missing ), unterminated comment" ((← position) - start)
    if (← take) = [')'] then return () else skipRemark start steps

/-- Passes over the rest of a line. -/
def skipLine : Nat → Reader Unit
  | 0 => return ()
  | steps + 1 => do
    let lexeme ← take
    if lexeme.isEmpty || lexeme = ['\n'] then return () else skipLine steps

def closing (start : Nat) : Reader Unit := do
  if !(← accept ')') then fail "missing ), unterminated subpattern" ((← position) - start)

/-- What stands behind an opening parenthesis and a question mark. -/
inductive Opening where
  | capture (name : List Char)
  | reference (node : Node)
  | plain
  | remark
  | look (behind negated : Bool)
  | choice
  | atomic
  | globalFlags
  | flags (added removed : Flags)

def unknownExtension (mark : List Char) : Reader α := do
  if mark.isEmpty then fail "unexpected end of pattern" 0
  fail ("unknown extension ?" ++ String.ofList mark) (mark.length + 1)

def namedOpening : Reader Opening := do
  if ← accept '<' then
    let name ← takeName '>'
    checkName name
    return .capture name
  if ← accept '=' then
    let name ← takeName ')'
    checkName name
    let number ← groupNamed name
    return .reference (← reference number (name.length + 1))
  let mark ← take
  if mark.isEmpty then fail "unexpected end of pattern" 0
  unknownExtension ('P' :: mark)

def opening (start : Nat) : Reader Opening := do
  match ← take with
  | ['P'] => namedOpening
  | [':'] => return .plain
  | ['#'] => do
    skipRemark start (← remaining)
    return .remark
  | ['='] => return .look false false
  | ['!'] => return .look false true
  | ['<'] => do
    match ← take with
    | ['='] => return .look true false
    | ['!'] => return .look true true
    | [] => fail "unexpected end of pattern" 0
    | mark => unknownExtension ('<' :: mark)
  | ['('] => return .choice
  | ['>'] => return .atomic
  | [c] =>
    if c = '-' ∨ isFlagLetter c then
      match ← inlineFlags c with
      | none => return .globalFlags
      | some (added, removed) => return .flags added removed
    else unknownExtension [c]
  | mark => unknownExtension mark

mutual

/-- Patterns between bars. The first one may start with flags for the whole pattern. -/
def alternatives : Nat → Bool → Bool → Reader (List (List Node))
  | 0, _, _ => fail "pattern too long" 0
  | steps + 1, verbose, outermost => do
    let first ← nodes steps verbose outermost []
    otherAlternatives steps verbose outermost [first]

def otherAlternatives : Nat → Bool → Bool → List (List Node) → Reader (List (List Node))
  | 0, _, _, _ => fail "pattern too long" 0
  | steps + 1, verbose, outermost, found => do
    if !(← accept '|') then return found
    let flags := (← get).flags
    let verbose := if outermost then flags.verbose else verbose
    let body ← nodes steps verbose false []
    otherAlternatives steps verbose outermost (found ++ [body])

/-- One pattern as a sequence of nodes; those found so far come last one first. -/
def nodes : Nat → Bool → Bool → List Node → Reader (List Node)
  | 0, _, _, _ => fail "pattern too long" 0
  | steps + 1, verbose, atStart, found => do
    match ← peek with
    | [] | ['|'] | [')'] => return found.reverse.flatMap Node.opened
    | lexeme =>
      let _ ← take
      match lexeme with
      | ['\\', c] => nodes steps verbose atStart ((← escape c) :: found)
      | ['['] => nodes steps verbose atStart ((← characterSet) :: found)
      | ['.'] => nodes steps verbose atStart (.any :: found)
      | ['^'] => nodes steps verbose atStart (.anchor .lineStart :: found)
      | ['$'] => nodes steps verbose atStart (.anchor .lineEnd :: found)
      | ['('] => group steps verbose atStart found
      | [c] =>
        if verbose && isMargin c then nodes steps verbose atStart found
        else if verbose && c == '#' then
          skipLine (← remaining)
          nodes steps verbose atStart found
        else if c == '*' || c == '+' || c == '?' || c == '{' then
          let start ← position
          match ← bounds c with
          | none => nodes steps verbose atStart (.literal c.toNat :: found)
          | some bound => nodes steps verbose atStart (← repeated start bound found)
        else nodes steps verbose atStart (.literal c.toNat :: found)
      | _ => nodes steps verbose atStart found

/-- A group, whose opening parenthesis has been consumed, and the nodes behind it. -/
def group : Nat → Bool → Bool → List Node → Reader (List Node)
  | 0, _, _, _ => fail "pattern too long" 0
  | steps + 1, verbose, atStart, found => do
    let start := (← position) - 1
    let kind ← if ← accept '?' then some <$> opening start else pure none
    let body (added removed : Flags) : Reader (List Node) := do
      let inner := (verbose || added.verbose) && !removed.verbose
      let found ← nested 2 (alternatives steps inner false)
      closing start
      return joined found
    let captured (name : Option (List Char)) : Reader Node := do
      let number ← openGroup name
      let inner ← body {} {}
      closeGroup number inner
      return .group (some number) {} {} inner
    match kind with
    | none => nodes steps verbose atStart ((← captured none) :: found)
    | some (.capture name) => nodes steps verbose atStart ((← captured (some name)) :: found)
    | some (.reference node) => nodes steps verbose atStart (node :: found)
    | some .plain => nodes steps verbose atStart (.group none {} {} (← body {} {}) :: found)
    | some (.flags added removed) =>
      nodes steps verbose atStart (.group none added removed (← body added removed) :: found)
    | some .atomic => nodes steps verbose atStart (.atomic (← body {} {}) :: found)
    | some .remark => nodes steps verbose atStart found
    | some .globalFlags => do
      if !atStart || !found.isEmpty then
        fail "global flags not at the start of the expression" ((← position) - start)
      nodes steps (← get).flags.verbose atStart found
    | some (.look behind negated) => do
      let before := (← get).groupsBeforeLook
      if behind && before.isNone then
        let count ← groupCount
        modify fun reading => { reading with groupsBeforeLook := some count }
      let found' ← nested 2 (alternatives steps verbose false)
      if behind then modify fun reading => { reading with groupsBeforeLook := before }
      closing start
      let inner := joined found'
      let reading ← get
      let width := if behind then some (widthOfAll (widths reading) inner) else none
      nodes steps verbose atStart (.look width negated inner :: found)
    | some .choice => do
      let number ← decidingGroup
      checkLookBehind number
      let present ← nested 1 (nodes steps verbose false [])
      let absent ←
        if ← accept '|' then do
          let body ← nested 1 (nodes steps verbose false [])
          if (← peek) = ['|'] then fail "conditional backref with more than two branches" 0
          pure body
        else pure []
      closing start
      nodes steps verbose atStart (.choice number present absent :: found)

end

/-- A whole pattern. Flags that exclude each other are found before anything that
stands behind the pattern. -/
def whole (steps : Nat) : Reader (List Node) := do
  let body := joined (← alternatives steps false true)
  let flags := (← get).flags
  if flags.ascii && flags.unicode then breakDown .conflictingFlags
  if !(← peek).isEmpty then fail "unbalanced parenthesis" 0
  let count ← groupCount
  match (← get).forwardReferences.find? (count ≤ ·.1) with
  | some (number, place) => fun _ => .error (.malformed s!"invalid group reference {number}" (some place))
  | none => return body

end Reader

/-- What keeps a pattern that was read from being matched: a look-behind has to have
one width only. -/
def Node.flaw? (template : Bool) : Node → Option String
  | .look (some width) _ _ =>
    if width.least = width.greatest then none else some "look-behind requires fixed-width pattern"
  | .iterate mode _ _ _ =>
    if template then
      some ("internal: unsupported template operator " ++ match mode with
        | .greedy => "MAX_REPEAT"
        | .lazy => "MIN_REPEAT"
        | .possessive => "POSSESSIVE_REPEAT")
    else none
  | _ => none

/-- Look-behinds reach back less far than this. -/
def lookLimit : Nat := Nat.pow 2 31

def Node.looksTooFar : Node → Bool
  | .look (some width) _ _ => lookLimit ≤ width.least
  | _ => false

/-- A pattern that can be matched, and the flags that hold for all of it. -/
structure Compiled where
  flags : Flags
  body : List Node

/-- Every lexeme takes at most four steps of reading. -/
def compile (pattern : List Char) : Except Flaw Compiled := do
  let source ← (⟨[], pattern, 0⟩ : Source).advance
  let (body, reading) ← (Reader.whole (4 * pattern.length + 8)).run ⟨source, {}, [], [], none, [], 0⟩
  match (innerOfAll body).findSome? (·.flaw? reading.flags.template) with
  | some problem => .error (.malformed problem none)
  | none => if (innerOfAll body).any (·.looksTooFar) then .error (.broken .lookLimit) else .ok ⟨reading.flags, body⟩

/-- The problem and its place; in a pattern of several lines also line and column. -/
def describe (pattern : List Char) (problem : String) : Option Nat → String
  | none => problem
  | some position =>
    let before := pattern.take position
    let line := before.count '\n' + 1
    let column := (before.reverse.takeWhile (· != '\n')).length + 1
    let place := s!"{problem} at position {position}"
    if '\n' ∈ pattern then s!"{place} (line {line}, column {column})" else place

end CommonExpr.Pattern

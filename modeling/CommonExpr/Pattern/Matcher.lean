import CommonExpr.Pattern.Fold
import CommonExpr.Pattern.Marks

/-! Matching by backtracking. A matcher takes what is to match behind it as a
continuation; the first way in which everything matches counts. A failure tells which
marks it left behind. -/

namespace CommonExpr.Pattern

structure Progress where
  position : Nat
  marks : Marks

inductive Outcome where
  | matched (progress : Progress)
  | failed (marks : Marks)

abbrev Continuation := Progress → Outcome

abbrev Matcher := Continuation → Continuation

def Progress.step (progress : Progress) : Progress :=
  { progress with position := progress.position + 1 }

def Progress.fail (progress : Progress) : Outcome :=
  .failed progress.marks

/-- Goes on with other marks where an outcome is a failure. -/
def Outcome.orElse (outcome : Outcome) (other : Marks → Outcome) : Outcome :=
  match outcome with
  | .matched reached => .matched reached
  | .failed marks => other marks

namespace Matcher

/-- Takes one character of a kind. -/
def one (subject : Array Char) (test : Char → Bool) : Matcher := fun next progress =>
  match subject[progress.position]? with
  | some c => if test c then next progress.step else progress.fail
  | none => progress.fail

def check (test : Progress → Bool) : Matcher := fun next progress =>
  if test progress then next progress else progress.fail

/-- The first match of a body, without regard to what is to match behind it. -/
def commit (body : Matcher) : Matcher := fun next progress =>
  match body .matched progress with
  | .matched reached => next reached
  | .failed marks => .failed marks

/-- Rounds of a body: how many are required and allowed, and whether all of it stands
inside another repeat. -/
structure Rounds where
  body : Matcher
  least : Nat
  most : Option Nat
  insideRepeat : Bool

/-- Beyond the required rounds, no round starts where the one before it started. -/
def Rounds.mayGoOn (rounds : Rounds) (round : Nat) (last : Option Nat) (progress : Progress) : Bool :=
  rounds.most.all (round < ·) && last != some progress.position

/-- As many rounds as match, then fewer. -/
def greedy (rounds : Rounds) : Nat → Nat → Option Nat → Matcher
  | 0, _, _, next, progress => next progress
  | steps + 1, round, last, next, progress =>
    if round < rounds.least then rounds.body (greedy rounds steps (round + 1) last next) progress
    else if rounds.mayGoOn round last progress then
      (rounds.body (greedy rounds steps (round + 1) (some progress.position) next) progress).orElse
        fun _ => next progress
    else next progress

/-- As many rounds of one character as match, then fewer. -/
def greedyUnits (rounds : Rounds) : Nat → Nat → Matcher
  | 0, _, next, progress => next progress
  | steps + 1, round, next, progress =>
    let restored (left : Marks) : Marks := progress.marks.restore rounds.insideRepeat left
    if round < rounds.least then rounds.body (greedyUnits rounds steps (round + 1) next) progress
    else
      let longer :=
        if rounds.most.all (round < ·) then rounds.body (greedyUnits rounds steps (round + 1) next) progress
        else progress.fail
      longer.orElse fun left =>
        (next { progress with marks := restored left }).orElse fun left => .failed (restored left)

/-- As few rounds as are required, then more. -/
def reluctant (rounds : Rounds) : Nat → Nat → Option Nat → Matcher
  | 0, _, _, next, progress => next progress
  | steps + 1, round, last, next, progress =>
    if round < rounds.least then rounds.body (reluctant rounds steps (round + 1) last next) progress
    else
      (next progress).orElse fun left =>
        let again := { progress with marks := progress.marks.restore rounds.insideRepeat left }
        if rounds.mayGoOn round last again then
          rounds.body (reluctant rounds steps (round + 1) (some again.position) next) again
        else again.fail

/-- As many rounds as match, each of them final. -/
def possessive (rounds : Rounds) : Nat → Nat → Option Nat → Matcher
  | 0, _, _, next, progress => next progress
  | steps + 1, round, last, next, progress =>
    if round < rounds.least then
      match rounds.body .matched progress with
      | .matched reached => possessive rounds steps (round + 1) last next reached
      | .failed marks => .failed marks
    else if rounds.mayGoOn round last progress then
      match rounds.body .matched progress with
      | .matched reached => possessive rounds steps (round + 1) (some progress.position) next reached
      | .failed _ => next progress
    else next progress

/-- Past the required rounds each one moves on in the subject or is the last. -/
def iterate (subject : Array Char) (mode : RepeatMode) (units : Bool) (rounds : Rounds) : Matcher :=
  fun next progress =>
    let steps := rounds.least + (subject.size - progress.position) + 3
    match mode, units with
    | .greedy, false => greedy rounds steps 0 none next progress
    | .greedy, true => greedyUnits rounds steps 0 next progress
    | .lazy, _ => reluctant rounds steps 0 none next progress
    | .possessive, _ => possessive rounds steps 0 none next progress

/-- The same characters again. -/
def again (subject : Array Char) (flags : Flags) (number : Nat) : Matcher := fun next progress =>
  match progress.marks.span? number with
  | none => progress.fail
  | some (first, last) =>
    let taken := (subject.extract first last).toList
    let fold (c : Char) : Nat := if flags.ignoreCase then lowerCode flags.ascii c.toNat else c.toNat
    let ahead := (subject.extract progress.position (progress.position + taken.length)).toList
    if ahead.map fold = taken.map fold then next { progress with position := progress.position + taken.length }
    else progress.fail

/-- A body that has to match ahead of the position, or has to end at it. -/
def look (behind : Option Width) (negated insideRepeat : Bool) (body : Matcher) : Matcher := fun next progress =>
  let back := match behind with
    | some width => width.least
    | none => 0
  if progress.position < back then if negated then next progress else progress.fail
  else
    match body .matched { progress with position := progress.position - back }, negated with
    | .matched reached, false => next { reached with position := progress.position }
    | .matched reached, true => .failed reached.marks
    | .failed left, true => next { progress with marks := progress.marks.restore insideRepeat left }
    | .failed left, false => .failed left

end Matcher

/-- An empty subject has neither a word boundary nor a place without one. -/
def Anchor.holds (subject : Array Char) (flags : Flags) (anchor : Anchor) (progress : Progress) : Bool :=
  let position := progress.position
  let isWord (index : Nat) : Bool :=
    (subject[index]?).any fun c => Category.contains flags.ascii .word c.toNat
  let boundary := (0 < position && isWord (position - 1)) != isWord position
  match anchor with
  | .textStart => position == 0
  | .textEnd => position == subject.size
  | .lineStart => position == 0 || (flags.multiline && subject[position - 1]? == some '\n')
  | .lineEnd =>
    position == subject.size
      || (subject[position]? == some '\n' && (flags.multiline || position + 1 == subject.size))
  | .wordBoundary => !subject.isEmpty && boundary
  | .noWordBoundary => !subject.isEmpty && !boundary

/-- Whether a sequence always takes exactly one character, in one way. -/
def isUnit : List Node → Bool
  | [.literal _] | [.any] | [.set _ _] => true
  | [.group none _ _ body] => isUnit body
  | _ => false

mutual

/-- The matcher of a node under flags, inside or outside of a repeat. The rounds of a
possessive repeat are not inside it. -/
def Node.matcher (subject : Array Char) : Node → Flags → Bool → Matcher
  | .literal code, flags, _ => Matcher.one subject (literalMatches flags code)
  | .any, flags, _ => Matcher.one subject fun c => flags.dotAll || c != '\n'
  | .set negated items, flags, _ => Matcher.one subject (setMatches flags negated items)
  | .anchor anchor, flags, _ => Matcher.check (anchor.holds subject flags)
  | .group number added removed body, flags, insideRepeat => fun next progress =>
    let inner := matcherOfAll subject body (flags.within added removed) insideRepeat
    match number with
    | none => inner next progress
    | some group =>
      inner (fun reached => next { reached with marks := reached.marks.closeGroup group reached.position })
        { progress with marks := progress.marks.openGroup group progress.position }
  | .atomic body, flags, insideRepeat => Matcher.commit (matcherOfAll subject body flags insideRepeat)
  | .look behind negated body, flags, insideRepeat =>
    Matcher.look behind negated insideRepeat (matcherOfAll subject body flags insideRepeat)
  | .backreference number, flags, _ => Matcher.again subject flags number
  | .choice number present absent, flags, insideRepeat => fun next progress =>
    if (progress.marks.span? number).isSome then matcherOfAll subject present flags insideRepeat next progress
    else matcherOfAll subject absent flags insideRepeat next progress
  | .iterate mode least most body, flags, insideRepeat =>
    let inner := matcherOfAll subject body flags (insideRepeat || mode != .possessive)
    Matcher.iterate subject mode (isUnit body) ⟨inner, least, most, insideRepeat⟩
  | .branch alternatives, flags, insideRepeat => matcherOfEither subject alternatives flags insideRepeat

def matcherOfAll (subject : Array Char) : List Node → Flags → Bool → Matcher
  | [], _, _ => fun next => next
  | node :: rest, flags, insideRepeat => fun next =>
    node.matcher subject flags insideRepeat (matcherOfAll subject rest flags insideRepeat next)

def matcherOfEither (subject : Array Char) : List (List Node) → Flags → Bool → Matcher
  | [], _, _ => fun _ progress => progress.fail
  | body :: rest, flags, insideRepeat => fun next progress =>
    (matcherOfAll subject body flags insideRepeat next progress).orElse fun left =>
      matcherOfEither subject rest flags insideRepeat next
        { progress with marks := progress.marks.restore insideRepeat left }

end

/-- The set that a match has to start in, if the pattern starts with one. A set with cased
characters is left out where case is ignored. -/
def startSet? (flags : Flags) : List Node → Option (Bool × List SetItem)
  | .group _ added removed body :: _ => startSet? (flags.within added removed) body
  | .set negated items :: _ =>
    if flags.ignoreCase && items.any (·.isCased flags.ascii) then none else some (negated, items)
  | _ => none

/-- The first match of a pattern in a subject. Places where none can start are passed
over; the categories in a first set are taken by the flags of the whole pattern there,
even inside a group with flags of its own. -/
def firstMatch? (flags : Flags) (body : List Node) (subject : Array Char) : Option Progress :=
  let matcher := matcherOfAll subject body flags false .matched
  let mayStart (start : Nat) : Bool :=
    match startSet? flags body with
    | none => true
    | some (negated, items) => (subject[start]?).any (setMatches { flags with ignoreCase := false } negated items)
  (List.range (subject.size + 1)).findSome? fun start =>
    if mayStart start then
      match matcher ⟨start, #[]⟩ with
      | .matched reached => some reached
      | .failed _ => none
    else none

end CommonExpr.Pattern

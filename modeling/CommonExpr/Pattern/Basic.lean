/-! Regular expressions as trees. -/

namespace CommonExpr.Pattern

structure Flags where
  ignoreCase : Bool := false
  multiline : Bool := false
  dotAll : Bool := false
  verbose : Bool := false
  ascii : Bool := false
  unicode : Bool := false
  template : Bool := false
deriving DecidableEq, Repr

namespace Flags

def union (left right : Flags) : Flags :=
  ⟨left.ignoreCase || right.ignoreCase, left.multiline || right.multiline, left.dotAll || right.dotAll,
    left.verbose || right.verbose, left.ascii || right.ascii, left.unicode || right.unicode,
    left.template || right.template⟩

def intersects (left right : Flags) : Bool :=
  (left.ignoreCase && right.ignoreCase) || (left.multiline && right.multiline) || (left.dotAll && right.dotAll)
    || (left.verbose && right.verbose) || (left.ascii && right.ascii) || (left.unicode && right.unicode)
    || (left.template && right.template)

/-- The flags inside a group that adds some and takes some away; a choice of
alphabet replaces the one from outside. -/
def within (outer added removed : Flags) : Flags :=
  let alphabet := added.ascii || added.unicode
  { ignoreCase := (outer.ignoreCase || added.ignoreCase) && !removed.ignoreCase
    multiline := (outer.multiline || added.multiline) && !removed.multiline
    dotAll := (outer.dotAll || added.dotAll) && !removed.dotAll
    verbose := (outer.verbose || added.verbose) && !removed.verbose
    ascii := if alphabet then added.ascii else outer.ascii
    unicode := if alphabet then added.unicode else outer.unicode
    template := outer.template }

end Flags

inductive Category where
  | digit
  | space
  | word
deriving DecidableEq, Repr

/-- What a set of characters is made of. Code points that are no characters may be
written, and match nothing. -/
inductive SetItem where
  | literal (code : Nat)
  | range (first last : Nat)
  | category (kind : Category) (negated : Bool)
deriving DecidableEq, Repr

inductive Anchor where
  | lineStart
  | lineEnd
  | textStart
  | textEnd
  | wordBoundary
  | noWordBoundary
deriving DecidableEq, Repr

inductive RepeatMode where
  | greedy
  | lazy
  | possessive
deriving DecidableEq, Repr

/-- The least and the greatest number of characters that a pattern takes. -/
structure Width where
  least : Nat
  greatest : Nat
deriving DecidableEq, Repr

inductive Node where
  | literal (code : Nat)
  | any
  | set (negated : Bool) (items : List SetItem)
  | anchor (anchor : Anchor)
  | group (number : Option Nat) (added removed : Flags) (body : List Node)
  | atomic (body : List Node)
  | look (behind : Option Width) (negated : Bool) (body : List Node)
  | backreference (number : Nat)
  | choice (number : Nat) (present absent : List Node)
  | iterate (mode : RepeatMode) (least : Nat) (most : Option Nat) (body : List Node)
  | branch (alternatives : List (List Node))

/-- Counts of repetition stay below this, and widths are not counted beyond it. -/
def repeatLimit : Nat := Nat.pow 2 32 - 1

namespace Width

def zero : Width := ⟨0, 0⟩

def one : Width := ⟨1, 1⟩

def add (left right : Width) : Width :=
  ⟨left.least + right.least, left.greatest + right.greatest⟩

def either (left right : Width) : Width :=
  ⟨min left.least right.least, max left.greatest right.greatest⟩

def times (width : Width) (least : Nat) (most : Option Nat) : Width :=
  ⟨width.least * least, width.greatest * most.getD repeatLimit⟩

/-- A width that reaches the limit is never fixed. -/
def limited (width : Width) : Width :=
  ⟨min width.least (repeatLimit - 1), min width.greatest repeatLimit⟩

end Width

mutual

/-- The width of a node, given the widths of the groups. -/
def Node.width (groups : Nat → Width) : Node → Width
  | .literal _ | .any | .set _ _ => .one
  | .anchor _ | .look _ _ _ => .zero
  | .group _ _ _ body | .atomic body => widthOfAll groups body
  | .backreference number => groups number
  | .choice _ present absent => (widthOfAll groups present).either (widthOfAll groups absent)
  | .iterate _ least most body => (widthOfAll groups body).times least most
  | .branch alternatives => widthOfEither groups alternatives

def widthOfAll (groups : Nat → Width) (nodes : List Node) : Width :=
  (widthOfSequence groups nodes).limited

def widthOfSequence (groups : Nat → Width) : List Node → Width
  | [] => .zero
  | node :: rest => (node.width groups).add (widthOfSequence groups rest)

def widthOfEither (groups : Nat → Width) : List (List Node) → Width
  | [] => .zero
  | [body] => widthOfAll groups body
  | body :: rest => (widthOfAll groups body).either (widthOfEither groups rest)

end

mutual

/-- The nodes inside a node, in the order in which they are written. -/
def Node.inner : Node → List Node
  | .group _ _ _ body | .atomic body | .look _ _ body | .iterate _ _ _ body => innerOfAll body
  | .choice _ present absent => innerOfAll present ++ innerOfAll absent
  | .branch alternatives => innerOfEither alternatives
  | _ => []

/-- All nodes of a sequence, with those inside them. -/
def innerOfAll : List Node → List Node
  | [] => []
  | node :: rest => node :: node.inner ++ innerOfAll rest

def innerOfEither : List (List Node) → List Node
  | [] => []
  | body :: rest => innerOfAll body ++ innerOfEither rest

end

end CommonExpr.Pattern

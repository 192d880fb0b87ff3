/-! Marks remember where groups were opened and closed during a match. Each group has
two of them, in the order of the opening parentheses. -/

namespace CommonExpr.Pattern

/-- A mark that was passed over has no place. -/
abbrev Marks := Array (Option Nat)

namespace Marks

/-- A mark beyond the last one leaves those between them without a place. -/
def put (marks : Marks) (index position : Nat) : Marks :=
  if index < marks.size then marks.set! index (some position)
  else (marks ++ Array.replicate (index - marks.size) none).push (some position)

def openGroup (marks : Marks) (number position : Nat) : Marks :=
  marks.put (2 * number - 2) position

def closeGroup (marks : Marks) (number position : Nat) : Marks :=
  marks.put (2 * number - 1) position

def at? (marks : Marks) (index : Nat) : Option Nat :=
  marks[index]?.join

/-- Where a group was opened and closed last. -/
def ends? (marks : Marks) (number : Nat) : Option (Nat × Nat) := do
  return (← marks.at? (2 * number - 2), ← marks.at? (2 * number - 1))

/-- What a group took last. A group that is open again has nothing, unless it was closed
at the very place where it was opened again. -/
def span? (marks : Marks) (number : Nat) : Option (Nat × Nat) :=
  (marks.ends? number).filter fun (first, last) => first ≤ last

/-- Whether a group seems to end before it starts. -/
def isCrossed (marks : Marks) : Bool :=
  (List.range (marks.size / 2)).any fun group => (marks.ends? (group + 1)).any fun (first, last) => last < first

/-- The marks to go on with where an attempt failed. Inside a repeat they are those from
before it. Elsewhere the ones that were there before keep the places that the attempt
gave them. -/
def restore (saved : Marks) (insideRepeat : Bool) (left : Marks) : Marks :=
  if insideRepeat then saved else left.extract 0 saved.size

end Marks
end CommonExpr.Pattern

import CommonExpr.Pattern.Basic

/-! Alternatives. What all of them start with is taken out of them, and a choice between
single characters becomes a set. -/

namespace CommonExpr.Pattern

/-- Whether two nodes are the same character, set, anchor or backreference. Nodes with a
body are never the same. -/
def Node.isSameUnit : Node → Node → Bool
  | .literal code, .literal other => code == other
  | .any, .any => true
  | .set negated items, .set otherNegated others => negated == otherNegated && items == others
  | .anchor kind, .anchor other => kind == other
  | .backreference number, .backreference other => number == other
  | _, _ => false

/-- What follows a node at the start of a sequence. -/
def after? (start : Node) : List Node → Option (List Node)
  | node :: rest => if start.isSameUnit node then some rest else none
  | [] => none

/-- The nodes that a sequence and all the others start with, and what follows them. -/
def commonStart : List Node → List (List Node) → List Node × List (List Node)
  | [], others => ([], [] :: others)
  | node :: rest, others =>
    match others.mapM (after? node) with
    | some tails =>
      let (common, remaining) := commonStart rest tails
      (node :: common, remaining)
    | none => ([], (node :: rest) :: others)

/-- The items of a set that matches what a sequence of one character matches. -/
def setItems? : List Node → Option (List SetItem)
  | [.literal code] => some [.literal code]
  | [.set false items] => some items
  | _ => none

/-- A choice between sequences as one sequence. -/
def joined : List (List Node) → List Node
  | [] => []
  | [body] => body
  | first :: others =>
    let (common, alternatives) := commonStart first others
    match alternatives.mapM setItems? with
    | some items => common ++ [.set false items.flatten.eraseDups]
    | none => common ++ [.branch alternatives]

/-- A group that neither captures nor has flags is its body. -/
def Node.opened : Node → List Node
  | .group none added removed body => if added = {} ∧ removed = {} then body else [.group none added removed body]
  | node => [node]

end CommonExpr.Pattern

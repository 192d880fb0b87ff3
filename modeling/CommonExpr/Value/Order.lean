import CommonExpr.Failure
import CommonExpr.Value.Basic

/-! The order of values. Null comes before everything else; numbers are ordered by
value, text by code points, false before true, and lists element by element, a
prefix first. Any other pair has no order. -/

namespace CommonExpr.Value

mutual

/-- What is not a number is placed level with every number. -/
def compare : Value → Value → Except Failure Ordering
  | .null, .null => .ok .eq
  | .null, _ => .ok .lt
  | _, .null => .ok .gt
  | .number first, .number second => .ok ((first.compare? second).getD .eq)
  | .text _ first, .text _ second => .ok (Ord.compare first second)
  | .bool first, .bool second => .ok (Ord.compare first second)
  | .list first, .list second => compareElements first second
  | left, right => .error (.fault (.notComparable left.typeName right.typeName))

/-- The first pair of elements that are not level decides. -/
def compareElements : List Value → List Value → Except Failure Ordering
  | [], [] => .ok .eq
  | [], _ :: _ => .ok .lt
  | _ :: _, [] => .ok .gt
  | first :: rest, second :: others => do
    match ← compare first second with
    | .eq => compareElements rest others
    | decided => return decided

end

/-- The first of the elements that no other one stands on the given side of. -/
def extreme (function : String) (side : Ordering) : List Value → Except Failure Value
  | [] => .error (.rejected (.noArguments function))
  | first :: rest =>
    rest.foldlM (fun best value => do return if (← value.compare best) = side then value else best) first

def greatest : List Value → Except Failure Value :=
  extreme "max" .gt

def least : List Value → Except Failure Value :=
  extreme "min" .lt

end CommonExpr.Value

import CommonExpr.Failure
import CommonExpr.Text.Search
import CommonExpr.Value.Equality

/-! Membership: an equal element of a list, a key of a map, a part of a text. -/

namespace CommonExpr.Value

def memberOf (item : Value) : Value → Except Failure Bool
  | .list elements => .ok (elements.any (·.deepEquals item))
  | .map _ entries => .ok (Entries.hasKey item entries)
  | .text _ content =>
    match item with
    | .text _ sought => .ok (Text.contains content sought)
    | _ => .error (.fault (.substringOperand item.typeName))
  | other => .error (.fault (.membershipOperand other.typeName))

/-- Whether a value is a map with a given text as a key. -/
def hasField (target field : Value) : Bool :=
  match target, field with
  | .map _ entries, .text _ _ => Entries.hasKey field entries
  | _, _ => false

end CommonExpr.Value

import CommonExpr.Value.Key

/-! Deep equality. It never fails: values of different families are unequal, and a
bool is never a number. -/

namespace CommonExpr.Value

mutual

/-- Maps are equal if they have as many entries and each key of the one leads to an
equal value in the other. -/
def deepEquals : Value → Value → Bool
  | .null, .null => true
  | .bool first, .bool second => first == second
  | .number first, .number second => first.equals second
  | .text _ first, .text _ second => first == second
  | .list first, .list second => elementsEqual first second
  | .map _ first, .map _ second => first.length == second.length && entriesWithin first second
  | .date first, .date second => Moment.ofText first == Moment.ofText second
  | _, _ => false

def elementsEqual : List Value → List Value → Bool
  | [], [] => true
  | first :: rest, second :: others => deepEquals first second && elementsEqual rest others
  | _, _ => false

/-- Whether every entry has an equal one under the same key of another map. -/
def entriesWithin : List (Value × Value) → List (Value × Value) → Bool
  | [], _ => true
  | (key, value) :: rest, others =>
    (match Entries.lookup? key others with
      | some other => deepEquals value other
      | none => false) && entriesWithin rest others

end

end CommonExpr.Value

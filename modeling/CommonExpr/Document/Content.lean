import CommonExpr.Document.Meaning
import CommonExpr.Document.Node
import CommonExpr.Value.Key

/-! What documents stand for, as values. -/

namespace CommonExpr.Document

def orValue (problem : Problem) : Option Value → Except Problem Value
  | some value => .ok value
  | none => .error problem

def timestampValue (text : String) : Except Problem Value :=
  match Timestamp.ofText? text.toList with
  | some stamp => if stamp.isValid then .ok (.date stamp.text) else .error .value
  | none => .error .form

/-- Whether an integer lacks all its digits. A sign counts for nothing. -/
def lacksDigits (text : List Char) : Bool :=
  (splitSign (text.filter (· != '_'))).2.isEmpty

/-- The two marks and the reserved forms stand for no value. -/
def formValue (text : String) : Except Problem Value :=
  let characters := text.toList
  match Meaning.ofPlain characters with
  | .null => .ok .null
  | .bool value => .ok (.bool value)
  | .int => orValue .value ((integerValue? characters).map .int)
  | .float => orValue .value ((floatValue? characters).map .double)
  | .timestamp => timestampValue text
  | .mergeMark | .defaultMark | .reserved => .error .content
  | .text => .ok (.string text)

/-- The value of a scalar of a given kind, whatever form it has. -/
def taggedValue (kind text : String) : Except Problem Value :=
  let characters := text.toList
  match kind with
  | "null" => .ok .null
  | "bool" =>
    let word := characters.map Char.toLower
    if meansTrue word then .ok (.bool true) else if meansFalse word then .ok (.bool false) else .error .word
  | "int" => if lacksDigits characters then .error .digits else orValue .value ((integerValue? characters).map .int)
  | "float" =>
    if characters.all (· == '_') then .error .digits else orValue .value ((floatValue? characters).map .double)
  | "timestamp" => timestampValue text
  | "str" => .ok (.string text)
  | _ => .error .content

def scalarValue (reading : Reading) (text : String) : Except Problem Value :=
  match reading with
  | .byForm => formValue text
  | .asText => .ok (.string text)
  | .tagged (.standard kind) => taggedValue kind text
  | .tagged _ => .error .content

/-- A tag on a collection may only say what it is. -/
def checkTag (kind : String) : Option Tag → Except Problem Unit
  | none => .ok ()
  | some tag => if tag = .standard kind then .ok () else .error .content

namespace Node

/-- Whether a key merges the mappings of its value into its own mapping. -/
def isMergeKey : Node → Bool
  | .scalar .byForm text => Meaning.ofPlain text.toList = .mergeMark
  | .scalar (.tagged tag) _ => tag = .standard "merge"
  | _ => false

/-- As a key, the mark of a default value is text. -/
def isDefaultKey : Node → Bool
  | .scalar .byForm text => Meaning.ofPlain text.toList = .defaultMark
  | _ => false

mutual

/-- In a mapping, entries that are merged in come before its own ones, which win. -/
def toValue : Node → Except Problem Value
  | .scalar reading text => scalarValue reading text
  | .sequence tag items => do
    checkTag "seq" tag
    return .list (← itemValues items)
  | .mapping tag entries => do
    checkTag "map" tag
    let (merged, own) ← entryValues entries
    return .map .plain (Entries.ofList (merged ++ own))

def itemValues : List Node → Except Problem (List Value)
  | [] => .ok []
  | item :: rest => do
    let value ← toValue item
    return value :: (← itemValues rest)

/-- The entries that are merged in, and the others. A key has to be a scalar. -/
def entryValues : List (Node × Node) → Except Problem (List (Value × Value) × List (Value × Value))
  | [] => .ok ([], [])
  | (key, value) :: rest => do
    if key.isMergeKey then
      let source ← mergedEntries value
      let (merged, own) ← entryValues rest
      return (source ++ merged, own)
    else
      let name ← if key.isDefaultKey then .ok (.string "=") else toValue key
      if !name.isScalar then throw .content
      let content ← toValue value
      let (merged, own) ← entryValues rest
      return (merged, (name, content) :: own)

/-- The entries of a mapping, or of a sequence of mappings, of which the first wins. -/
def mergedEntries : Node → Except Problem (List (Value × Value))
  | .mapping _ entries => do
    let (merged, own) ← entryValues entries
    return merged ++ own
  | .sequence _ items => mergedItems items
  | .scalar _ _ => .error .content

def mergedItems : List Node → Except Problem (List (Value × Value))
  | [] => .ok []
  | .mapping _ entries :: rest => do
    let (merged, own) ← entryValues entries
    return (← mergedItems rest) ++ (merged ++ own)
  | _ :: _ => .error .content

end

end Node

/-- The value of a document; a text without one stands for null. -/
def read (text : String) : Except Problem Value := do
  match ← Node.ofText? text with
  | some root => root.toValue
  | none => return .null

end CommonExpr.Document

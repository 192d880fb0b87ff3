import CommonExpr.Value.Format

/-! JSON documents, and the document that shows a value: text for what JSON has no
form of, and objects for maps of every kind. -/

namespace CommonExpr

inductive Json where
  | null
  | bool (value : Bool)
  | int (value : Int)
  | double (value : Double)
  | text (content : String)
  | array (elements : List Json)
  | object (members : List (String × Json))

namespace Json

/-- A member of a name that is there keeps its place and takes the new content. -/
def setMember (name : String) (content : Json) : List (String × Json) → List (String × Json)
  | [] => [(name, content)]
  | (other, old) :: rest =>
    if other = name then (other, content) :: rest else (other, old) :: setMember name content rest

end Json

namespace Value

mutual

/-- The name of a member is the text of its key. -/
def toJson : Value → Except Failure Json
  | .null => .ok .null
  | .bool value => .ok (.bool value)
  | .int value => .ok (.int value)
  | .double value => .ok (.double value)
  | .text _ content => .ok (.text content)
  | .list elements => do return .array (← elementsToJson elements)
  | .map _ entries => do return .object (← entriesToJson [] entries)
  | .date content => .ok (.text content)

def elementsToJson : List Value → Except Failure (List Json)
  | [] => .ok []
  | value :: rest => do
    let first ← toJson value
    return first :: (← elementsToJson rest)

def entriesToJson (members : List (String × Json)) :
    List (Value × Value) → Except Failure (List (String × Json))
  | [] => .ok members
  | (key, value) :: rest => do
    let name ← key.format
    let content ← toJson value
    entriesToJson (Json.setMember name content members) rest

end

end Value
end CommonExpr

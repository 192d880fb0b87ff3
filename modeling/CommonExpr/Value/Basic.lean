import CommonExpr.Number.Basic

/-! The values of the language. Bytes are text under another name, and a struct is
a map that may carry the name of its type; equality, order and look-up see neither
difference. -/

namespace CommonExpr

inductive TextKind where
  | string
  | bytes
deriving DecidableEq, Repr

inductive MapKind where
  | plain
  | struct (name : Option String)
deriving DecidableEq, Repr

/-- A map holds its entries in the order in which their keys were first written. A
date stands for the values that the language can pass on but not look into. -/
inductive Value where
  | null
  | bool (value : Bool)
  | number (value : Number)
  | text (kind : TextKind) (content : String)
  | list (elements : List Value)
  | map (kind : MapKind) (entries : List (Value × Value))
  | date (content : String)

instance : Inhabited Value := ⟨.null⟩

namespace Value

@[match_pattern] abbrev int (value : Int) : Value := .number (.int value)

@[match_pattern] abbrev double (value : Double) : Value := .number (.double value)

@[match_pattern] abbrev string (content : String) : Value := .text .string content

@[match_pattern] abbrev bytes (content : String) : Value := .text .bytes content

/-- A struct whose type has no name, or an empty one, counts as a map. -/
def typeName : Value → String
  | .null => "null"
  | .bool _ => "bool"
  | .int _ => "int"
  | .double _ => "double"
  | .text .bytes _ => "bytes"
  | .text .string _ => "string"
  | .list _ => "list"
  | .map (.struct (some name)) _ => if name.isEmpty then "map" else name
  | .map _ _ => "map"
  | .date _ => "unknown"

def isNumber : Value → Bool
  | .number _ => true
  | _ => false

def isIntegral : Value → Bool
  | .int _ => true
  | _ => false

def isList : Value → Bool
  | .list _ => true
  | _ => false

def isMap : Value → Bool
  | .map _ _ => true
  | _ => false

end Value
end CommonExpr

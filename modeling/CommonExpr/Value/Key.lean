import CommonExpr.Value.Basic
import CommonExpr.Value.Moment

/-! Map keys. Two scalars are one key if they are numerically equal, where a bool
counts as zero or one, or have the same text, or are dates of one moment. Lists and
maps are no keys. What is not a number is found again only by the mark that it carries. -/

namespace CommonExpr

namespace Value

/-- The number that a key counts as. -/
def keyNumber? : Value → Option Number
  | .bool value => some (.int (if value then 1 else 0))
  | .number value => some value
  | _ => none

def keyEquals (left right : Value) : Bool :=
  match left.keyNumber?, right.keyNumber? with
  | some first, some second => first.equals second || first.sameMark second
  | none, none =>
    match left, right with
    | .null, .null => true
    | .text _ first, .text _ second => first == second
    | .date first, .date second => Moment.ofText first == Moment.ofText second
    | _, _ => false
  | _, _ => false

/-- Lists and maps cannot be keys. -/
def isScalar : Value → Bool
  | .list _ | .map _ _ => false
  | _ => true

end Value

namespace Entries

/-- The value under the first entry whose key is the given one. -/
def lookup? (key : Value) : List (Value × Value) → Option Value
  | [] => none
  | (stored, value) :: rest => if stored.keyEquals key then some value else lookup? key rest

def hasKey (key : Value) (entries : List (Value × Value)) : Bool :=
  (lookup? key entries).isSome

/-- A key that is there keeps its place and its first form, and takes the new value. -/
def insert (key value : Value) : List (Value × Value) → List (Value × Value)
  | [] => [(key, value)]
  | (stored, old) :: rest =>
    if stored.keyEquals key then (stored, value) :: rest else (stored, old) :: insert key value rest

def ofList (entries : List (Value × Value)) : List (Value × Value) :=
  entries.foldl (fun built (key, value) => insert key value built) []

end Entries
end CommonExpr

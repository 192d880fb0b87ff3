import CommonExpr.Document.Style
import CommonExpr.Tree.Outline
import CommonExpr.Value.Format

/-! Outlines as documents: a line for each scalar, and indentation for what is inside.
Only empty lists and records stand in brackets. -/

namespace CommonExpr.Document

/-- Doubles are always written with a point. -/
def doubleText : Double → String
  | .nan _ => ".nan"
  | .infinity negative => if negative then "-.inf" else ".inf"
  | value =>
    let text := value.text
    if text.contains '.' then text
    else String.ofList (text.toList.flatMap fun c => if c = 'e' then ['.', '0', 'e'] else [c])

def indentation (width : Nat) : String :=
  String.ofList (List.replicate width ' ')

/-- A scalar that starts at a column, inside lines that are indented. -/
def inlineText (column indent : Nat) : Outline → Except Failure String
  | .bool value => .ok (if value then "true" else "false")
  | .int value => integerText value
  | .double value => .ok (doubleText value)
  | .text content => .ok (scalarText true column indent content)
  | .list _ => .ok "[]"
  | .record _ => .ok "\x7b\x7d"
  | .null => .ok "null"

mutual

/-- The lines of a list, without the indentation of the first one. -/
def itemLines (indent : Nat) : List Outline → Except Failure String
  | [] => .ok ""
  | item :: rest => do
    let body ← match item with
      | .list (first :: others) => itemLines (indent + 2) (first :: others)
      | .record (first :: others) => memberLines (indent + 2) (first :: others)
      | scalar => (· ++ "\n") <$> inlineText (indent + 2) (indent + 2) scalar
    let further ← itemLines indent rest
    return "- " ++ body ++ (if rest.isEmpty then "" else indentation indent ++ further)

/-- The lines of a record, without the indentation of the first one. A list in a
record is not indented further. -/
def memberLines (indent : Nat) : List (String × Outline) → Except Failure String
  | [] => .ok ""
  | (name, content) :: rest => do
    let key := scalarText false indent indent name ++ ":"
    let body ← match content with
      | .list (first :: others) => ("\n" ++ indentation indent ++ ·) <$> itemLines indent (first :: others)
      | .record (first :: others) =>
        ("\n" ++ indentation (indent + 2) ++ ·) <$> memberLines (indent + 2) (first :: others)
      | scalar => (" " ++ · ++ "\n") <$> inlineText (indent + key.length + 1) (indent + 2) scalar
    let further ← memberLines indent rest
    return key ++ body ++ (if rest.isEmpty then "" else indentation indent ++ further)

end

/-- The document of a record. -/
def print (outline : Outline) : Except Failure String :=
  match outline with
  | .list (first :: rest) => itemLines 0 (first :: rest)
  | .record (first :: rest) => memberLines 0 (first :: rest)
  | scalar => (· ++ "\n") <$> inlineText 0 2 scalar

end CommonExpr.Document

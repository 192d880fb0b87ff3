import CommonExpr.Document.Timestamp
import CommonExpr.Text.Quoted
import CommonExpr.Value.Format

/-! The form in which a value is shown to a programmer: text is quoted and escaped,
doubles keep their fraction, and dates name their parts. -/

namespace CommonExpr.Value

/-- A zone whose clocks are behind is shown as a day back and the rest of it. -/
def displayZone (ahead : Int) : String :=
  let back := if ahead < 0 then ["days=-1"] else []
  if ahead = 0 then "tzinfo=datetime.timezone.utc"
  else enclose "tzinfo=datetime.timezone(datetime.timedelta(" "))" (back ++ [s!"seconds={60 * ahead % 86400}"])

open Document in
/-- The parts of a date, without leading zeros. Seconds and their fraction are left out where nothing
but zeros would follow. -/
def displayDate (content : String) : String :=
  match Timestamp.ofText? content.toList with
  | some ⟨year, month, day, none⟩ => enclose "datetime.date(" ")" ([year, month, day].map toString)
  | some ⟨year, month, day, some ⟨hour, minute, second, microsecond, zone⟩⟩ =>
    let tail := if microsecond ≠ 0 then [second, microsecond] else if second ≠ 0 then [second] else []
    let parts := ([year, month, day, hour, minute] ++ tail).map toString
    enclose "datetime.datetime(" ")" (parts ++ (zone.map displayZone).toList)
  | none => content

def quotedText (kind : TextKind) (content : String) : String :=
  match kind with
  | .string => Text.quoted content
  | .bytes => "b" ++ Text.quoted content

mutual

def display : Value → Except Failure String
  | .null => .ok "None"
  | .bool value => .ok (if value then "True" else "False")
  | .int value => integerText value
  | .double value => .ok value.text
  | .text kind content => .ok (quotedText kind content)
  | .list elements => do return enclose "[" "]" (← displayElements elements)
  | .map kind entries => do return structName kind ++ enclose "\x7b" "\x7d" (← displayEntries entries)
  | .date content => .ok (displayDate content)

def displayElements : List Value → Except Failure (List String)
  | [] => .ok []
  | value :: rest => do
    let first ← display value
    return first :: (← displayElements rest)

def displayEntries : List (Value × Value) → Except Failure (List String)
  | [] => .ok []
  | (key, value) :: rest => do
    let first ← display key
    let second ← display value
    return (first ++ ": " ++ second) :: (← displayEntries rest)

end

end CommonExpr.Value

import CommonExpr.Text.Digit

/-! Sets of characters as runs of code points, and the notation of the tables that
list them: hexadecimal numbers, a hyphen between the first and the last of a run. -/

namespace CommonExpr.Text

structure Run where
  first : Nat
  last : Nat

def Run.contains (run : Run) (c : Char) : Bool :=
  run.first ≤ c.toNat && c.toNat ≤ run.last

def readHex (digits : String) : Nat :=
  ofDigits 16 (digits.toList.filterMap hexDigit?)

def readRun (item : String) : Run :=
  match item.splitOn "-" with
  | [first, last] => ⟨readHex first, readHex last⟩
  | _ => ⟨readHex item, readHex item⟩

/-- The items of a table, which stand between blanks on any number of lines. -/
def tableItems (table : String) : List String :=
  ((table.splitOn "\n").flatMap (·.splitOn " ")).filter (!·.isEmpty)

def readRuns (table : String) : List Run :=
  (tableItems table).map readRun

def inRuns (runs : List Run) (c : Char) : Bool :=
  runs.any (·.contains c)

end CommonExpr.Text

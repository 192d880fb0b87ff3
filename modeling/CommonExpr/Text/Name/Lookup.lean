import CommonExpr.Text.Name.Alias
import CommonExpr.Text.Name.Ancient
import CommonExpr.Text.Name.Letters
import CommonExpr.Text.Name.Pictures
import CommonExpr.Text.Name.Syllables
import CommonExpr.Text.Name.Symbols
import CommonExpr.Text.Name.Words

/-! Characters by name. A table of names lists entries between semicolons, in the order
of the code points. Ideographs and Korean syllables are not listed, since their names
follow from their code points. -/

namespace CommonExpr.Text.Name

/-- An entry names the character behind the one before it, or the one whose code point
is written behind an at sign. A digit says how many words are kept from the name
before; then the other words follow. A plus and a number stand for that many further
names, in each of which the number at the end is one higher. -/
inductive Entry where
  | name (code : Option Nat) (kept : Nat) (words : List String)
  | successors (count : Nat)

def fullWord (word : String) : String :=
  let letter (c : Char) : Nat := c.toNat - 'a'.toNat
  match word.toList with
  | [c] => if c.isLower then frequentWords.getD (letter c) word else word
  | [c, d] => if c.isLower then frequentWords.getD (26 + 26 * letter c + letter d) word else word
  | _ => word

def readNumber (digits : List Char) : Nat :=
  ofDigits 10 (digits.filterMap decimalDigit?)

/-- The kept words are counted in front of the first of the others. -/
def readWords (code : Option Nat) (first : String) (rest : List String) : Entry :=
  let word := String.ofList (first.toList.drop 1)
  let words := if word.isEmpty then rest else word :: rest
  .name code (readNumber (first.toList.take 1)) (words.map fullWord)

def readEntry (item : String) : Entry :=
  match tableItems item with
  | [] => .successors 0
  | first :: rest =>
    match first.toList, rest with
    | '@' :: digits, second :: others => readWords (some (readHex (String.ofList digits))) second others
    | '+' :: digits, _ => .successors (readNumber digits)
    | _, _ => readWords none first rest

/-- The number at the end of a word goes up by one and keeps its width. -/
def successor (word : String) : String :=
  let digits := (word.toList.reverse.takeWhile Char.isDigit).reverse
  let stem := word.toList.take (word.length - digits.length)
  let next := Nat.toDigits 10 (readNumber digits + 1)
  String.ofList (stem ++ List.replicate (digits.length - next.length) '0' ++ next)

/-- The names that follow a name, the last one last. -/
def successors : Nat → List String → List (List String)
  | 0, _ => []
  | count + 1, name =>
    let next := name.dropLast ++ (name.getLast?.map successor).toList
    next :: successors count next

/-- The code point of a name, given the entries of a table, the code point that comes
next, and the name before. -/
def find? (wanted : List String) : List String → Nat → List String → Option Nat
  | [], _, _ => none
  | item :: rest, next, before =>
    match readEntry item with
    | .name code kept words =>
      let code := code.getD next
      let name := before.take kept ++ words
      if name = wanted then some code else find? wanted rest (code + 1) name
    | .successors count =>
      let names := successors count before
      match names.findIdx? (· = wanted) with
      | some index => some (next + index)
      | none => find? wanted rest (next + count) (names.getLastD before)

def tables : List String :=
  [letters, symbols, syllables, ancient, pictures, aliases]

/-- Characters with names of a prefix, a hyphen and the code point. -/
def families : List (String × List Run) :=
  [("CJK COMPATIBILITY IDEOGRAPH-", readRuns "F900-FA6D FA70-FAD9 2F800-2FA1D"),
   ("KHITAN SMALL SCRIPT CHARACTER-", readRuns "18B00-18CD5"),
   ("NUSHU CHARACTER-", readRuns "1B170-1B2FB")]

/-- What follows a prefix. -/
def after? (start name : String) : Option (List Char) :=
  if start.toList.isPrefixOf name.toList then some (name.toList.drop start.length) else none

/-- The code point that capital hexadecimal digits write. -/
def readCode? (digits : List Char) : Option Nat := do
  if digits.any Char.isLower then none
  return ofDigits 16 (← digits.mapM hexDigit?)

/-- A code point among some, which is written without leading zeros beyond four digits. -/
def member? (runs : List Run) (digits : List Char) : Option Nat := do
  if digits.length < 4 ∨ (4 < digits.length ∧ digits.head? = some '0') then none
  let code ← readCode? digits
  if runs.any fun run => run.first ≤ code ∧ code ≤ run.last then some code else none

def ideographs : List Run :=
  readRuns "3400-4DBF 4E00-9FFF 20000-2A6DF 2A700-2B738 2B740-2B81D 2B820-2CEA1 2CEB0-2EBE0 30000-3134A"

/-- A unified ideograph may be written with five digits whatever its code point. -/
def ideograph? (digits : List Char) : Option Nat := do
  if digits.length ≠ 4 ∧ digits.length ≠ 5 then none
  let code ← readCode? digits
  if ideographs.any fun run => run.first ≤ code ∧ code ≤ run.last then some code else none

def initials : List String :=
  ["G", "GG", "N", "D", "DD", "R", "M", "B", "BB", "S", "SS", "", "J", "JJ", "C", "K", "T", "P", "H"]

def vowels : List String :=
  ["A", "AE", "YA", "YAE", "EO", "E", "YEO", "YE", "O", "WA", "WAE", "OE", "YO", "U", "WEO", "WE", "WI", "YU",
   "EU", "YI", "I"]

def finals : List String :=
  ["", "G", "GG", "GS", "N", "NJ", "NH", "D", "L", "LG", "LM", "LB", "LS", "LT", "LP", "LH", "M", "B", "BS", "S",
   "SS", "NG", "J", "C", "K", "T", "P", "H"]

/-- The place of the longest part that starts a text, and what follows it. -/
def longest? (parts : List String) (characters : List Char) : Option (Nat × List Char) :=
  let starting := parts.zipIdx.filter fun (part, _) => part.toList.isPrefixOf characters
  let best := starting.foldl (fun best next => if best.all (·.1.length < next.1.length) then some next else best) none
  best.map fun (part, index) => (index, characters.drop part.length)

/-- A Korean syllable is spelt by an initial, a vowel and a final. -/
def syllable? (spelling : List Char) : Option Nat := do
  let (initial, rest) ← longest? initials spelling
  let (vowel, rest) ← longest? vowels rest
  let (final, rest) ← longest? finals rest
  if rest.isEmpty then some (0xAC00 + (initial * vowels.length + vowel) * finals.length + final) else none

/-- The code point of the character with a name. Letter case does not matter, except in
the names of unified ideographs and Korean syllables. -/
def codePoint? (name : String) : Option Nat :=
  match after? "HANGUL SYLLABLE " name, after? "CJK UNIFIED IDEOGRAPH-" name with
  | some spelling, _ => syllable? spelling
  | none, some digits => ideograph? digits
  | none, none =>
    let capitals := name.map Char.toUpper
    let inFamily := families.findSome? fun (start, runs) => (after? start capitals).bind (member? runs)
    inFamily.or (tables.findSome? fun table => find? (capitals.splitOn " ") (table.splitOn ";") 0 [])

end CommonExpr.Text.Name

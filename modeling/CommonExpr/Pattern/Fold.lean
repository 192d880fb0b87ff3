import CommonExpr.Pattern.Basic
import CommonExpr.Text.Blank
import CommonExpr.Text.Case
import CommonExpr.Text.Word

/-! Which characters a literal or a set matches, with letter case respected or not. -/

namespace CommonExpr.Pattern

/-- Lower-case letters that share an upper form. -/
def siblingGroups : List (List Nat) :=
  [[0x69, 0x131], [0x73, 0x17F], [0xB5, 0x3BC], [0x345, 0x3B9, 0x1FBE], [0x390, 0x1FD3], [0x3B0, 0x1FE3],
   [0x3B2, 0x3D0], [0x3B5, 0x3F5], [0x3B8, 0x3D1], [0x3BA, 0x3F0], [0x3C0, 0x3D6], [0x3C1, 0x3F1],
   [0x3C2, 0x3C3], [0x3C6, 0x3D5], [0x432, 0x1C80], [0x434, 0x1C81], [0x43E, 0x1C82], [0x441, 0x1C83],
   [0x442, 0x1C84, 0x1C85], [0x44A, 0x1C86], [0x463, 0x1C87], [0x1C88, 0xA64B], [0x1E61, 0x1E9B],
   [0xFB05, 0xFB06]]

/-- The first character of a form, for code points that are characters. -/
def formCode (form : Char → List Char) (code : Nat) : Nat :=
  if code.isValidChar then ((form (Char.ofNat code)).head?.map Char.toNat).getD code else code

def lowerCode (ascii : Bool) (code : Nat) : Nat :=
  if ascii && 128 ≤ code then code else formCode Text.lowerForm code

def upperCode (ascii : Bool) (code : Nat) : Nat :=
  if ascii && 128 ≤ code then code else formCode Text.upperForm code

def isCased (ascii : Bool) (code : Nat) : Bool :=
  lowerCode ascii code != code || upperCode ascii code != code

/-- Whether a run of code points has a character with another form. -/
def anyCased (ascii : Bool) (first last : Nat) : Bool :=
  if ascii then (first ≤ 0x5A && 0x41 ≤ last) || (first ≤ 0x7A && 0x61 ≤ last)
  else (Text.lowerRules ++ Text.upperRules).any (·.meets first last)

/-- A lower-case letter and the others that share its upper form. -/
def siblings (ascii : Bool) (lower : Nat) : List Nat :=
  if ascii then [lower] else (siblingGroups.find? (·.contains lower)).getD [lower]

/-- The code points whose lower form is the given one. -/
def origins (ascii : Bool) (lower : Nat) : List Nat :=
  if ascii then [lower, upperCode true lower] else lower :: Text.lowerRules.filterMap (·.origin? lower)

def literalMatches (flags : Flags) (code : Nat) (c : Char) : Bool :=
  if flags.ignoreCase && isCased flags.ascii code then
    (siblings flags.ascii (lowerCode flags.ascii code)).contains (lowerCode flags.ascii c.toNat)
  else c.toNat == code

def Category.contains (ascii : Bool) (kind : Category) (code : Nat) : Bool :=
  let c := Char.ofNat code
  match ascii, kind with
  | true, .digit => c.isDigit
  | true, .space => code == 32 || (9 ≤ code && code ≤ 13)
  | true, .word => c.isAlphanum || c == '_'
  | false, .digit => (Text.decimalDigit? c).isSome
  | false, .space => Text.isBlank c
  | false, .word => Text.isWord c

def inRange (first last code : Nat) : Bool :=
  first ≤ code && code ≤ last

/-- Whether an item of a set matches. When case is ignored, a range matches what
shares its lower form with a member; beyond the first 65536 code points only the
character itself and its other form are looked for. -/
def SetItem.admits (flags : Flags) (item : SetItem) (code : Nat) : Bool :=
  let ascii := flags.ascii
  let lower := lowerCode ascii code
  match item, flags.ignoreCase with
  | .literal member, false => code == member
  | .range first last, false => inRange first last code
  | .category kind negated, false => kind.contains ascii code != negated
  | .literal member, true =>
    let low := lowerCode ascii member
    if 0xFFFF < low then lower == member else (siblings ascii low).contains lower
  | .range first last, true =>
    ((siblings ascii lower).any fun sibling =>
      (origins ascii sibling).any fun origin => origin ≤ 0xFFFF && inRange first last origin)
    || (0xFFFF < last && (inRange first last lower || inRange first last (upperCode false lower)))
  | .category kind negated, true => kind.contains ascii lower != negated

/-- Whether letter case can make a difference to an item of a set. -/
def SetItem.isCased (ascii : Bool) : SetItem → Bool
  | .literal code => Pattern.isCased ascii code
  | .range first last => 0xFFFF < last || anyCased ascii first last
  | .category _ _ => false

def setMatches (flags : Flags) (negated : Bool) (items : List SetItem) (c : Char) : Bool :=
  match items with
  | [.literal code] => literalMatches flags code c != negated
  | _ => items.any (·.admits flags c.toNat) != negated

end CommonExpr.Pattern

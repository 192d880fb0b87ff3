import CommonExpr.Double.Arithmetic

/-! The numbers of the language: integers of any size, and doubles. They are
compared by their exact values, whatever their kinds. -/

namespace CommonExpr

inductive Number where
  | int (value : Int)
  | double (value : Double)
deriving DecidableEq

/-- A place on the line of the rational numbers with both ends. -/
inductive Extent where
  | below
  | point (value : Rat)
  | above

/-- Where a rational number lies relative to another. -/
def compareRat (left right : Rat) : Ordering :=
  if left < right then .lt else if right < left then .gt else .eq

def Extent.compare : Extent → Extent → Ordering
  | .below, .below | .above, .above => .eq
  | .below, _ | _, .above => .lt
  | .above, _ | _, .below => .gt
  | .point left, .point right => compareRat left right

namespace Number

/-- The exact value; what is not a number has none. -/
def extent? : Number → Option Extent
  | .int value => some (.point value)
  | .double (.nan _) => none
  | .double (.infinity negative) => some (if negative then .below else .above)
  | .double value@(.finite ..) => value.toRat?.map .point

def compare? (left right : Number) : Option Ordering :=
  match left.extent?, right.extent? with
  | some first, some second => some (first.compare second)
  | _, _ => none

/-- What is not a number is equal to nothing. -/
def equals (left right : Number) : Bool :=
  left.compare? right == some .eq

/-- Whether two values that are no numbers carry the same mark. -/
def sameMark : Number → Number → Bool
  | .double (.nan (some first)), .double (.nan (some second)) => first == second
  | _, _ => false

def isNaN : Number → Bool
  | .double (.nan _) => true
  | _ => false

/-- Whether a number is zero, of either sign. -/
def isZero : Number → Bool
  | .int value => value == 0
  | .double value => value.isZero

/-- An integer that is too big for a double has no place in the arithmetic of doubles. -/
def toDouble? : Number → Option Double
  | .int value => Double.ofInt? value
  | .double value => some value

/-- Two integers are combined exactly, any other pair as doubles. -/
def combine (exact : Int → Int → Int) (rounded : Double → Double → Double) (left right : Number) :
    Option Number :=
  match left, right with
  | .int first, .int second => some (.int (exact first second))
  | _, _ => do
    let first ← left.toDouble?
    let second ← right.toDouble?
    return .double (rounded first second)

def add? : Number → Number → Option Number :=
  combine (· + ·) Double.add

def subtract? : Number → Number → Option Number :=
  combine (· - ·) Double.subtract

def multiply? : Number → Number → Option Number :=
  combine (· * ·) Double.multiply

/-- The quotient of two integers is rounded once, from its exact value. -/
def divide? (left right : Number) : Option Double :=
  match left, right with
  | .int first, .int second =>
    match Double.nearest (decide (first < 0) != decide (second < 0)) first.natAbs second.natAbs with
    | .infinity _ => none
    | quotient => some quotient
  | _, _ => do
    let first ← left.toDouble?
    let second ← right.toDouble?
    return first.divide second

def negate : Number → Number
  | .int value => .int (-value)
  | .double value => .double value.negate

def absolute : Number → Number
  | .int value => .int value.natAbs
  | .double value => .double value.absolute

end Number
end CommonExpr

import CommonExpr.Text.Digit

/-! Dates as documents write them, alone or with a time of day, which may have a
fraction of a second and a time zone. -/

namespace CommonExpr.Document

/-- The zone is how many minutes a clock is ahead there. -/
structure TimeOfDay where
  hour : Nat
  minute : Nat
  second : Nat
  microsecond : Nat
  zone : Option Int
deriving DecidableEq, Repr

structure Timestamp where
  year : Nat
  month : Nat
  day : Nat
  time : Option TimeOfDay
deriving DecidableEq, Repr

/-- The number that some digits spell, and what stands behind them. -/
def takeDigits? (least most : Nat) (text : List Char) : Option (Nat × List Char) :=
  let digits := (text.take most).takeWhile Char.isDigit
  if least ≤ digits.length then
    some (Text.ofDigits 10 (digits.filterMap Text.hexDigit?), text.drop digits.length)
  else none

def dropChar? (c : Char) : List Char → Option (List Char)
  | d :: rest => if d = c then some rest else none
  | [] => none

def isBlankChar (c : Char) : Bool :=
  c == ' ' || c == '\t'

namespace TimeOfDay

/-- Nothing, or a zone, before which blanks may stand. -/
def readZone? (text : List Char) : Option (Option Int) := do
  if text.isEmpty then return none
  match text.dropWhile isBlankChar with
  | ['Z'] => return some 0
  | sign :: rest =>
    if sign ≠ '+' ∧ sign ≠ '-' then none
    let (hours, rest) ← takeDigits? 1 2 rest
    let (minutes, rest) ← if rest.isEmpty then some (0, []) else takeDigits? 2 2 (← dropChar? ':' rest)
    if !rest.isEmpty then none
    let ahead : Int := 60 * hours + minutes
    return some (if sign = '-' then -ahead else ahead)
  | [] => none

/-- The first six digits of a fraction. -/
def microseconds (fraction : List Char) : Nat :=
  let digits := fraction.take 6
  Text.ofDigits 10 (digits.filterMap Text.hexDigit?) * Nat.pow 10 (6 - digits.length)

def ofText? (text : List Char) : Option TimeOfDay := do
  let (hour, rest) ← takeDigits? 1 2 text
  let (minute, rest) ← takeDigits? 2 2 (← dropChar? ':' rest)
  let (second, rest) ← takeDigits? 2 2 (← dropChar? ':' rest)
  match rest with
  | '.' :: fraction =>
    let zone ← readZone? (fraction.dropWhile Char.isDigit)
    return ⟨hour, minute, second, microseconds (fraction.takeWhile Char.isDigit), zone⟩
  | _ => return ⟨hour, minute, second, 0, ← readZone? rest⟩

/-- No clock is a whole day ahead or behind. -/
def isValid (time : TimeOfDay) : Bool :=
  time.hour < 24 && time.minute < 60 && time.second < 60 && time.microsecond < 1000000
    && time.zone.all fun ahead => ahead.natAbs < 24 * 60

end TimeOfDay

def isLeapYear (year : Nat) : Bool :=
  year % 4 == 0 && (year % 100 != 0 || year % 400 == 0)

def daysIn (year month : Nat) : Nat :=
  if month = 2 then if isLeapYear year then 29 else 28
  else if month ∈ [4, 6, 9, 11] then 30
  else 31

/-- How many days of the calendar are over when a month begins. -/
def daysBefore (year month : Nat) : Nat :=
  let past := year - 1
  365 * past + past / 4 - past / 100 + past / 400 +
    (List.range' 1 (month - 1)).foldl (fun days month => days + daysIn year month) 0

namespace Timestamp

/-- A time of day stands behind a letter t or blanks. -/
def ofText? (text : List Char) : Option Timestamp := do
  let (year, rest) ← takeDigits? 4 4 text
  let (month, rest) ← takeDigits? 1 2 (← dropChar? '-' rest)
  let (day, rest) ← takeDigits? 1 2 (← dropChar? '-' rest)
  match rest with
  | [] => return ⟨year, month, day, none⟩
  | mark :: rest =>
    if mark = 't' ∨ mark = 'T' then return ⟨year, month, day, ← TimeOfDay.ofText? rest⟩
    if isBlankChar mark then return ⟨year, month, day, ← TimeOfDay.ofText? (rest.dropWhile isBlankChar)⟩
    none

/-- Whether the day is in the calendar, and the time on the clock. -/
def isValid (stamp : Timestamp) : Bool :=
  1 ≤ stamp.year && stamp.year < 10000 && 1 ≤ stamp.month && stamp.month ≤ 12 && 1 ≤ stamp.day
    && stamp.day ≤ daysIn stamp.year stamp.month && stamp.time.all (·.isValid)

/-- The moment that a date with a zone names, in microseconds since the calendar began where no
clock is ahead. -/
def instant? (stamp : Timestamp) : Option Int := do
  let time ← stamp.time
  let ahead ← time.zone
  let hours := 24 * (daysBefore stamp.year stamp.month + stamp.day - 1) + time.hour
  let seconds : Int := 60 * (60 * hours + time.minute - ahead) + time.second
  return 1000000 * seconds + time.microsecond

def padded (width value : Nat) : String :=
  String.ofList (List.leftpad width '0' (Nat.toDigits 10 value))

/-- A sign, hours and minutes. -/
def zoneText (ahead : Int) : String :=
  let sign := if ahead < 0 then "-" else "+"
  s!"{sign}{padded 2 (ahead.natAbs / 60)}:{padded 2 (ahead.natAbs % 60)}"

def timeText (time : TimeOfDay) : String :=
  let fraction := if time.microsecond = 0 then "" else "." ++ padded 6 time.microsecond
  let zone := (time.zone.map zoneText).getD ""
  s!"{padded 2 time.hour}:{padded 2 time.minute}:{padded 2 time.second}{fraction}{zone}"

/-- Digits fill the width of their places, and a time of day stands behind a blank. -/
def text (stamp : Timestamp) : String :=
  let date := s!"{padded 4 stamp.year}-{padded 2 stamp.month}-{padded 2 stamp.day}"
  match stamp.time with
  | some time => date ++ " " ++ timeText time
  | none => date

end Timestamp
end CommonExpr.Document

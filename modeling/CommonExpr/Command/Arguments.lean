/-! The arguments of a command line: switches, which start with a hyphen and may take
a value, and words. -/

namespace CommonExpr.Command

/-- A switch has a name behind two hyphens, and perhaps a letter behind one. Its value,
if it takes one, is shown by a word that stands for it. -/
structure Switch where
  name : String
  letter : Option Char := none
  value : Option String := none
  about : String
deriving DecidableEq, Repr

namespace Switch

def takesValue (switch : Switch) : Bool :=
  switch.value.isSome

/-- A switch as it is written on a command line. -/
def shown (switch : Switch) : String :=
  let letter := (switch.letter.map fun letter => s!"-{letter}, ").getD ""
  letter ++ "--" ++ switch.name ++ (switch.value.map (" " ++ ·)).getD ""

end Switch

/-- Switches with their values in the order in which they were given, and the words. -/
structure Arguments where
  switches : List (String × String)
  words : List String
deriving DecidableEq, Repr

namespace Arguments

def withSwitch (name value : String) (arguments : Arguments) : Arguments :=
  { arguments with switches := (name, value) :: arguments.switches }

def withWord (word : String) (arguments : Arguments) : Arguments :=
  { arguments with words := word :: arguments.words }

/-- How an argument that starts with a hyphen is understood: as switches with their
values, or as one switch whose value is the next argument. -/
inductive Understood where
  | complete (switches : List (String × String))
  | pending (name : String)
deriving DecidableEq, Repr

/-- A name with two hyphens stands alone or is joined to its value by an equals sign. -/
def understandName (switches : List Switch) (name : List Char) (value? : Option String) : Option Understood := do
  let switch ← switches.find? (·.name = String.ofList name)
  match switch.takesValue, value? with
  | true, some value => return .complete [(switch.name, value)]
  | true, none => return .pending switch.name
  | false, none => return .complete [(switch.name, "")]
  | false, some _ => none

/-- Letters behind one hyphen are switches without values. -/
def understandLetters (switches : List Switch) (letters : List Char) : Option Understood := do
  return .complete (← letters.mapM fun letter => do
    let switch ← switches.find? (·.letter = some letter)
    return (switch.name, ""))

def understand (switches : List Switch) : List Char → Option Understood
  | '-' :: '-' :: body =>
    let value? := if '=' ∈ body then some (String.ofList ((body.dropWhile (· != '=')).drop 1)) else none
    understandName switches (body.takeWhile (· != '=')) value?
  | '-' :: letters => understandLetters switches letters
  | _ => none

/-- Reads arguments. Two hyphens alone end the switches, and a lone hyphen is a word.
Unless words may be mixed with switches, the first word ends the switches too. A
switch that is not known, or that lacks its value, is an error. -/
def read (switches : List Switch) (mixed : Bool) : List String → Option Arguments
  | [] => some ⟨[], []⟩
  | argument :: rest =>
    if argument = "--" then some ⟨[], rest⟩
    else if argument.startsWith "-" && argument != "-" then
      match understand switches argument.toList with
      | none => none
      | some (.complete given) =>
        (read switches mixed rest).map fun arguments =>
          { arguments with switches := given ++ arguments.switches }
      | some (.pending name) =>
        match rest with
        | [] => none
        | value :: others => (read switches mixed others).map (withSwitch name value)
    else if mixed then (read switches mixed rest).map (withWord argument)
    else some ⟨[], argument :: rest⟩

/-- All values given for a switch. -/
def values (arguments : Arguments) (name : String) : List String :=
  (arguments.switches.filter (·.1 = name)).map (·.2)

def has (arguments : Arguments) (name : String) : Bool :=
  !(arguments.values name).isEmpty

/-- The value that was given last. -/
def value? (arguments : Arguments) (name : String) : Option String :=
  (arguments.values name).getLast?

end Arguments
end CommonExpr.Command

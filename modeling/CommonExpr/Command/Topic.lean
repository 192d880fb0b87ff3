import CommonExpr.Command.Arguments
import CommonExpr.Registry.Definition

/-! What each command takes and what it does, and the page of help that shows it. -/

namespace CommonExpr.Command

/-- The program as a whole, and its commands. -/
inductive Topic where
  | program
  | evaluate
  | check
  | inspect
  | tokens
  | tree
  | functions
deriving DecidableEq, Repr

/-- The categories that hold standard functions, in the order of their names. -/
def listedCategories : List Category :=
  [.collection, .conversion, .math, .string]

/-- Every command has this switch. -/
def helpSwitch : Switch where
  name := "help"
  about := "Show this message and exit."

namespace Topic

def path : Topic → List String
  | .program => ["cli"]
  | .evaluate => ["cli", "eval"]
  | .check => ["cli", "check"]
  | .inspect => ["cli", "inspect"]
  | .tokens => ["cli", "inspect", "tokens"]
  | .tree => ["cli", "inspect", "ast"]
  | .functions => ["cli", "inspect", "functions"]

def about : Topic → String
  | .program => "libcel: evaluate and inspect CEL expressions."
  | .evaluate => "Evaluate EXPRESSION and print the result."
  | .check => "Check that EXPRESSION parses."
  | .inspect => "Inspect how expressions are tokenized and parsed."
  | .tokens => "Print the token stream of EXPRESSION."
  | .tree => "Print the syntax tree of EXPRESSION as YAML."
  | .functions => "List the standard functions and methods."

/-- The commands that are called by a word behind this one. -/
def commands : Topic → List (String × Topic)
  | .program => [("check", .check), ("eval", .evaluate), ("inspect", .inspect)]
  | .inspect => [("ast", .tree), ("functions", .functions), ("tokens", .tokens)]
  | _ => []

def operands : Topic → List String
  | .program | .inspect => ["COMMAND", "[ARGS]..."]
  | .functions => []
  | _ => ["EXPRESSION"]

def switches : Topic → List Switch
  | .program => [{ name := "verbose", letter := some 'v', about := "Enable debug logging." }]
  | .evaluate =>
    [{ name := "var", value := some "NAME=VALUE", about := "Bind a variable; VALUE is parsed as YAML (repeatable)." },
     { name := "bindings", value := some "FILE", about := "YAML or JSON file holding a mapping of variable bindings." },
     { name := "json", about := "Print the result as JSON." }]
  | .functions =>
    [{ name := "category", value := some ("[" ++ "|".intercalate (listedCategories.map Category.name) ++ "]"),
       about := "Only list functions in this category." }]
  | _ => []

/-- Where a topic holds commands, the first word is one of them and ends the switches. -/
def read (topic : Topic) (line : List String) : Option Arguments :=
  Arguments.read (topic.switches ++ [helpSwitch]) topic.commands.isEmpty line

/-- The widest that the first column of a page may be. -/
def columnLimit : Nat := 30

/-- Two columns with two blanks between them. An entry that is too wide for the first
column has a line of its own. -/
def columns (rows : List (String × String)) : String :=
  let width := min columnLimit (rows.foldl (fun widest row => max widest row.1.length) 0)
  let blanks (count : Nat) := String.ofList (List.replicate count ' ')
  String.join (rows.map fun (entry, text) =>
    let gap := if entry.length ≤ width then blanks (width + 2 - entry.length) else "\n" ++ blanks (width + 4)
    "  " ++ entry ++ gap ++ text ++ "\n")

def block (title : String) (rows : List (String × String)) : String :=
  if rows.isEmpty then "" else s!"\n{title}:\n{columns rows}"

/-- The page of help: how a command is called, what it does, its switches, and the
commands in it. -/
def page (topic : Topic) : String :=
  let usage := " ".intercalate (topic.path ++ "[OPTIONS]" :: topic.operands)
  let options := (topic.switches ++ [helpSwitch]).map fun switch => (switch.shown, switch.about)
  s!"Usage: {usage}\n\n  {topic.about}\n" ++ block "Options" options
    ++ block "Commands" (topic.commands.map fun (name, command) => (name, command.about))

end Topic
end CommonExpr.Command

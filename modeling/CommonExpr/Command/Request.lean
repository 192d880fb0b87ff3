import CommonExpr.Command.Topic

/-! What a command line asks for. -/

namespace CommonExpr.Command

inductive Request where
  | evaluate (expression : String) (assignments : List String) (bindings : Option String) (asJson : Bool)
  | check (expression : String)
  | showTokens (expression : String)
  | showTree (expression : String)
  | showFunctions (category : Option Category)
  | showHelp (topic : Topic)
deriving DecidableEq, Repr

structure Invocation where
  verbose : Bool
  request : Request
deriving DecidableEq, Repr

namespace Request

/-- Reads the arguments of a command. Where they ask for help, nothing else about them
matters. -/
def orHelp (topic : Topic) (line : List String) (request : Arguments → Option Request) : Option Request := do
  let arguments ← topic.read line
  if arguments.has helpSwitch.name then return .showHelp topic
  request arguments

/-- The only word among the arguments. -/
def onlyWord (arguments : Arguments) : Option String :=
  match arguments.words with
  | [word] => some word
  | _ => none

/-- The file of bindings has to exist. -/
def evaluation (fileExists : String → Bool) (arguments : Arguments) : Option Request := do
  let bindings := arguments.value? "bindings"
  if !bindings.all fileExists then none
  return .evaluate (← onlyWord arguments) (arguments.values "var") bindings (arguments.has "json")

def functionList (arguments : Arguments) : Option Request := do
  if !arguments.words.isEmpty then none
  match arguments.value? "category" with
  | none => return .showFunctions none
  | some name => return .showFunctions (some (← listedCategories.find? (·.name = name)))

/-- The request of a command that holds no others. -/
def ofArguments (fileExists : String → Bool) (topic : Topic) (arguments : Arguments) : Option Request :=
  match topic with
  | .evaluate => evaluation fileExists arguments
  | .check => (onlyWord arguments).map .check
  | .tokens => (onlyWord arguments).map .showTokens
  | .tree => (onlyWord arguments).map .showTree
  | .functions => functionList arguments
  | .program | .inspect => none

/-- The command that the first word calls, and the arguments for it. -/
def called (topic : Topic) (arguments : Arguments) : Option (Topic × List String) := do
  match arguments.words with
  | name :: rest => return (← topic.commands.lookup name, rest)
  | [] => none

/-- What the words behind the program's own switches ask for. -/
def read (fileExists : String → Bool) (topic : Topic) (line : List String) : Option Request :=
  orHelp topic line fun arguments =>
    match topic with
    | .inspect => do
      let (command, rest) ← called topic arguments
      orHelp command rest (ofArguments fileExists command)
    | _ => ofArguments fileExists topic arguments

end Request

/-- Nothing if the command line is not used as it should be. -/
def Invocation.read (fileExists : String → Bool) (line : List String) : Option Invocation := do
  let arguments ← Topic.program.read line
  let request ←
    if arguments.has helpSwitch.name then some (.showHelp .program)
    else do
      let (command, rest) ← Request.called .program arguments
      Request.read fileExists command rest
  return ⟨arguments.has "verbose", request⟩

end CommonExpr.Command

import CommonExpr.Command.Request
import CommonExpr.Document.Content
import CommonExpr.Document.Printer
import CommonExpr.Json.Printer
import CommonExpr.Program
import CommonExpr.Token.Listing

/-! What the commands print. -/

namespace CommonExpr.Command

/-- What a command wrote, and the code that it ended with. -/
structure Report where
  exitCode : Nat
  output : String
  errors : String
deriving DecidableEq, Repr

/-- Why a command ended without a report. -/
inductive Interruption where
  | usage
  | document (problem : Document.Problem)
  | broken (cause : Breakdown)
deriving DecidableEq

/-- Drops the control sequences that set the colours of a terminal: an escape, a left
bracket, and what follows up to a letter. `pending` holds the start of what may be
such a sequence, the last character first. -/
def dropColours (pending : List Char) : List Char → List Char
  | [] => pending.reverse
  | c :: rest =>
    match pending with
    | [] => if c = '\x1b' then dropColours [c] rest else c :: dropColours [] rest
    | [escape] =>
      if c = '[' then dropColours [c, escape] rest
      else if c = '\x1b' then escape :: dropColours [c] rest
      else escape :: c :: dropColours [] rest
    | _ =>
      if c.isAlpha then dropColours [] rest
      else if c.isDigit || c == ';' || c == '?' then dropColours (c :: pending) rest
      else if c = '\x1b' then pending.reverse ++ dropColours [c] rest
      else pending.reverse ++ c :: dropColours [] rest

/-- Text without what sets the colours of a terminal. -/
def plainText (text : String) : String :=
  String.ofList (dropColours [] text.toList)

/-- Every line break of two characters as one line feed. -/
def lineFeeds : List Char → List Char
  | '\r' :: '\n' :: rest => '\n' :: lineFeeds rest
  | c :: rest => c :: lineFeeds rest
  | [] => []

def Report.success (output : String) : Report :=
  ⟨0, plainText output, ""⟩

def Report.failure (message : String) : Report :=
  ⟨1, "", plainText message ++ "\n"⟩

def Report.withLineFeeds (report : Report) : Report :=
  let withFeeds (text : String) := String.ofList (lineFeeds text.toList)
  { report with output := withFeeds report.output, errors := withFeeds report.errors }

/-- A command ends early with a report of what went wrong, or without one. -/
abbrev Outcome := ExceptT Report (Except Interruption)

def interrupt (cause : Interruption) : Outcome α :=
  ExceptT.mk (.error cause)

def fail (message : String) : Outcome α :=
  throw (.failure message)

/-- The value of an operation that can only break down. -/
def orBreakdown : Except Failure α → Outcome α
  | .ok value => return value
  | .error (.broken cause) => interrupt (.broken cause)
  | .error failure => fail s!"{failure.name}: {failure.message}"

/-- Errors of syntax are shown under a given name, or under their own. -/
def orSyntaxError (name? : Option String) : Except ParseFailure α → Outcome α
  | .ok value => return value
  | .error (.invalid error) => fail s!"{name?.getD error.name}: {error.message}"
  | .error (.broken cause) => interrupt (.broken cause)

/-- What a document stands for, given its text. -/
abbrev DocumentReader := String → Except Document.Problem Value

section Readers
variable (readDocument : DocumentReader)

/-- The bindings that a file holds. Keys that are no text bind nothing. -/
def fileBindings (file text : String) : Outcome (List (String × Value)) := do
  match readDocument text with
  | .error problem => interrupt (.document problem)
  | .ok .null => return []
  | .ok (.map _ entries) =>
    return entries.filterMap fun
      | (.text _ name, value) => some (name, value)
      | _ => none
  | .ok _ => fail s!"Error: bindings file {file} must contain a mapping"

/-- A name and a document with its value, joined by an equals sign. A value that is
left out is the empty text. -/
def assignment (text : String) : Outcome (String × Value) := do
  let characters := text.toList
  let name := String.ofList (characters.takeWhile (· != '='))
  let bound := Text.trim name
  if '=' ∉ characters ∨ bound.isEmpty then fail s!"Error: invalid --var '{text}', expected NAME=VALUE"
  let raw := String.ofList ((characters.dropWhile (· != '=')).drop 1)
  if raw.isEmpty then return (bound, .string "")
  match readDocument raw with
  | .ok value => return (bound, value)
  | .error problem =>
    if problem.isReported then fail s!"Error: cannot parse value for '{name}'" else interrupt (.document problem)

/-- Assignments win over the file. -/
def loadBindingsWith (file : Option (String × String)) (assignments : List String) : Outcome Bindings := do
  let fromFile ← match file with
    | some (name, text) => fileBindings readDocument name text
    | none => pure []
  return .ofList (fromFile ++ (← assignments.mapM (assignment readDocument)))

end Readers

def loadBindings : Option (String × String) → List String → Outcome Bindings :=
  loadBindingsWith Document.read

def runEvaluate (verbose : Bool) (expression : String) (bindings : Bindings) (asJson : Bool) : Outcome Report := do
  let program ← orSyntaxError none (Program.compile expression)
  let log := if verbose then s!"DEBUG libcel.program: Compiled expression: {expression}\n" else ""
  let logged (report : Report) : Report := { report with errors := log ++ report.errors }
  tryCatchThe Report
    (do
      let value ← orBreakdown (program.evaluate bindings)
      let text ← orBreakdown (if asJson then value.toJson >>= Json.render else value.format)
      return logged (.success (text ++ "\n")))
    (throw ∘ logged)

/-- A name and a description, one line each. -/
def describe (definition : Definition) : String :=
  s!"{definition.signature}\n    {definition.description}\n"

/-- Functions come before methods, and names in order. -/
def listFunctions (category : Option Category) : String :=
  let registries := Registries.standard
  let definitions := match category with
    | none => registries.listAll 0
    | some category => registries.listByCategory 0 category
  let inOrder (first second : Definition) : Bool :=
    if first.method = second.method then first.name ≤ second.name else !first.method
  String.join ((definitions.mergeSort inOrder).map describe)

def runRequestWith (readDocument : DocumentReader) (readFile : String → Option String) (verbose : Bool) :
    Request → Outcome Report
  | .evaluate expression assignments file asJson => do
    let bindings ← loadBindingsWith readDocument (file.bind fun name => (readFile name).map (name, ·)) assignments
    runEvaluate verbose expression bindings asJson
  | .check expression => do
    let _ ← orSyntaxError (some "ParseError") (Expr.parse expression {})
    return .success "OK\n"
  | .showTokens expression =>
    match (Lexer.ofSource expression).tokenize.1 with
    | .ok tokens => return .success (String.join (tokens.map (·.listing ++ "\n")))
    | .error failure => fail s!"LexerError: {failure.toSyntaxError.message}"
  | .showTree expression => do
    let tree ← orSyntaxError (some "ParseError") (Expr.parse expression {})
    return .success (← orBreakdown (Document.print tree.outline))
  | .showFunctions category => return .success (listFunctions category)
  | .showHelp topic => return .success topic.page

def runRequest : (String → Option String) → Bool → Request → Outcome Report :=
  runRequestWith Document.read

/-- Runs a command line, given the text of each file that exists. -/
def run (readFile : String → Option String) (line : List String) : Except Interruption Report :=
  match Invocation.read (fun name => (readFile name).isSome) line with
  | none => .error .usage
  | some invocation => do
    match ← (runRequest readFile invocation.verbose invocation.request).run with
    | .ok report | .error report => return report.withLineFeeds

end CommonExpr.Command

import CommonExpr.Command.Run

/-! The command line program: it reads the files that its arguments name, runs the
command on their texts, and writes what the command answers. -/

namespace CommonExpr.Command

/-- The texts of the files among some names. -/
def readFiles (names : List String) : IO (List (String × String)) :=
  names.filterMapM fun (name : String) => do
    try return some (name, ← IO.FS.readFile name) catch _ => return none

/-- What may name a file: an argument, or what is joined to a switch. -/
def candidateNames (line : List String) : List String :=
  line ++ line.map fun argument => String.ofList ((argument.toList.dropWhile (· != '=')).drop 1)

def Interruption.message : Interruption → String
  | .usage => Topic.program.page
  | .document _ => "Error: cannot read the document with the bindings"
  | .broken cause => s!"{cause.name}: {cause.message}"

end CommonExpr.Command

def main (line : List String) : IO UInt32 := do
  let files ← CommonExpr.Command.readFiles (CommonExpr.Command.candidateNames line)
  match CommonExpr.Command.run (fun name => files.lookup name) line with
  | .ok report =>
    IO.print report.output
    IO.eprint report.errors
    return report.exitCode.toUInt32
  | .error cause =>
    IO.eprintln cause.message
    return if cause = .usage then 2 else 1

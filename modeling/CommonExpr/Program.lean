import CommonExpr.Registry.Standard
import CommonExpr.Tree.Parser

/-! Programs: an expression read once, to be evaluated any number of times, each time
over bindings of its own. -/

namespace CommonExpr

/-- Why a source has no value. -/
inductive ProgramFailure where
  | parse (failure : ParseFailure)
  | evaluation (failure : Failure)
deriving DecidableEq, Repr

structure Program where
  source : String
  tree : Expr
  functions : Functions

/-- What a registry with the standard functions answers. -/
def standardFunctions : Functions :=
  Registries.standard.functions 0

namespace Program

def compile (source : String) (functions : Functions := standardFunctions) (limits : Limits := {}) :
    Except ParseFailure Program := do
  return ⟨source, ← Expr.parse source limits, functions⟩

def evaluate (program : Program) (bindings : Bindings) : Except Failure Value :=
  (program.tree.run program.functions bindings).1

/-- The value has to be a bool. -/
def evaluateBool (program : Program) (bindings : Bindings) : Except Failure Value := do
  match ← program.evaluate bindings with
  | .bool answer => return .bool answer
  | other => throw (.fault (.notBool other.typeName))

end Program

/-- Reads and evaluates a source in one step. -/
def evaluate (source : String) (bindings : Bindings) (functions : Functions := standardFunctions)
    (limits : Limits := {}) : Except ProgramFailure Value := do
  let program ← (Program.compile source functions limits).mapError .parse
  (program.evaluate bindings).mapError .evaluation

def evaluateBool (source : String) (bindings : Bindings) (functions : Functions := standardFunctions)
    (limits : Limits := {}) : Except ProgramFailure Value := do
  let program ← (Program.compile source functions limits).mapError .parse
  (program.evaluateBool bindings).mapError .evaluation

end CommonExpr

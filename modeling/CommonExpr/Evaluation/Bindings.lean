import CommonExpr.Failure
import CommonExpr.Value.Basic

/-! Bindings of names to values, and evaluation as a computation that may rebind
names, may mark what it makes, and may fail. A failure leaves the bindings as they
stood. -/

namespace CommonExpr

/-- Names in the order in which they were bound, each once. -/
structure Bindings where
  entries : List (String × Value)

namespace Bindings

def empty : Bindings := ⟨[]⟩

def get? (bindings : Bindings) (name : String) : Option Value :=
  bindings.entries.lookup name

def setEntry (name : String) (value : Value) : List (String × Value) → List (String × Value)
  | [] => [(name, value)]
  | (bound, old) :: rest =>
    if bound = name then (name, value) :: rest else (bound, old) :: setEntry name value rest

/-- A name that is bound keeps its place. -/
def set (bindings : Bindings) (name : String) (value : Value) : Bindings :=
  ⟨setEntry name value bindings.entries⟩

def erase (bindings : Bindings) (name : String) : Bindings :=
  ⟨bindings.entries.filter (·.1 != name)⟩

/-- Brings back what a name was bound to, or that it was not bound. -/
def restore (bindings : Bindings) (name : String) : Option Value → Bindings
  | some value => bindings.set name value
  | none => bindings.erase name

def ofList (entries : List (String × Value)) : Bindings :=
  entries.foldl (fun bindings (name, value) => bindings.set name value) empty

end Bindings

/-- What evaluation reads and changes: the bindings, and how many marks it has given
to results that are no numbers. -/
structure Scope where
  bindings : Bindings
  marksMade : Nat := 0

abbrev Evaluation := ExceptT Failure (StateM Scope)

namespace Evaluation

def fault (cause : Fault) : Evaluation α :=
  throw (.fault cause)

/-- What a name is bound to. -/
def lookup? (name : String) : Evaluation (Option Value) :=
  return (← get).bindings.get? name

/-- The outcome of an operation on values, which does not touch the scope. -/
def settle (outcome : Except Failure α) : Evaluation α :=
  ExceptT.mk (pure outcome)

/-- The outcome of an operation that computes a value. A result that is no number and
has no mark is new and gets one. -/
def produce (outcome : Except Failure Value) : Evaluation Value :=
  ExceptT.mk fun scope =>
    match outcome with
    | .ok (.double (.nan none)) =>
      (.ok (.double (.nan (some (.made scope.marksMade)))), { scope with marksMade := scope.marksMade + 1 })
    | outcome => (outcome, scope)

def assign (name : String) (value : Value) : Evaluation Unit :=
  modify fun scope => { scope with bindings := scope.bindings.set name value }

/-- Runs a computation and then brings back the given names, the last one first,
also after a failure. -/
def restoring (names : List String) (body : Evaluation α) : Evaluation α :=
  ExceptT.mk fun before =>
    let (outcome, after) := body.run before
    let restored := names.foldr (fun name bindings => bindings.restore name (before.bindings.get? name)) after.bindings
    (outcome, { after with bindings := restored })

/-- One step down into a tree, where the allowance has one left. Without an
allowance there is no end to the steps. -/
def within (allowance : Option Nat) (body : Option Nat → Evaluation α) : Evaluation α :=
  match allowance with
  | none => body none
  | some 0 => fault .nestedTooDeeply
  | some (left + 1) => body (some left)

end Evaluation
end CommonExpr

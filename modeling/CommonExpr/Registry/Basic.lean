import CommonExpr.Evaluation.Evaluate
import CommonExpr.Registry.Definition

/-! Registries of functions. Each one hands the names it does not know to its parent,
which may be another registry or anything else that answers calls. Registries are
kept side by side, so that what is registered with a parent later on is seen by its
children too. -/

namespace CommonExpr

inductive Parent where
  | none
  | registry (id : Nat)
  | host (functions : Functions)

/-- Functions and methods have tables of their own, in the order of registration. -/
structure Registry where
  parent : Parent
  functions : List Definition
  methods : List Definition

namespace Registry

def table (registry : Registry) (method : Bool) : List Definition :=
  if method then registry.methods else registry.functions

def find? (registry : Registry) (method : Bool) (name : String) : Option Definition :=
  (registry.table method).find? (·.name == name)

/-- A definition takes the place of one of the same name and kind, or comes last. -/
def place (definition : Definition) : List Definition → List Definition
  | [] => [definition]
  | first :: rest =>
    if first.name = definition.name ∧ first.method = definition.method then definition :: rest
    else first :: place definition rest

def register (registry : Registry) (definition : Definition) : Registry :=
  if definition.method then { registry with methods := place definition registry.methods }
  else { registry with functions := place definition registry.functions }

end Registry

/-- Registries by number. A parent is older than its children and has a lower number. -/
structure Registries where
  all : Array Registry

namespace Registries

def empty : Registries := ⟨#[]⟩

/-- The number of a new registry is how many there were before. -/
def create (registries : Registries) (parent : Parent) : Registries × Nat :=
  (⟨registries.all.push ⟨parent, [], []⟩⟩, registries.all.size)

def extend (registries : Registries) (id : Nat) : Registries × Nat :=
  registries.create (.registry id)

def register (registries : Registries) (id : Nat) (definition : Definition) : Registries :=
  ⟨registries.all.modify id (·.register definition)⟩

/-- Forgets what was registered, but not the parent. -/
def clear (registries : Registries) (id : Nat) : Registries :=
  ⟨registries.all.modify id fun registry => { registry with functions := [], methods := [] }⟩

/-- A definition registered with the registry itself. -/
def get? (registries : Registries) (id : Nat) (method : Bool) (name : String) : Option Definition :=
  (registries.all[id]?).bind (·.find? method name)

/-- Who answers a call. -/
inductive Resolution where
  | definition (definition : Definition)
  | host (functions : Functions)
  | missing

/-- The nearest definition of a name, from a registry on through its parents. -/
def resolve (registries : Registries) (method : Bool) (name : String) (id : Nat) : Resolution :=
  match registries.all[id]? with
  | none => .missing
  | some registry =>
    match registry.find? method name, registry.parent with
    | some definition, _ => .definition definition
    | none, .none => .missing
    | none, .host functions => .host functions
    | none, .registry parent => if parent < id then resolve registries method name parent else .missing
termination_by id

def callFunction (registries : Registries) (id : Nat) (name : String) (arguments : List Value) :
    Except Failure Value :=
  match registries.resolve false name id with
  | .definition definition => definition.invoke arguments arguments.length
  | .host functions => functions.callFunction name arguments
  | .missing => .error (.unknownFunction name)

/-- Null has no methods. The names of loops are no methods either, but the failure
says how they are used. -/
def callMethod (registries : Registries) (id : Nat) (target : Value) (name : String) (arguments : List Value) :
    Except Failure Value :=
  match registries.resolve true name id with
  | .definition definition =>
    match target with
    | .null => .error (.rejected (.nullTarget name))
    | _ => definition.invoke (target :: arguments) arguments.length
  | .host functions => functions.callMethod target name arguments
  | .missing =>
    if (Loop.ofName? name).isSome then .error (.fault (.loopOutsideList name))
    else .error (.unknownMethod name)

/-- What a registry answers to calls. -/
def functions (registries : Registries) (id : Nat) : Functions :=
  ⟨registries.callFunction id, registries.callMethod id⟩

/-- Every definition that a registry can resolve, each in the place of the oldest one
of its name and kind. -/
def listAll (registries : Registries) (id : Nat) : List Definition :=
  match registries.all[id]? with
  | none => []
  | some registry =>
    let inherited := match registry.parent with
      | .registry parent => if parent < id then listAll registries parent else []
      | _ => []
    (registry.functions ++ registry.methods).foldl (fun listed definition => Registry.place definition listed)
      inherited
termination_by id

def listByCategory (registries : Registries) (id : Nat) (category : Category) : List Definition :=
  (registries.listAll id).filter (·.category = category)

/-- The names of all functions and methods in order, and the definitions by category. -/
structure Documentation where
  functions : List String
  methods : List String
  byCategory : List (Category × List Definition)

def sortedNames (definitions : List Definition) : List String :=
  (definitions.map (·.name)).mergeSort

/-- Categories come in the order of their first definitions. -/
def documentation (registries : Registries) (id : Nat) : Documentation :=
  let all := registries.listAll id
  let categories := (all.map (·.category)).eraseDups
  { functions := sortedNames (all.filter (!·.method))
    methods := sortedNames (all.filter (·.method))
    byCategory := categories.map fun category => (category, all.filter (·.category = category)) }

end Registries
end CommonExpr

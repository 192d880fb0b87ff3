import CommonExpr.Program
import CommonExpr.Proofs.NearestDefinition
import CommonExpr.Proofs.OperatorBreakdowns

/-! Calls of the standard functions. A standard function builds no map, so that it comes to a
scalar, to a list of texts or to one of its arguments. A registry lays a breakdown to the arguments
of a call unless they cannot have caused it, so that a standard function only breaks down where it
matches a pattern. -/

namespace CommonExpr.Proofs.LibraryBreakdowns
open OperatorBreakdowns OperatorFailures Value

section Implementations

/-- A registry lays such a breakdown to the arguments. -/
abbrev Blamed (cause : Breakdown) : Prop :=
  cause.blamesArguments = true

/-- Breaks down where a pattern is searched for. -/
def Searched (cause : Breakdown) : Prop :=
  ∃ kind pattern subject, Pattern.search kind pattern subject = .error (.broken cause)

/-- On arguments with a hereditary property, the implementation comes to a value with it, or fails in
one of the usual ways and those given. -/
def Handles (breaks : Breakdown → Prop) (implementation : List Value → Except Failure Value) : Prop :=
  ∀ holds, Hereditary holds → ∀ arguments, (∀ argument ∈ arguments, holds argument) →
    Ends breaks holds (implementation arguments)

/-- It breaks down in ways only that are laid to the arguments. -/
def Regular (implementation : List Value → Except Failure Value) : Prop :=
  Handles Blamed implementation

def Searches (implementation : List Value → Except Failure Value) : Prop :=
  Handles (fun cause => Blamed cause ∨ Searched cause) implementation

variable {breaks : Breakdown → Prop}

section Arguments
variable (missing : breaks (.reported .type "missing argument"))
include missing

private theorem unary_handles {body : Value → Except Failure Value}
    (each : ∀ holds, Hereditary holds → ∀ value, Ends breaks holds (body value)) :
    Handles breaks (Standard.unary body) := by
  intro holds hereditary arguments _
  cases arguments with
  | nil => exact .broken missing
  | cons value others => exact each holds hereditary value

private theorem binary_handles {body : Value → Value → Except Failure Value}
    (each : ∀ holds, Hereditary holds → ∀ first second, Ends breaks holds (body first second)) :
    Handles breaks (Standard.binary body) := by
  intro holds hereditary arguments _
  match arguments with
  | [] | [_] => exact .broken missing
  | first :: second :: _ => exact each holds hereditary first second

private theorem ternary_handles {body : Value → Value → Value → Except Failure Value}
    (each : ∀ holds, Hereditary holds → ∀ first second third, Ends breaks holds (body first second third)) :
    Handles breaks (Standard.ternary body) := by
  intro holds hereditary arguments _
  match arguments with
  | [] | [_] | [_, _] => exact .broken missing
  | first :: second :: third :: _ => exact each holds hereditary first second third

end Arguments

private theorem toInt_ends (value : Value) : Settles breaks value.toInt := by
  unfold toInt
  split
  next => exact .value _
  next => exact .value _
  next =>
    split
    next => exact .value _
    next => exact .rejected _
  next =>
    split
    next => exact .value _
    next => exact .rejected _
  next => exact .rejected _

private theorem toUnsigned_ends (long : breaks .numberTooLong) (value : Value) : Settles breaks value.toUnsigned := by
  apply (toInt_ends value).bind
  intro result _
  split
  next =>
    apply (Ends.format long value).bind
    intro text _
    exact .rejected _
  next => exact .value _

private theorem toDouble_ends (overflow : breaks .overflow) (value : Value) : Settles breaks value.toDouble := by
  unfold toDouble
  split
  next =>
    split
    next => exact .value _
    next => exact .broken overflow
  next =>
    split
    next => exact .value _
    next => exact .rejected _
  next => exact .rejected _

private theorem sizeOf_ends (value : Value) : Settles breaks value.sizeOf := by
  cases value <;> first | exact .value _ | exact .rejected _

/-- The winner is one of the arguments. -/
theorem extreme_handles (function : String) (side : Ordering) : Handles breaks (extreme function side) := by
  intro holds hereditary arguments given
  cases arguments with
  | nil => exact .rejected _
  | cons best rest =>
    rw [extreme]
    obtain ⟨start, others⟩ := List.forall_mem_cons.mp given
    clear given
    induction rest generalizing best with
    | nil => exact .returned start
    | cons value more ih =>
      obtain ⟨here, later⟩ := List.forall_mem_cons.mp others
      have chosen : Ends breaks holds (do return if (← value.compare best) = side then value else best) := by
        apply (compare_ends value best).bind
        intro order _
        split
        next => exact .returned here
        next => exact .returned start
      rw [List.foldlM_cons]
      exact chosen.bind fun winner reached => ih winner reached later

private theorem search_ends (searches : ∀ cause, Searched cause → breaks cause) (kind : TextKind)
    (pattern text : String) :
    Settles breaks (Pattern.search kind pattern text) := by
  have among (cause : Breakdown) (failed : Pattern.search kind pattern text = .error (.broken cause)) : breaks cause :=
    searches cause ⟨kind, pattern, text, failed⟩
  revert among
  unfold Pattern.search
  dsimp only
  split
  next =>
    split
    next => exact fun _ => .value _
    next =>
      split
      next => exact fun among => .broken (among _ rfl)
      next => exact fun _ => .value _
  next => exact fun among => .broken (among _ rfl)
  next => exact fun _ => .rejected _

private theorem matches_handles (missing : breaks (.reported .type "missing argument"))
    (searches : ∀ cause, Searched cause → breaks cause) :
    Handles breaks (Standard.binary fun text pattern => return .bool (← text.matchesPattern pattern)) := by
  refine binary_handles missing fun holds hereditary text pattern => .wrapped hereditary ?_ fun _ => rfl
  unfold matchesPattern
  split
  next => exact search_ends searches _ _ _
  next => exact .rejected _

section Bodies
variable {holds : Value → Prop} (hereditary : Hereditary holds)
include hereditary

private theorem containment_ends (target item : Value) : Ends breaks holds (Standard.containment target item) := by
  cases target with
  | text _ _ => cases item <;> first | exact hereditary.ok rfl | exact .rejected _
  | list _ => exact hereditary.ok rfl
  | _ => exact .rejected _

private theorem replacement_ends (target old new : Value) :
    Ends breaks holds (Standard.replacement target old new) := by
  unfold Standard.replacement
  split
  next => exact hereditary.ok rfl
  next => exact .rejected _

private theorem wholePart_ends (name : String) (rounded : Double → Option Int) (value : Value) :
    Ends breaks holds (Standard.wholePart name rounded value) := by
  unfold Standard.wholePart
  split
  next => exact hereditary.ok rfl
  next =>
    split
    next => exact hereditary.ok rfl
    next => exact .rejected _
  next => exact .rejected _

private theorem magnitude_ends (value : Value) : Ends breaks holds (Standard.magnitude value) := by
  cases value <;> first | exact hereditary.ok rfl | exact .rejected _

private theorem rounding_ends (precision : breaks .decimalPrecision) (range : breaks .decimalRange)
    (value places : Value) :
    Ends breaks holds (Standard.rounding value places) := by
  unfold Standard.rounding
  split
  next => exact hereditary.ok rfl
  next =>
    split
    next => exact .rejected _
    next =>
      split
      next => exact hereditary.ok rfl
      next => exact .broken precision
      next => exact .broken range
  next => exact .rejected _
  next => exact .rejected _
  next => exact .rejected _

omit hereditary in
private theorem onText_ends (name : String) {body : String → Value} (made : ∀ content, holds (body content))
    (target : Value) :
    Ends breaks holds (Standard.onText name body target) := by
  unfold Standard.onText
  split
  next => exact .returned (made _)
  next => exact .rejected _

omit hereditary in
private theorem onTexts_ends (name : String) {body : String → String → Value}
    (made : ∀ content other, holds (body content other))
    (target argument : Value) : Ends breaks holds (Standard.onTexts name body target argument) := by
  unfold Standard.onTexts
  split
  next => exact .returned (made _ _)
  next => exact .rejected _

end Bodies
end Implementations

section Definitions

private theorem missing_blamed : Blamed (.reported .type "missing argument") :=
  rfl

private theorem conversions_regular : ∀ definition ∈ Standard.conversions, Regular definition.implementation := by
  simp only [Standard.conversions, List.forall_mem_cons]
  refine ⟨?_, ?_, ?_, ?_, ?_, ?_, List.forall_mem_nil _⟩
  · exact unary_handles missing_blamed fun _ hereditary value => .wrapped hereditary (toInt_ends value) fun _ => rfl
  · exact unary_handles missing_blamed fun _ hereditary value =>
      .wrapped hereditary (toUnsigned_ends (by rfl) value) fun _ => rfl
  · exact unary_handles missing_blamed fun _ hereditary value =>
      .wrapped hereditary (toDouble_ends (by rfl) value) fun _ => rfl
  · exact unary_handles missing_blamed fun _ hereditary value => .wrapped hereditary (.format (by rfl) value) fun _ => rfl
  · exact unary_handles missing_blamed fun _ hereditary _ => hereditary.ok rfl
  · exact unary_handles missing_blamed fun _ hereditary _ => hereditary.ok rfl

private theorem collections_regular : ∀ definition ∈ Standard.collections, Regular definition.implementation := by
  have sized : Regular (Standard.unary fun value => return .int (← value.sizeOf)) :=
    unary_handles missing_blamed fun _ hereditary value => .wrapped hereditary (sizeOf_ends value) fun _ => rfl
  simp only [Standard.collections, List.forall_mem_cons]
  refine ⟨sized, sized, ?_, extreme_handles "max" .gt, extreme_handles "min" .lt, ?_, List.forall_mem_nil _⟩
  · exact binary_handles missing_blamed fun _ hereditary _ _ => hereditary.ok rfl
  · exact binary_handles missing_blamed fun _ hereditary target item => containment_ends hereditary target item

private theorem texts_regular : ∀ definition ∈ Standard.texts,
    Regular definition.implementation ∨ (definition.name = "matches" ∧ Searches definition.implementation) := by
  have searched : Searches (Standard.binary fun text pattern => return .bool (← text.matchesPattern pattern)) :=
    matches_handles (.inl rfl) fun _ => .inr
  have parts {holds : Value → Prop} (hereditary : Hereditary holds) (contents : List String) :
      holds (.list (contents.map .string)) := by
    refine hereditary.list.mpr fun element member => ?_
    obtain ⟨content, _, rfl⟩ := List.mem_map.mp member
    exact hereditary.scalar rfl
  have textual {name : String} {body : String → Value} (scalar : ∀ content, (body content).isScalar) :
      Regular (Standard.unary (Standard.onText name body)) :=
    unary_handles missing_blamed fun _ hereditary => onText_ends name fun content => hereditary.scalar (scalar content)
  have compared {name : String} {body : String → String → Value} (scalar : ∀ content other, (body content other).isScalar) :
      Regular (Standard.binary (Standard.onTexts name body)) :=
    binary_handles missing_blamed fun _ hereditary =>
      onTexts_ends name fun content other => hereditary.scalar (scalar content other)
  simp only [Standard.texts, List.forall_mem_cons]
  refine ⟨.inr ⟨trivial, searched⟩, .inr ⟨trivial, searched⟩, ?_, ?_, ?_, ?_, ?_, ?_, ?_, List.forall_mem_nil _⟩
  · exact .inl (compared fun _ _ => rfl)
  · exact .inl (compared fun _ _ => rfl)
  · exact .inl (textual fun _ => rfl)
  · exact .inl (textual fun _ => rfl)
  · exact .inl (textual fun _ => rfl)
  · exact .inl (ternary_handles missing_blamed fun _ hereditary => replacement_ends hereditary)
  · exact .inl (binary_handles missing_blamed fun _ hereditary => onTexts_ends _ fun _ _ => parts hereditary _)

private theorem mathematics_regular : ∀ definition ∈ Standard.mathematics, Regular definition.implementation := by
  simp only [Standard.mathematics, List.forall_mem_cons]
  refine ⟨?_, ?_, ?_, ?_, List.forall_mem_nil _⟩
  · exact unary_handles missing_blamed fun _ hereditary => magnitude_ends hereditary
  · exact unary_handles missing_blamed fun _ hereditary => wholePart_ends hereditary _ _
  · exact unary_handles missing_blamed fun _ hereditary => wholePart_ends hereditary _ _
  · intro holds hereditary arguments given
    dsimp only
    split
    next value => exact rounding_ends hereditary (by rfl) (by rfl) value (.int 0)
    next =>
      have rounds : Regular (Standard.binary Standard.rounding) :=
        binary_handles missing_blamed fun _ hereditary => rounding_ends hereditary (by rfl) (by rfl)
      exact rounds holds hereditary _ given

private theorem standard_regular : ∀ definition ∈ Standard.definitions,
    Regular definition.implementation ∨ (definition.name = "matches" ∧ Searches definition.implementation) := by
  intro definition member
  simp only [Standard.definitions, List.mem_append] at member
  rcases member with ((member | member) | member) | member
  · exact .inl (conversions_regular definition member)
  · exact .inl (collections_regular definition member)
  · exact texts_regular definition member
  · exact .inl (mathematics_regular definition member)

end Definitions

section Calls

/-- A registry without a parent whose definitions are among the given ones, each in the table of its kind. -/
structure Holds (definitions : List Definition) (registry : Registry) : Prop where
  alone : registry.parent = .none
  listed : ∀ method, ∀ definition ∈ registry.table method, definition ∈ definitions ∧ definition.method = method

theorem Holds.register {definitions : List Definition} {registry : Registry} {definition : Definition}
    (holds : Holds definitions registry) (member : definition ∈ definitions) :
    Holds definitions (registry.register definition) := by
  refine ⟨?_, fun method other found => ?_⟩
  · unfold Registry.register
    split <;> exact holds.alone
  · rw [NearestDefinition.table_register] at found
    split at found
    next same =>
      rcases NearestDefinition.mem_place found with rfl | kept
      · exact ⟨member, same⟩
      · exact holds.listed method other kept
    next => exact holds.listed method other found

private theorem registered {definitions : List Definition} (added : List Definition)
    (among : ∀ definition ∈ added, definition ∈ definitions)
    {registry : Registry} (holds : Holds definitions registry) : ∃ last, Holds definitions last ∧
      added.foldl (fun current definition => Registries.register current 0 definition) ⟨#[registry]⟩ = ⟨#[last]⟩ := by
  induction added generalizing registry with
  | nil => exact ⟨registry, holds, rfl⟩
  | cons definition others ih =>
    obtain ⟨member, rest⟩ := List.forall_mem_cons.mp among
    exact ih rest (holds.register member)

private theorem standard_holds :
    ∃ registry, Holds Standard.definitions registry ∧ Registries.standard = ⟨#[registry]⟩ := by
  unfold Registries.standard Registries.registerStandard
  generalize Standard.definitions = definitions
  have empty : Holds definitions ⟨.none, [], []⟩ := ⟨rfl, fun method => by cases method <;> exact nofun⟩
  exact registered definitions (fun _ member => member) empty

theorem resolve_standard (method : Bool) (name : String) :
    (∃ definition ∈ Standard.definitions, (definition.name = name ∧ definition.method = method) ∧
      Registries.standard.resolve method name 0 = .definition definition) ∨
      Registries.standard.resolve method name 0 = .missing := by
  obtain ⟨registry, holds, same⟩ := standard_holds
  rw [same, Registries.resolve]
  simp only [List.getElem?_toArray, List.getElem?_cons_zero, holds.alone]
  cases found : registry.find? method name with
  | none => exact .inr rfl
  | some definition =>
    have named := List.find?_some found
    obtain ⟨member, kind⟩ := holds.listed method definition (List.mem_of_find?_eq_some found)
    exact .inl ⟨definition, member, ⟨by simpa using named, kind⟩, rfl⟩

/-- What is left of a breakdown when a definition of the name was called. -/
def CallBreaks (name : String) (cause : Breakdown) : Prop :=
  name = "matches" ∧ Searched cause ∧ ¬ Blamed cause

variable {holds : Value → Prop} (hereditary : Hereditary holds) {arguments : List Value}
  (given : ∀ argument ∈ arguments, holds argument)
include hereditary given

private theorem invoke_ends {definition : Definition} (member : definition ∈ Standard.definitions) (count : Nat) :
    Ends (CallBreaks definition.name) holds (definition.invoke arguments count) := by
  have implemented : Ends (fun cause => Blamed cause ∨ (definition.name = "matches" ∧ Searched cause)) holds
      (definition.implementation arguments) := by
    rcases standard_regular definition member with regular | ⟨named, searches⟩
    · exact (regular holds hereditary arguments given).weaken fun _ => .inl
    · exact (searches holds hereditary arguments given).weaken fun _ => .imp_right fun searched => ⟨named, searched⟩
  unfold Definition.invoke
  split
  next =>
    generalize definition.implementation arguments = outcome at implemented ⊢
    cases implemented with
    | returned reached => exact .returned reached
    | failed arises =>
      cases arises with
      | fault known => exact .fault known
      | unknownFunction name => exact .failed (.unknownFunction name)
      | unknownMethod name => exact .failed (.unknownMethod name)
      | rejected cause => exact .rejected cause
      | @broken cause among =>
        apply Ends.failed
        by_cases blamed : Blamed cause
        · have laid : definition.blame (.broken cause) = .rejected (.broken definition.signature cause) := if_pos blamed
          rw [laid]
          exact .rejected _
        · have kept : definition.blame (.broken cause) = .broken cause := if_neg blamed
          obtain ⟨named, searched⟩ := among.resolve_left blamed
          rw [kept]
          exact .broken ⟨named, searched, blamed⟩
  next => exact .rejected _

theorem callFunction_ends (name : String) :
    Ends (CallBreaks name) holds (standardFunctions.callFunction name arguments) := by
  change Ends _ _ (Registries.standard.callFunction 0 name arguments)
  unfold Registries.callFunction
  rcases resolve_standard false name with ⟨definition, member, ⟨rfl, _⟩, resolved⟩ | missing
  · rw [resolved]
    exact invoke_ends hereditary given member _
  · rw [missing]
    exact .failed (.unknownFunction name)

/-- A loop that is called with the wrong arguments is known, and a fault names it. -/
theorem callMethod_ends {target : Value} (on : holds target) (name : String) :
    Ends (CallBreaks name) holds (standardFunctions.callMethod target name arguments) := by
  change Ends _ _ (Registries.standard.callMethod 0 target name arguments)
  unfold Registries.callMethod
  rcases resolve_standard true name with ⟨definition, member, ⟨rfl, _⟩, resolved⟩ | missing
  · rw [resolved]
    cases target with
    | null => exact .rejected _
    | _ => exact invoke_ends hereditary (List.forall_mem_cons.mpr ⟨on, given⟩) member _
  · rw [missing]
    dsimp only
    split
    next => exact .fault rfl
    next => exact .failed (.unknownMethod name)

end Calls
end CommonExpr.Proofs.LibraryBreakdowns

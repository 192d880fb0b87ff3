import CommonExpr.Proofs.MapKeys
import CommonExpr.Proofs.OperatorFailures

/-! Operations on values whose maps, at any depth, have scalars for keys and each key once. An
operator or a standard function comes to such a value again, or it fails, and never for a node,
an operator or a loop that evaluation does not know. -/

namespace CommonExpr.Proofs.WellKeyedOperators
open MapKeys OperatorFailures Value

section Failures

/-- What evaluation says first about a part of a tree that it has no meaning for. -/
def unknownParts : List String :=
  ["Unknown node type", "Unknown operator", "Unknown unary operator", "Unknown macro"]

/-- The failure is one of evaluation itself, and it reports a part that is not known. -/
def ReportsUnknown (failure : Failure) : Prop :=
  failure.name = "EvaluationError" ∧ ∃ start ∈ unknownParts, start.toList <+: failure.message.toList

/-- The faults that the operators, the standard functions and the trees of the parser can have. -/
def ordinary : Fault → Bool
  | .unknownNode _ | .unknownLoop _ | .reported _ => false
  | .arithmeticOperands operation _ _ => ["Subtraction", "Division", "Modulo"].contains operation
  | _ => true

private theorem ordinary_of_operation {cause : Fault} (known : ofOperation cause) : ordinary cause := by
  cases cause <;> first | rfl | exact known

/-- A text that starts unlike every report of an unknown part. -/
def Apart (text : String) : Prop :=
  ¬ text.toList.take 3 <+: ['U', 'n', 'k']

instance (text : String) : Decidable (Apart text) :=
  inferInstanceAs (Decidable (¬ _))

theorem Apart.append {text : String} (apart : Apart text) (more : String) : Apart (text ++ more) := by
  intro start
  rw [String.toList_append, List.take_append] at start
  exact apart ((List.prefix_append _ _).trans start)

theorem Apart.excludes {text start : String} (apart : Apart text) (member : start ∈ unknownParts) :
    ¬ start.toList <+: text.toList := by
  rintro ⟨rest, same⟩
  have letters : ∀ start ∈ unknownParts, 3 ≤ start.toList.length ∧ start.toList.take 3 = ['U', 'n', 'k'] := by
    decide +kernel
  obtain ⟨long, begun⟩ := letters start member
  apply apart
  rw [← same, List.take_append_of_le_length long, begun]

/-- By the literal text that the message starts with. -/
theorem apart_of_ordinary {cause : Fault} (known : ordinary cause) : Apart cause.message := by
  cases cause with
  | unknownNode _ | unknownLoop _ | reported _ => cases known
  | arithmeticOperands operation left right =>
    have named : Apart (operation ++ " requires numeric operands, got ") := by
      simp only [ordinary, List.contains_iff_mem, List.mem_cons, List.not_mem_nil, or_false] at known
      rcases known with rfl | rfl | rfl <;> decide +kernel
    exact ((named.append left).append " and ").append right
  | _ =>
    unfold Fault.message
    dsimp only
    repeat with_reducible apply Apart.append
    decide +kernel

/-- Of all failures, evaluation gives its own name to faults only. -/
theorem fault_of_name {failure : Failure} (named : failure.name = "EvaluationError") :
    ∃ cause, failure = .fault cause := by
  cases failure with
  | fault cause => exact ⟨cause, rfl⟩
  | broken cause =>
    cases cause with
    | reported kind _ => cases kind <;> simp [Failure.name, Breakdown.name, ReportKind.name] at named
    | _ => simp [Failure.name, Breakdown.name] at named
  | _ => simp [Failure.name] at named

/-- If the failure is a fault at all, it is an ordinary one. -/
def Plain (failure : Failure) : Prop :=
  ∀ cause, failure = .fault cause → ordinary cause

theorem Plain.not_unknown {failure : Failure} (plain : Plain failure) : ¬ ReportsUnknown failure := by
  rintro ⟨named, start, member, shown⟩
  obtain ⟨cause, rfl⟩ := fault_of_name named
  exact (apart_of_ordinary (plain cause rfl)).excludes member shown

end Failures

section Outcomes

/-- The outcome is a value as promised, or a plain failure. -/
inductive Keeps (promised : α → Prop) : Except Failure α → Prop where
  | returned {value : α} (reached : promised value) : Keeps promised (.ok value)
  | failed {failure : Failure} (plain : Plain failure) : Keeps promised (.error failure)

namespace Keeps
variable {promised : α → Prop} {outcome : Except Failure α}

theorem fault {cause : Fault} (known : ordinary cause) : Keeps promised (Value.fault cause) := by
  apply failed
  rintro _ ⟨⟩
  exact known

theorem scalar {value : Value} (scalar : value.isScalar) : Keeps WellKeyed (.ok value) :=
  .returned (.scalar scalar)

/-- All that operators and calls fail with is plain. -/
theorem of_ends (ends : Ends (fun _ => True) promised outcome) : Keeps promised outcome := by
  cases ends with
  | returned reached => exact .returned reached
  | failed arises =>
    cases arises with
    | fault known => exact .fault (ordinary_of_operation known)
    | unknownFunction _ | unknownMethod _ | rejected _ | broken _ => exact .failed nofun

end Keeps
end Outcomes

section Parts
variable {entries : List (Value × Value)} {items : List Value}

/-- What stands under a key in a map is as well keyed as the map. -/
theorem wellKeyed_of_lookup? {kind : MapKind} {key value : Value} (keyed : WellKeyed (.map kind entries))
    (found : Entries.lookup? key entries = some value) : WellKeyed value := by
  cases keyed with
  | scalar scalar => cases scalar
  | map _ each =>
    obtain ⟨stored, member, _⟩ := mem_of_lookup? found
    exact each _ member

theorem wellKeyed_list_iff : WellKeyed (.list items) ↔ ∀ item ∈ items, WellKeyed item := by
  constructor
  · intro keyed
    cases keyed with
    | scalar scalar => cases scalar
    | list each => exact each
  · exact .list

theorem hereditary : Hereditary WellKeyed where
  scalar := .scalar
  list := wellKeyed_list_iff
  found := wellKeyed_of_lookup?

end Parts
end CommonExpr.Proofs.WellKeyedOperators

import CommonExpr.Proofs.OverlayScopes

/-! Two runs of the reference side by side. They make as many marks and end alike, but the
first may be held to a limit on nesting that is lower than the one of the second, or that the
second is free of, and may then be stopped by it. Sequencing and every loop keep that, so that
a proof about two evaluations has to look at single operations only. -/

namespace CommonExpr.Proofs.PairedRuns
open EvaluationClosure OverlayScopes

/-- Whether the first run may be stopped, and in which failures the two may end. -/
structure Terms where
  stops : Prop
  permits : Failure → Prop

/-- Both end alike, with results as promised or with one failure, or the first one is stopped. -/
inductive Ended (terms : Terms) (promised : α → β → Prop) : Except Failure α × Nat → Except Failure β × Nat → Prop where
  | value {value : α} {answer : β} {marks : Nat} (reached : promised value answer) :
      Ended terms promised (.ok value, marks) (.ok answer, marks)
  | failure {failure : Failure} {marks : Nat} (permitted : terms.permits failure) :
      Ended terms promised (.error failure, marks) (.error failure, marks)
  | stopped {marks : Nat} {other : Except Failure β × Nat} (may : terms.stops) :
      Ended terms promised (.error (.fault .nestedTooDeeply), marks) other

def Paired (terms : Terms) (promised : α → β → Prop) (first : Reference α) (second : Reference β) : Prop :=
  ∀ marks, Ended terms promised (first.run marks) (second.run marks)

/-- What the two runs are allowed: the same, or for the second one more nesting or any. -/
inductive Allowances (terms : Terms) : Option Nat → Option Nat → Prop where
  | same {allowance : Option Nat} : Allowances terms allowance allowance
  | raised {small large : Nat} (may : terms.stops) (fewer : small ≤ large) : Allowances terms (some small) (some large)
  | lifted {allowance : Option Nat} (may : terms.stops) : Allowances terms allowance none

variable {terms : Terms}

namespace Paired
variable {promised : α → β → Prop} {first : Reference α} {second : Reference β}

theorem bind {next : α → Reference γ} {further : β → Reference δ} {last : γ → δ → Prop}
    (begun : Paired terms promised first second)
    (rest : ∀ value answer, promised value answer → Paired terms last (next value) (further answer)) :
    Paired terms last (first >>= next) (second >>= further) := by
  intro marks
  have ended := begun marks
  rw [run_bind, run_bind]
  generalize first.run marks = one at ended ⊢
  generalize second.run marks = two at ended ⊢
  cases ended with
  | value reached => exact rest _ _ reached _
  | failure permitted => exact .failure permitted
  | stopped may => exact .stopped may

theorem pure {value : α} {answer : β} (reached : promised value answer) :
    Paired terms promised (Pure.pure value) (Pure.pure answer) :=
  fun _ => .value reached

theorem fault {cause : Fault} (permitted : terms.permits (.fault cause)) :
    Paired terms promised (Reference.fault cause) (Reference.fault cause) :=
  fun _ => .failure permitted

/-- Inside a tree they are allowed alike again, unless the first one has used up what it was allowed. -/
theorem within {body : Option Nat → Reference α} {other : Option Nat → Reference β} {allowance free : Option Nat}
    (allowances : Allowances terms allowance free) (deep : terms.permits (.fault .nestedTooDeeply))
    (inner : ∀ {left right}, Allowances terms left right → Paired terms promised (body left) (other right)) :
    Paired terms promised (Reference.within allowance body) (Reference.within free other) := by
  cases allowances with
  | same =>
    match allowance with
    | none => exact inner .same
    | some 0 => exact fault deep
    | some (left + 1) => exact inner .same
  | @raised small large may fewer =>
    match small, large with
    | 0, _ => exact fun _ => .stopped may
    | small + 1, large + 1 => exact inner (.raised may (Nat.le_of_succ_le_succ fewer))
  | lifted may =>
    match allowance with
    | none => exact inner .same
    | some 0 => exact fun _ => .stopped may
    | some (left + 1) => exact inner (.lifted may)

end Paired

/-- Both come to the same result. -/
def Same (terms : Terms) (first second : Reference α) : Prop :=
  Paired terms Eq first second

namespace Same

variable {first second : Reference α}

theorem before {next : α → Reference β} {further : α → Reference γ} {promised : β → γ → Prop}
    (begun : Same terms first second) (rest : ∀ value, Paired terms promised (next value) (further value)) :
    Paired terms promised (first >>= next) (second >>= further) := by
  refine Paired.bind begun ?_
  rintro value _ rfl
  exact rest value

theorem bind {next further : α → Reference β} (begun : Same terms first second)
    (rest : ∀ value, Same terms (next value) (further value)) : Same terms (first >>= next) (second >>= further) :=
  begun.before rest

theorem pure (value : α) : Same terms (Pure.pure value) (Pure.pure value) :=
  Paired.pure rfl

theorem fault {cause : Fault} (permitted : terms.permits (.fault cause)) :
    Same terms (Reference.fault cause : Reference α) (Reference.fault cause) :=
  Paired.fault permitted

theorem settle {outcome : Except Failure α} (permitted : ∀ failure, outcome = .error failure → terms.permits failure) :
    Same terms (Reference.settle outcome) (Reference.settle outcome) := by
  intro marks
  cases outcome with
  | ok value => exact .value rfl
  | error failure => exact .failure (permitted failure rfl)

theorem produce {outcome : Except Failure Value} (permitted : ∀ failure, outcome = .error failure → terms.permits failure) :
    Same terms (Reference.produce outcome) (Reference.produce outcome) := by
  intro marks
  simp only [Reference.produce, ExceptT.run_mk]
  split
  next => exact .value rfl
  next => exact settle permitted marks

theorem logicalOperand {operator : LogicalOperator} {value : Value}
    (permitted : terms.permits (.fault (.logicalOperand operator.symbol value.typeName))) :
    Same terms (Reference.logicalOperand operator value) (Reference.logicalOperand operator value) := by
  cases value with
  | bool answer => exact pure answer
  | null | number _ | text _ _ | list _ | map _ _ | date _ => exact fault permitted

/-- The second operand of a logical operator decides. -/
theorem secondOperand {first second : Reference Value} (begun : Same terms first second) (operator : LogicalOperator)
    (permitted : ∀ value : Value, terms.permits (.fault (.logicalOperand operator.symbol value.typeName))) :
    Same terms (do return Value.bool (← Reference.logicalOperand operator (← first)))
      (do return Value.bool (← Reference.logicalOperand operator (← second))) :=
  begun.bind fun value => (logicalOperand (permitted value)).bind fun answer => pure (Value.bool answer)

theorem sequences (terms : Terms) : Sequences (m := Reference) (n := Reference) fun _ => Same terms :=
  ⟨pure, bind⟩

theorem loop (loop : Loop) {each other : Value → Reference Value} (step : ∀ item, Same terms (each item) (other item))
    (items : List Value) : Same terms (Reference.loop loop each items) (Reference.loop loop other items) := by
  rw [← Reference.loopM_eq_loop, ← Reference.loopM_eq_loop]
  exact (sequences terms).loop loop step items

end Same
end CommonExpr.Proofs.PairedRuns

import CommonExpr.Proofs.OverlayScopes
import CommonExpr.Proofs.ScopeRestoration

/-! Evaluation, which overwrites bindings and repairs them, comes to what the reference
comes to, which lays one binding over another. At every point inside every body the
bindings that are in force are those of the environment that the reference has there. -/

namespace CommonExpr.Proofs.ScopeRefinement
open EvaluationClosure OverlayScopes ScopeRestoration

section Simulation

/-- Both end alike, after as many marks: with results and bindings as promised, or with one failure. -/
inductive Alike (promised : α → β → Bindings → Prop) : Except Failure α × Scope → Except Failure β × Nat → Prop where
  | value {value : α} {answer : β} {scope : Scope} (reached : promised value answer scope.bindings) :
      Alike promised (.ok value, scope) (.ok answer, scope.marksMade)
  | failure (failure : Failure) (scope : Scope) : Alike promised (.error failure, scope) (.error failure, scope.marksMade)

/-- From bindings as they are assumed and after as many marks, both end alike. -/
def Simulates (assumed : Bindings → Prop) (program : Evaluation α) (reference : Reference β)
    (promised : α → β → Bindings → Prop) : Prop :=
  ∀ scope : Scope, assumed scope.bindings → Alike promised (program.run scope) (reference.run scope.marksMade)

/-- Both have the same result, and what was assumed of the bindings holds again. -/
def Follows (holds : Bindings → Prop) (program : Evaluation α) (reference : Reference α) : Prop :=
  Simulates holds program reference fun value answer bindings => value = answer ∧ holds bindings

namespace Simulates
variable {assumed : Bindings → Prop} {program : Evaluation α} {reference : Reference β}
  {promised : α → β → Bindings → Prop}

theorem bind {next : α → Evaluation γ} {further : β → Reference δ} {last : γ → δ → Bindings → Prop}
    (first : Simulates assumed program reference promised)
    (rest : ∀ value answer, Simulates (promised value answer) (next value) (further answer) last) :
    Simulates assumed (program >>= next) (reference >>= further) last := by
  intro scope holds
  have begun := first scope holds
  rw [run_bind, run_bind]
  generalize program.run scope = ended at begun ⊢
  generalize reference.run scope.marksMade = expected at begun ⊢
  cases begun with
  | value reached => exact rest _ _ _ reached
  | failure failure after => exact .failure failure after

theorem weaken {stronger : Bindings → Prop} {weaker : α → β → Bindings → Prop}
    (simulates : Simulates assumed program reference promised) (before : ∀ bindings, stronger bindings → assumed bindings)
    (after : ∀ value answer bindings, promised value answer bindings → weaker value answer bindings) :
    Simulates stronger program reference weaker := by
  intro scope holds
  have ended := simulates scope (before _ holds)
  generalize program.run scope = ending at ended ⊢
  generalize reference.run scope.marksMade = expected at ended ⊢
  cases ended with
  | value reached => exact .value (after _ _ _ reached)
  | failure failure last => exact .failure failure last

theorem pure {value : α} {answer : β} (reached : ∀ bindings, assumed bindings → promised value answer bindings) :
    Simulates assumed (Pure.pure value) (Pure.pure answer) promised :=
  fun scope holds => .value (reached scope.bindings holds)

theorem fault (cause : Fault) : Simulates assumed (Evaluation.fault cause) (Reference.fault cause) promised :=
  fun scope _ => .failure (.fault cause) scope

/-- A binding that is set has its place in what is promised, and the reference does nothing for it. -/
theorem assign {name : String} {value : Value} {next : Unit → Evaluation α}
    (rest : Simulates assumed (next ()) reference promised) {before : Bindings → Prop}
    (holds : ∀ bindings, before bindings → assumed (bindings.set name value)) :
    Simulates before (Evaluation.assign name value >>= next) reference promised :=
  fun scope started => rest { scope with bindings := scope.bindings.set name value } (holds scope.bindings started)

end Simulates

namespace Follows
variable {holds : Bindings → Prop} {program : Evaluation α} {reference : Reference α}

theorem before {next : α → Evaluation β} {further : α → Reference γ} {promised : β → γ → Bindings → Prop}
    (first : Follows holds program reference) (rest : ∀ value, Simulates holds (next value) (further value) promised) :
    Simulates holds (program >>= next) (reference >>= further) promised := by
  refine Simulates.bind first fun value answer => ?_
  rintro scope ⟨rfl, held⟩
  exact rest value scope held

theorem bind {next : α → Evaluation β} {further : α → Reference β} (first : Follows holds program reference)
    (rest : ∀ value, Follows holds (next value) (further value)) :
    Follows holds (program >>= next) (reference >>= further) :=
  first.before rest

theorem pure (value : α) : Follows holds (Pure.pure value) (Pure.pure value) :=
  Simulates.pure fun _ held => ⟨rfl, held⟩

theorem fault (cause : Fault) : Follows holds (Evaluation.fault cause : Evaluation α) (Reference.fault cause) :=
  Simulates.fault cause

theorem settle (outcome : Except Failure α) : Follows holds (Evaluation.settle outcome) (Reference.settle outcome) := by
  intro scope held
  cases outcome with
  | ok value => exact .value ⟨rfl, held⟩
  | error failure => exact .failure failure scope

theorem produce (outcome : Except Failure Value) :
    Follows holds (Evaluation.produce outcome) (Reference.produce outcome) := by
  intro scope held
  by_cases unmarked : outcome = .ok (.double (.nan none))
  · subst unmarked
    apply Alike.value
    exact ⟨rfl, held⟩
  · have kept : (Evaluation.produce outcome).run scope = (outcome, scope) := by
      rw [Evaluation.produce, ExceptT.run_mk]
      split
      next => exact absurd rfl unmarked
      next => rfl
    have same : (Reference.produce outcome).run scope.marksMade = (outcome, scope.marksMade) := by
      rw [Reference.produce, ExceptT.run_mk]
      split
      next => exact absurd rfl unmarked
      next => rfl
    rw [kept, same]
    exact settle outcome scope held

theorem within {body : Option Nat → Evaluation α} {inside : Option Nat → Reference α}
    (inner : ∀ allowance, Follows holds (body allowance) (inside allowance)) (allowance : Option Nat) :
    Follows holds (Evaluation.within allowance body) (Reference.within allowance inside) := by
  match allowance with
  | none => exact inner none
  | some 0 => exact fault _
  | some (left + 1) => exact inner (some left)

theorem logicalOperand (operator : LogicalOperator) (value : Value) :
    Follows holds (Expr.logicalOperand operator value) (Reference.logicalOperand operator value) := by
  cases value <;> first | exact pure _ | exact fault _

end Follows

end Simulation

section Loops
variable {holds : Bindings → Prop}

namespace Follows

theorem sequences (holds : Bindings → Prop) : Sequences (m := Evaluation) (n := Reference) fun _ => Follows holds :=
  ⟨pure, bind⟩

theorem loop (loop : Loop) {each : Value → Evaluation Value} {expected : Value → Reference Value}
    (step : ∀ item, Follows holds (each item) (expected item)) (items : List Value) :
    Follows holds (loop.run each items) (Reference.loop loop expected items) := by
  rw [← loopM_eq_run, ← Reference.loopM_eq_loop]
  exact (sequences holds).loop loop step items

end Follows
end Loops

section Scopes
variable {environment : Environment}

/-- Every name is bound to what it is bound to in the environment. -/
def Agrees (environment : Environment) (bindings : Bindings) : Prop :=
  ∀ name, bindings.get? name = environment.get? name

/-- Of the given names nothing is known. -/
def AgreesBut (names : List String) (environment : Environment) (bindings : Bindings) : Prop :=
  ∀ name, name ∉ names → bindings.get? name = environment.get? name

theorem Agrees.set {bindings : Bindings} (agrees : Agrees environment bindings) (name : String) (value : Value) :
    Agrees (.overlay name value environment) (bindings.set name value) := by
  intro other
  rw [get?_set, Environment.get?, agrees other]

theorem AgreesBut.set {bindings : Bindings} {name : String} (agrees : AgreesBut [name] environment bindings)
    (value : Value) : Agrees (.overlay name value environment) (bindings.set name value) := by
  intro other
  rw [get?_set, Environment.get?]
  split
  next => rfl
  next different => exact agrees other (by simpa using different)

theorem Agrees.beneath {name : String} {value : Value} {bindings : Bindings}
    (agrees : Agrees (.overlay name value environment) bindings) : AgreesBut [name] environment bindings := by
  intro other absent
  rw [agrees other, Environment.get?, if_neg (by simpa using absent)]

/-- A scope brings back the bindings from before, so the environment around it is in force again. -/
theorem Follows.restoring {names : List String} {program : Evaluation α} {reference : Reference α}
    (rebinds : Rebinds names program)
    (simulates : Simulates (Agrees environment) program reference fun value answer _ => value = answer) :
    Follows (Agrees environment) (Evaluation.restoring names program) reference := by
  intro scope agrees
  have ended := simulates scope agrees
  have restored := (Restores.restoring rebinds) scope
  simp only [Evaluation.restoring, ExceptT.run_mk] at restored ⊢
  generalize program.run scope = ending at ended restored ⊢
  generalize reference.run scope.marksMade = expected at ended ⊢
  cases ended with
  | failure failure last => exact .failure failure _
  | @value value answer last reached =>
    apply Alike.value
    exact ⟨reached, Eq.mpr (congrArg (Agrees environment) restored) agrees⟩

theorem Follows.lookup? (name : String) :
    Follows (Agrees environment) (Evaluation.lookup? name) (Reference.lookup? environment name) :=
  fun _ agrees => .value ⟨agrees name, agrees⟩

/-- The body of a loop is evaluated in an environment with one more binding each time. -/
theorem body_follows {name : String} {body : Evaluation Value} {expected : Environment → Reference Value}
    (inner : ∀ here, Follows (Agrees here) body (expected here)) (element : Value) :
    Follows (AgreesBut [name] environment) (do Evaluation.assign name element; body)
      (expected (.overlay name element environment)) := by
  refine Simulates.assign ?_ fun bindings agrees => AgreesBut.set agrees element
  exact (inner _).weaken (fun _ agrees => agrees) fun _ _ _ ⟨same, agrees⟩ => ⟨same, agrees.beneath⟩

theorem Follows.restoring_body {name : String} {body : Evaluation Value} {expected : Environment → Reference Value}
    {loop : Loop} {elements : List Value} (restores : Restores body)
    (inner : ∀ here, Follows (Agrees here) body (expected here)) :
    Follows (Agrees environment)
      (Evaluation.restoring [name] (loop.run (fun element => do Evaluation.assign name element; body) elements))
      (Reference.loop loop (fun element => expected (.overlay name element environment)) elements) := by
  refine .restoring ((Rebinds.composes _).loop _ (fun element => ?_) _) ?_
  · exact (Rebinds.assign element (List.mem_singleton.mpr rfl)).bind fun _ => .of_restores restores
  · refine (Follows.loop loop (body_follows inner) elements).weaken (fun _ agrees other _ => agrees other) ?_
    exact fun _ _ _ reached => reached.1

/-- The steps of a fold leave the bindings as in the environment that the reference hands on. -/
theorem foldSteps_simulates {name accumulator : String} {condition step : Evaluation Value}
    {expectedCondition expectedStep : Environment → Reference Value}
    (tested : ∀ here, Follows (Agrees here) condition (expectedCondition here))
    (stepped : ∀ here, Follows (Agrees here) step (expectedStep here)) (elements : List Value) :
    Simulates (Agrees environment) (foldSteps name accumulator condition step elements)
      (Reference.fold name accumulator expectedCondition expectedStep environment elements)
      fun _ last bindings => Agrees last bindings := by
  induction elements generalizing environment with
  | nil => exact Simulates.pure fun _ agrees => agrees
  | cons element rest ih =>
    rw [Reference.fold]
    refine Simulates.assign ?_ fun bindings agrees => Agrees.set agrees name element
    refine (tested _).before fun answer => ?_
    split
    next =>
      refine (stepped _).before fun value => ?_
      exact Simulates.assign ih fun bindings agrees => Agrees.set agrees accumulator value
    next => exact ih

end Scopes

section Trees
variable {functions : Functions}

/-- In every environment, evaluation of the tree comes to what the reference comes to there. -/
def Refines (functions : Functions) (tree : Expr) : Prop :=
  ∀ environment allowance, Follows (Agrees environment) (tree.evaluate functions allowance)
    (Reference.evaluate functions tree environment allowance)

private theorem evaluateAll_follows {trees : List Expr} (refines : ∀ tree ∈ trees, Refines functions tree)
    (environment : Environment) (allowance : Option Nat) :
    Follows (Agrees environment) (Expr.evaluateAll functions trees allowance)
      (Reference.evaluateAll functions trees environment allowance) := by
  induction trees with
  | nil =>
    rw [Expr.evaluateAll, Reference.evaluateAll]
    exact .pure []
  | cons tree rest ih =>
    obtain ⟨here, later⟩ := List.forall_mem_cons.mp refines
    rw [Expr.evaluateAll, Reference.evaluateAll]
    exact (here environment allowance).bind fun _ => (ih later).bind fun _ => .pure _

private theorem evaluateEntries_follows {entries : List (Expr × Expr)}
    (keys : ∀ entry ∈ entries, Refines functions entry.1)
    (values : ∀ entry ∈ entries, Refines functions entry.2) (environment : Environment) (allowance : Option Nat)
    (built : List (Value × Value)) :
    Follows (Agrees environment) (Expr.evaluateEntries functions entries allowance built)
      (Reference.evaluateEntries functions entries environment allowance built) := by
  induction entries generalizing built with
  | nil =>
    rw [Expr.evaluateEntries, Reference.evaluateEntries]
    exact .pure built
  | cons entry rest ih =>
    obtain ⟨key, keys⟩ := List.forall_mem_cons.mp keys
    obtain ⟨value, values⟩ := List.forall_mem_cons.mp values
    rw [Expr.evaluateEntries, Reference.evaluateEntries]
    refine (key environment allowance).bind fun name => ?_
    have remaining := (value environment allowance).bind fun content => ih keys values (Entries.insert name content built)
    split
    next => exact (Follows.fault _).bind fun _ => remaining
    next => exact remaining

private theorem evaluateFields_follows {fields : List (String × Expr)}
    (values : ∀ field ∈ fields, Refines functions field.2)
    (environment : Environment) (allowance : Option Nat) (built : List (Value × Value)) :
    Follows (Agrees environment) (Expr.evaluateFields functions fields allowance built)
      (Reference.evaluateFields functions fields environment allowance built) := by
  induction fields generalizing built with
  | nil =>
    rw [Expr.evaluateFields, Reference.evaluateFields]
    exact .pure built
  | cons field rest ih =>
    obtain ⟨value, values⟩ := List.forall_mem_cons.mp values
    rw [Expr.evaluateFields, Reference.evaluateFields]
    exact (value environment allowance).bind fun content => ih values (Entries.insert (.string field.1) content built)

private theorem loop_refines {target : Expr} {function : String} {arguments : List Expr}
    (subject : Refines functions target)
    (given : ∀ argument ∈ arguments, Refines functions argument) :
    Refines functions (.call (some target) function arguments true) := by
  intro environment allowance
  rw [Expr.evaluate, Reference.evaluate]
  refine .within (fun inner => (subject environment inner).bind fun value => ?_) allowance
  rcases arguments with _ | ⟨bound, _ | ⟨body, _ | ⟨third, others⟩⟩⟩
  · exact .fault _
  · cases bound <;> exact .fault _
  · cases bound with
    | identifier name =>
      cases value with
      | list elements =>
        cases Loop.ofName? function with
        | some loop =>
          have followed : Refines functions body := given body (by simp)
          exact .restoring_body (evaluate_restores functions body inner) fun here => followed here inner
        | none => exact .fault _
      | _ => exact .fault _
    | _ => exact .fault _
  · cases bound <;> exact .fault _

private theorem comprehension_refines (name accumulator : String) {range initial condition step result : Expr}
    (subject : Refines functions range) (started : Refines functions initial) (tested : Refines functions condition)
    (stepped : Refines functions step) (ended : Refines functions result) :
    Refines functions (.comprehension name range accumulator initial condition step result) := by
  intro environment allowance
  rw [Expr.evaluate, Reference.evaluate]
  refine .within (fun inner => (subject environment inner).bind fun value => ?_) allowance
  cases value with
  | list elements =>
    have restores (tree : Expr) := evaluate_restores functions tree inner
    refine .restoring (.comprehension (restores initial) (restores condition) (restores step) (restores result) elements) ?_
    refine (started environment inner).before fun start => ?_
    refine Simulates.assign ?_ fun bindings agrees => Agrees.set agrees accumulator start
    refine (foldSteps_simulates (fun here => tested here inner) (fun here => stepped here inner) elements).bind ?_
    intro _ last
    exact (ended last inner).weaken (fun _ agrees => agrees) fun _ _ _ reached => reached.1
  | _ => exact .fault _

private theorem logical_refines (operator : LogicalOperator) {left right : Expr} (one : Refines functions left)
    (two : Refines functions right) : Refines functions (.binary (.logical operator) left right) := by
  intro environment allowance
  rw [Expr.evaluate, Reference.evaluate]
  refine .within (fun inner => (one environment inner).bind fun first =>
    (Follows.logicalOperand operator first).bind fun answer => ?_) allowance
  have further := (two environment inner).bind fun second =>
    (Follows.logicalOperand operator second).bind fun rest => .pure (Value.bool rest)
  cases operator with
  | and =>
    cases answer with
    | true => exact further
    | false => exact .pure _
  | or =>
    cases answer with
    | true => exact .pure _
    | false => exact further

end Trees

section Evaluation
variable (functions : Functions) {environment : Environment}

private theorem evaluate_follows (tree : Expr) : Refines functions tree := by
  induction tree using Expr.byParts with
  | loop target function arguments subject given => exact loop_refines subject given
  | comprehension name range accumulator initial condition step result subject started tested stepped ended =>
    exact comprehension_refines name accumulator subject started tested stepped ended
  | logical operator left right one two => exact logical_refines operator one two
  | literal kind value =>
    intro environment allowance
    rw [Expr.evaluate, Reference.evaluate]
    exact .within (fun _ => .pure _) allowance
  | identifier name =>
    intro environment allowance
    rw [Expr.evaluate, Reference.evaluate]
    refine .within (fun _ => (Follows.lookup? name).bind fun found => ?_) allowance
    cases found with
    | some value => exact .pure value
    | none => exact .fault _
  | dot field test =>
    intro environment allowance
    rw [Expr.evaluate, Reference.evaluate]
    refine .within (fun _ => (Follows.lookup? field).bind fun found => ?_) allowance
    cases test with
    | true => exact .pure _
    | false =>
      cases found with
      | some value => exact .pure value
      | none => exact .fault _
  | select operand field test followed =>
    intro environment allowance
    rw [Expr.evaluate, Reference.evaluate]
    exact .within (fun inner => (followed environment inner).bind fun _ => .settle _) allowance
  | index operand position one two =>
    intro environment allowance
    rw [Expr.evaluate, Reference.evaluate]
    exact .within (fun inner => (one environment inner).bind fun _ =>
      (two environment inner).bind fun _ => .settle _) allowance
  | method target function arguments subject given =>
    intro environment allowance
    rw [Expr.evaluate, Reference.evaluate]
    exact .within (fun inner => (evaluateAll_follows given environment inner).bind fun _ =>
      (subject environment inner).bind fun _ => .produce _) allowance
  | function function arguments loop given =>
    intro environment allowance
    rw [Expr.evaluate, Reference.evaluate]
    exact .within (fun inner => (evaluateAll_follows given environment inner).bind fun _ => .produce _) allowance
  | list elements given =>
    intro environment allowance
    rw [Expr.evaluate, Reference.evaluate]
    exact .within (fun inner => (evaluateAll_follows given environment inner).bind fun _ => .pure _) allowance
  | map entries keys values =>
    intro environment allowance
    rw [Expr.evaluate, Reference.evaluate]
    exact .within (fun inner => (evaluateEntries_follows keys values environment inner []).bind fun _ => .pure _) allowance
  | struct typeName fields values =>
    intro environment allowance
    rw [Expr.evaluate, Reference.evaluate]
    exact .within (fun inner => (evaluateFields_follows values environment inner []).bind fun _ => .pure _) allowance
  | unary operator operand followed =>
    intro environment allowance
    rw [Expr.evaluate, Reference.evaluate]
    exact .within (fun inner => (followed environment inner).bind fun _ => .produce _) allowance
  | arithmetic operator left right one two =>
    intro environment allowance
    rw [Expr.evaluate, Reference.evaluate]
    exact .within (fun inner => (one environment inner).bind fun _ =>
      (two environment inner).bind fun _ => .produce _) allowance
  | relational operator left right one two =>
    intro environment allowance
    rw [Expr.evaluate, Reference.evaluate]
    exact .within (fun inner => (one environment inner).bind fun _ =>
      (two environment inner).bind fun _ => (Follows.settle _).bind fun _ => .pure _) allowance
  | conditional condition whenTrue otherwise tested chosen rejected =>
    intro environment allowance
    rw [Expr.evaluate, Reference.evaluate]
    refine .within (fun inner => (tested environment inner).bind fun answer => ?_) allowance
    split
    next => exact chosen environment inner
    next => exact rejected environment inner
  | loneEntry _ _ _ _ | loneField _ _ _ =>
    intro environment allowance
    rw [Expr.evaluate, Reference.evaluate]
    exact .within (fun _ => .fault _) allowance

/-- A run of evaluation is a run of the reference, and leaves the bindings as they were. -/
theorem run_eq_reference (tree : Expr) (allowance : Option Nat) (bindings : Bindings) (marksMade : Nat) :
    (tree.evaluate functions allowance).run ⟨bindings, marksMade⟩ =
      let (outcome, marks) := (Reference.evaluate functions tree (.base bindings) allowance).run marksMade
      (outcome, ⟨bindings, marks⟩) := by
  have ended := evaluate_follows functions tree (.base bindings) allowance ⟨bindings, marksMade⟩ fun _ => rfl
  have restored := evaluate_restores functions tree allowance ⟨bindings, marksMade⟩
  generalize (tree.evaluate functions allowance).run ⟨bindings, marksMade⟩ = ending at ended restored ⊢
  generalize (Reference.evaluate functions tree (.base bindings) allowance).run marksMade = expected at ended ⊢
  cases ended with
  | value reached =>
    obtain ⟨rfl, _⟩ := reached
    cases restored
    rfl
  | failure failure last =>
    cases restored
    rfl

theorem run_eq_answer (tree : Expr) (bindings : Bindings) :
    (tree.run functions bindings).1 = Reference.answer functions tree bindings := by
  rw [Expr.run, Reference.answer, run_eq_reference]
  rfl

/-- Over bindings and over the environment that has them, any tree comes to the same value or
failure within any allowance, and gives as many marks. -/
theorem evaluation_refines_overlay_scopes (tree : Expr) (bindings : Bindings) :
    (∀ allowance marksMade,
      let (outcome, scope) := (tree.evaluate functions allowance).run ⟨bindings, marksMade⟩
      (Reference.evaluate functions tree (.base bindings) allowance).run marksMade = (outcome, scope.marksMade)) ∧
    (tree.run functions bindings).1 = Reference.answer functions tree bindings := by
  have same (allowance : Option Nat) (marksMade : Nat) :
      let (outcome, scope) := (tree.evaluate functions allowance).run ⟨bindings, marksMade⟩
      (Reference.evaluate functions tree (.base bindings) allowance).run marksMade = (outcome, scope.marksMade) := by
    have ended := evaluate_follows functions tree (.base bindings) allowance ⟨bindings, marksMade⟩ fun _ => rfl
    generalize (tree.evaluate functions allowance).run ⟨bindings, marksMade⟩ = ending at ended ⊢
    generalize (Reference.evaluate functions tree (.base bindings) allowance).run marksMade = expected at ended ⊢
    cases ended with
    | value reached =>
      obtain ⟨rfl, _⟩ := reached
      rfl
    | failure failure last => rfl
  refine ⟨same, ?_⟩
  have ended := same (some Expr.nestingAllowance) 0
  rw [Expr.run, Reference.answer]
  exact congrArg (fun ending => ending.1.mapError Failure.overNesting) ended.symm

end Evaluation
end CommonExpr.Proofs.ScopeRefinement

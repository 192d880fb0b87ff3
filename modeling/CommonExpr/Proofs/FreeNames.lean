import CommonExpr.Program
import CommonExpr.Proofs.OperatorFailures
import CommonExpr.Proofs.PairedRuns
import CommonExpr.Proofs.ScopeRefinement
import CommonExpr.Proofs.TreeInduction

/-! What evaluation reads of the bindings. A tree reads its free names only, so that bindings
that agree on these lead to one outcome, and a variable that is found undefined is a free
name that is not bound. -/

namespace CommonExpr.Proofs.FreeNames
open OverlayScopes PairedRuns OperatorFailures ScopeRefinement

section Names

mutual

/-- A loop binds the name of its element in its body. A fold binds both of its names in its
condition and its step, but in its result only the accumulator: over an empty range the other
name is not bound by it. -/
def freeNames : Expr → List String
  | .literal _ _ => []
  | .identifier name => [name]
  | .select none field _ => [field]
  | .select (some operand) _ _ => freeNames operand
  | .index operand position => freeNames operand ++ freeNames position
  | .call (some target) _ arguments true =>
    freeNames target ++
      match arguments with
      | [.identifier name, body] => (freeNames body).filter (· ≠ name)
      | _ => []
  | .call (some target) _ arguments false => freeNamesOfAll arguments ++ freeNames target
  | .call none _ arguments _ => freeNamesOfAll arguments
  | .list elements => freeNamesOfAll elements
  | .map entries => freeNamesOfEntries entries
  | .struct _ fields => freeNamesOfFields fields
  | .comprehension name range accumulator initial condition step result =>
    freeNames range ++ freeNames initial ++
      (freeNames condition ++ freeNames step).filter (fun free => free ≠ name ∧ free ≠ accumulator) ++
      (freeNames result).filter (· ≠ accumulator)
  | .unary _ operand => freeNames operand
  | .binary _ left right => freeNames left ++ freeNames right
  | .conditional condition whenTrue otherwise => freeNames condition ++ freeNames whenTrue ++ freeNames otherwise
  | .loneEntry key value => freeNames key ++ freeNames value
  | .loneField _ value => freeNames value

def freeNamesOfAll : List Expr → List String
  | [] => []
  | tree :: rest => freeNames tree ++ freeNamesOfAll rest

def freeNamesOfEntries : List (Expr × Expr) → List String
  | [] => []
  | (key, value) :: rest => freeNames key ++ freeNames value ++ freeNamesOfEntries rest

def freeNamesOfFields : List (String × Expr) → List String
  | [] => []
  | (_, value) :: rest => freeNames value ++ freeNamesOfFields rest

end

end Names

section Agreement
variable {known : String → Prop} {names : List String} {first second : Environment}

/-- The given names are bound to the same values in both environments, and are bound if they are
known to be. -/
def Agree (known : String → Prop) (names : List String) (first second : Environment) : Prop :=
  ∀ name ∈ names, first.get? name = second.get? name ∧ (known name → (first.get? name).isSome)

private theorem agree_append {others : List String} :
    Agree known (names ++ others) first second ↔ Agree known names first second ∧ Agree known others first second := by
  simp only [Agree, List.forall_mem_append]

/-- A loop has its target's names, and with a name and a body for arguments those of the body but
for the name. -/
theorem Agree.of_loop {target : Expr} {function : String} {arguments : List Expr}
    (agree : Agree known (freeNames (.call (some target) function arguments true)) first second) :
    Agree known (freeNames target) first second ∧ ∀ name body, arguments = [.identifier name, body] →
      Agree known ((freeNames body).filter (· ≠ name)) first second := by
  rw [freeNames.eq_def] at agree
  obtain ⟨ofTarget, ofBody⟩ := agree_append.mp agree
  refine ⟨ofTarget, ?_⟩
  rintro name body rfl
  exact ofBody

/-- One more binding takes its name out of what the environments around it have to agree on. -/
theorem Agree.overlay {outer : List String} {name : String} (agree : Agree known outer first second) (value : Value)
    (covered : ∀ free ∈ names, free ≠ name → free ∈ outer) :
    Agree known names (.overlay name value first) (.overlay name value second) := by
  intro free member
  simp only [Environment.get?]
  split
  next => exact ⟨rfl, fun _ => rfl⟩
  next different => exact agree free (covered free member different)

end Agreement

section Runs
variable (functions : Functions) (known : String → Prop) (stops : Prop)

/-- A function or a method of the host fails in this way. -/
def Reported (failure : Failure) : Prop :=
  (∃ function values, functions.callFunction function values = .error failure) ∨
    ∃ subject function values, functions.callMethod subject function values = .error failure

/-- No known name is found undefined, except that the host may say so. -/
def terms : Terms where
  stops := stops
  permits failure := ∀ name, failure = .fault (.undefinedVariable name) → known name → Reported functions failure

variable {functions known stops}

/-- Whether a fault is that a variable is undefined. -/
def namesVariable : Fault → Bool
  | .undefinedVariable _ => true
  | _ => false

private theorem permits_fault {cause : Fault} (other : namesVariable cause = false) :
    (terms functions known stops).permits (.fault cause) := by
  rintro name ⟨⟩
  cases other

private theorem permits_operator {promised : α → Prop} {outcome : Except Failure α}
    (ends : Ends (fun _ => True) promised outcome)
    (failure : Failure) (failed : outcome = .error failure) : (terms functions known stops).permits failure := by
  rintro name rfl
  subst failed
  cases ends with
  | failed arises =>
    cases arises with
    | fault known => cases known

private theorem permits_function (function : String) (values : List Value) (failure : Failure)
    (failed : functions.callFunction function values = .error failure) :
    (terms functions known stops).permits failure :=
  fun _ _ _ => .inl ⟨function, values, failed⟩

private theorem permits_method (subject : Value) (function : String) (values : List Value) (failure : Failure)
    (failed : functions.callMethod subject function values = .error failure) :
    (terms functions known stops).permits failure :=
  fun _ _ _ => .inr ⟨subject, function, values, failed⟩

private theorem lookup?_same {name : String} {first second : Environment} (agree : Agree known [name] first second) :
    Paired (terms functions known stops) (fun value answer => value = answer ∧ (known name → value.isSome))
      (Reference.lookup? first name) (Reference.lookup? second name) :=
  Paired.pure (agree name (List.mem_singleton.mpr rfl))

private theorem within_same {body other : Option Nat → Reference α} {allowance free : Option Nat}
    (allowances : Allowances (terms functions known stops) allowance free)
    (inner : ∀ {left right}, Allowances (terms functions known stops) left right →
      Same (terms functions known stops) (body left) (other right)) :
    Same (terms functions known stops) (Reference.within allowance body) (Reference.within free other) :=
  Paired.within allowances (permits_fault rfl) inner

/-- The two environments behind the steps of a fold agree on all that the result may read. -/
theorem fold_paired {name accumulator : String} {condition step otherCondition otherStep : Environment → Reference Value}
    {inner behind : List String}
    (tested : ∀ {first second}, Agree known inner first second →
      Same (terms functions known stops) (condition first) (otherCondition second))
    (stepped : ∀ {first second}, Agree known inner first second →
      Same (terms functions known stops) (step first) (otherStep second))
    (elements : List Value) {first second : Environment}
    (agree : Agree known (inner.filter (· ≠ name) ++ behind) first second) :
    Paired (terms functions known stops) (Agree known behind)
      (Reference.fold name accumulator condition step first elements)
      (Reference.fold name accumulator otherCondition otherStep second elements) := by
  induction elements generalizing first second with
  | nil => exact Paired.pure (agree_append.mp agree).2
  | cons element rest ih =>
    rw [Reference.fold, Reference.fold]
    have here : Agree known inner (.overlay name element first) (.overlay name element second) :=
      (agree_append.mp agree).1.overlay element fun free member different =>
        List.mem_filter.mpr ⟨member, by simpa using different⟩
    have kept : Agree known (inner.filter (· ≠ name) ++ behind) (.overlay name element first) (.overlay name element second) :=
      agree.overlay element fun free member _ => member
    refine (tested here).before fun answer => ?_
    split
    next => exact (stepped here).before fun value => ih (kept.overlay value fun free member _ => member)
    next => exact ih kept

/-- Over environments that agree on its free names, and with such allowances, the tree comes to the same. -/
def Determined (functions : Functions) (known : String → Prop) (stops : Prop) (tree : Expr) : Prop :=
  ∀ {first second : Environment} {allowance free : Option Nat}, Agree known (freeNames tree) first second →
    Allowances (terms functions known stops) allowance free →
    Same (terms functions known stops) (Reference.evaluate functions tree first allowance)
      (Reference.evaluate functions tree second free)

variable {first second : Environment} {allowance free : Option Nat}

private theorem evaluateAll_same {trees : List Expr}
    (determined : ∀ tree ∈ trees, Determined functions known stops tree)
    (agree : Agree known (freeNamesOfAll trees) first second)
    (allowances : Allowances (terms functions known stops) allowance free) :
    Same (terms functions known stops) (Reference.evaluateAll functions trees first allowance)
      (Reference.evaluateAll functions trees second free) := by
  induction trees with
  | nil =>
    rw [Reference.evaluateAll, Reference.evaluateAll]
    exact .pure []
  | cons tree rest ih =>
    obtain ⟨here, later⟩ := List.forall_mem_cons.mp determined
    rw [freeNamesOfAll, agree_append] at agree
    rw [Reference.evaluateAll, Reference.evaluateAll]
    exact (here agree.1 allowances).bind fun _ => (ih later agree.2).bind fun _ => .pure _

private theorem evaluateEntries_same {entries : List (Expr × Expr)}
    (keys : ∀ entry ∈ entries, Determined functions known stops entry.1)
    (values : ∀ entry ∈ entries, Determined functions known stops entry.2)
    (agree : Agree known (freeNamesOfEntries entries) first second)
    (allowances : Allowances (terms functions known stops) allowance free) (built : List (Value × Value)) :
    Same (terms functions known stops) (Reference.evaluateEntries functions entries first allowance built)
      (Reference.evaluateEntries functions entries second free built) := by
  induction entries generalizing built with
  | nil =>
    rw [Reference.evaluateEntries, Reference.evaluateEntries]
    exact .pure built
  | cons entry rest ih =>
    obtain ⟨key, keys⟩ := List.forall_mem_cons.mp keys
    obtain ⟨value, values⟩ := List.forall_mem_cons.mp values
    rw [freeNamesOfEntries, agree_append, agree_append] at agree
    rw [Reference.evaluateEntries, Reference.evaluateEntries]
    refine (key agree.1.1 allowances).bind fun name => ?_
    have remaining := (value agree.1.2 allowances).bind fun content =>
      ih keys values agree.2 (Entries.insert name content built)
    split
    next => exact (Same.fault (permits_fault rfl)).bind fun _ => remaining
    next => exact remaining

private theorem evaluateFields_same {fields : List (String × Expr)}
    (values : ∀ field ∈ fields, Determined functions known stops field.2)
    (agree : Agree known (freeNamesOfFields fields) first second)
    (allowances : Allowances (terms functions known stops) allowance free) (built : List (Value × Value)) :
    Same (terms functions known stops) (Reference.evaluateFields functions fields first allowance built)
      (Reference.evaluateFields functions fields second free built) := by
  induction fields generalizing built with
  | nil =>
    rw [Reference.evaluateFields, Reference.evaluateFields]
    exact .pure built
  | cons field rest ih =>
    obtain ⟨value, values⟩ := List.forall_mem_cons.mp values
    rw [freeNamesOfFields, agree_append] at agree
    rw [Reference.evaluateFields, Reference.evaluateFields]
    exact (value agree.1 allowances).bind fun content =>
      ih values agree.2 (Entries.insert (.string field.1) content built)

private theorem loop_determined {target : Expr} {function : String} {arguments : List Expr}
    (subject : Determined functions known stops target)
    (given : ∀ argument ∈ arguments, Determined functions known stops argument) :
    Determined functions known stops (.call (some target) function arguments true) := by
  intro first second allowance free agree allowances
  rw [Reference.evaluate, Reference.evaluate]
  obtain ⟨ofTarget, ofBody⟩ := agree.of_loop
  refine within_same allowances fun inner => (subject ofTarget inner).bind fun value => ?_
  rcases arguments with _ | ⟨bound, _ | ⟨body, _ | ⟨third, others⟩⟩⟩
  · exact .fault (permits_fault rfl)
  · cases bound <;> exact .fault (permits_fault rfl)
  · cases bound with
    | identifier name =>
      cases value with
      | list elements =>
        cases Loop.ofName? function with
        | some kind =>
          have determined : Determined functions known stops body := given body (by simp)
          refine .loop kind (fun element => determined ((ofBody name body rfl).overlay element ?_) inner) elements
          exact fun free member different => List.mem_filter.mpr ⟨member, by simpa using different⟩
        | none => exact .fault (permits_fault rfl)
      | _ => exact .fault (permits_fault rfl)
    | _ => exact .fault (permits_fault rfl)
  · cases bound <;> exact .fault (permits_fault rfl)

private theorem comprehension_determined (name accumulator : String) {range initial condition step result : Expr}
    (subject : Determined functions known stops range) (started : Determined functions known stops initial)
    (tested : Determined functions known stops condition) (stepped : Determined functions known stops step)
    (ended : Determined functions known stops result) :
    Determined functions known stops (.comprehension name range accumulator initial condition step result) := by
  intro first second allowance free agree allowances
  rw [Reference.evaluate, Reference.evaluate]
  rw [freeNames] at agree
  simp only [agree_append] at agree
  obtain ⟨⟨⟨ofRange, ofInitial⟩, ofSteps⟩, ofResult⟩ := agree
  refine within_same allowances fun inner => (subject ofRange inner).bind fun value => ?_
  cases value with
  | list elements =>
    refine (started ofInitial inner).bind fun start => ?_
    have folding : Agree known ((freeNames condition ++ freeNames step).filter (· ≠ name) ++ freeNames result)
        (.overlay accumulator start first) (.overlay accumulator start second) := by
      refine agree_append.mpr ⟨ofSteps.overlay start ?_, ofResult.overlay start ?_⟩
      · intro free member different
        obtain ⟨inside, apart⟩ := List.mem_filter.mp member
        exact List.mem_filter.mpr ⟨inside, by simpa [different] using apart⟩
      · exact fun free member different => List.mem_filter.mpr ⟨member, by simpa using different⟩
    refine (fold_paired (fun here => tested (agree_append.mp here).1 inner)
      (fun here => stepped (agree_append.mp here).2 inner) elements folding).bind ?_
    exact fun _ _ behind => ended behind inner
  | null | bool _ | number _ | text _ _ | map _ _ | date _ => exact .fault (permits_fault rfl)

private theorem logical_determined (operator : LogicalOperator) {left right : Expr}
    (one : Determined functions known stops left)
    (two : Determined functions known stops right) :
    Determined functions known stops (.binary (.logical operator) left right) := by
  intro first second allowance free agree allowances
  rw [Reference.evaluate, Reference.evaluate]
  rw [freeNames, agree_append] at agree
  refine within_same allowances fun inner => (one agree.1 inner).bind fun value =>
    (Same.logicalOperand (permits_fault rfl)).bind fun answer => ?_
  have further := (two agree.2 inner).secondOperand operator fun _ => permits_fault rfl
  cases operator with
  | and =>
    cases answer with
    | true => exact further
    | false => exact .pure _
  | or =>
    cases answer with
    | true => exact .pure _
    | false => exact further

/-- A name is only found undefined where it is not bound. -/
theorem identifier_determined (name : String) : Determined functions known stops (.identifier name) := by
  intro first second allowance free agree allowances
  rw [Reference.evaluate, Reference.evaluate]
  rw [freeNames] at agree
  refine within_same allowances fun _ => (lookup?_same agree).bind ?_
  rintro found _ ⟨rfl, bound⟩
  cases found with
  | some value => exact Same.pure value
  | none =>
    refine .fault ?_
    rintro other ⟨⟩ isKnown
    cases bound isKnown

private theorem evaluate_same (tree : Expr) : Determined functions known stops tree := by
  induction tree using Expr.byParts with
  | identifier name => exact identifier_determined name
  | loop target function arguments subject given => exact loop_determined subject given
  | comprehension name range accumulator initial condition step result subject started tested stepped ended =>
    exact comprehension_determined name accumulator subject started tested stepped ended
  | logical operator left right one two => exact logical_determined operator one two
  | literal kind value =>
    intro first second allowance free agree allowances
    rw [Reference.evaluate, Reference.evaluate]
    exact within_same allowances fun _ => .pure _
  | dot field test =>
    intro first second allowance free agree allowances
    rw [Reference.evaluate, Reference.evaluate]
    rw [freeNames] at agree
    refine within_same allowances fun _ => (lookup?_same agree).bind ?_
    rintro found _ ⟨rfl, -⟩
    cases test with
    | true => exact Same.pure _
    | false =>
      cases found with
      | some value => exact Same.pure value
      | none => exact .fault (permits_fault rfl)
  | select operand field test determined =>
    intro first second allowance free agree allowances
    rw [Reference.evaluate, Reference.evaluate]
    rw [freeNames] at agree
    exact within_same allowances fun inner => (determined agree inner).bind fun _ =>
      .settle (permits_operator (select_ends .anything trivial _ _))
  | index operand position one two =>
    intro first second allowance free agree allowances
    rw [Reference.evaluate, Reference.evaluate]
    rw [freeNames, agree_append] at agree
    exact within_same allowances fun inner => (one agree.1 inner).bind fun _ =>
      (two agree.2 inner).bind fun _ => .settle (permits_operator (index_ends .anything trivial trivial _))
  | method target function arguments subject given =>
    intro first second allowance free agree allowances
    rw [Reference.evaluate, Reference.evaluate]
    rw [freeNames, agree_append] at agree
    exact within_same allowances fun inner => (evaluateAll_same given agree.1 inner).bind fun values =>
      (subject agree.2 inner).bind fun value => .produce (permits_method value function values)
  | function function arguments loop given =>
    intro first second allowance free agree allowances
    rw [Reference.evaluate, Reference.evaluate]
    rw [freeNames] at agree
    exact within_same allowances fun inner => (evaluateAll_same given agree inner).bind fun values =>
      .produce (permits_function function values)
  | list elements given =>
    intro first second allowance free agree allowances
    rw [Reference.evaluate, Reference.evaluate]
    rw [freeNames] at agree
    exact within_same allowances fun inner => (evaluateAll_same given agree inner).bind fun _ => .pure _
  | map entries keys values =>
    intro first second allowance free agree allowances
    rw [Reference.evaluate, Reference.evaluate]
    rw [freeNames] at agree
    exact within_same allowances fun inner => (evaluateEntries_same keys values agree inner []).bind fun _ => .pure _
  | struct typeName fields values =>
    intro first second allowance free agree allowances
    rw [Reference.evaluate, Reference.evaluate]
    rw [freeNames] at agree
    exact within_same allowances fun inner => (evaluateFields_same values agree inner []).bind fun _ => .pure _
  | unary operator operand determined =>
    intro first second allowance free agree allowances
    rw [Reference.evaluate, Reference.evaluate]
    rw [freeNames] at agree
    exact within_same allowances fun inner => (determined agree inner).bind fun _ =>
      .produce (permits_operator (applyUnary_ends .anything _ _))
  | arithmetic operator left right one two =>
    intro first second allowance free agree allowances
    rw [Reference.evaluate, Reference.evaluate]
    rw [freeNames, agree_append] at agree
    refine within_same allowances fun inner => (one agree.1 inner).bind fun _ => (two agree.2 inner).bind fun _ => ?_
    exact .produce (permits_operator (arithmetic_ends .anything trivial trivial trivial _ trivial trivial))
  | relational operator left right one two =>
    intro first second allowance free agree allowances
    rw [Reference.evaluate, Reference.evaluate]
    rw [freeNames, agree_append] at agree
    refine within_same allowances fun inner => (one agree.1 inner).bind fun _ => (two agree.2 inner).bind fun _ => ?_
    exact (Same.settle (permits_operator (relate_ends _ _ _))).bind fun _ => .pure _
  | conditional condition whenTrue otherwise tested chosen rejected =>
    intro first second allowance free agree allowances
    rw [Reference.evaluate, Reference.evaluate]
    rw [freeNames, agree_append, agree_append] at agree
    refine within_same allowances fun inner => (tested agree.1.1 inner).bind fun answer => ?_
    split
    next => exact chosen agree.1.2 inner
    next => exact rejected agree.2 inner
  | loneEntry _ _ _ _ | loneField _ _ _ =>
    intro first second allowance free agree allowances
    rw [Reference.evaluate, Reference.evaluate]
    exact within_same allowances fun _ => .fault (permits_fault rfl)

end Runs

section Outcomes
variable (functions : Functions)

/-- Over environments that agree on its free names a tree is evaluated alike. -/
theorem evaluate_congr (tree : Expr) {first second : Environment}
    (agree : ∀ name ∈ freeNames tree, first.get? name = second.get? name) (allowance : Option Nat) :
    Reference.evaluate functions tree first allowance = Reference.evaluate functions tree second allowance := by
  have agreed : Agree (fun _ => False) (freeNames tree) first second :=
    fun name member => ⟨agree name member, False.elim⟩
  have allowances : Allowances (terms functions (fun _ => False) False) allowance allowance := .same
  have same := evaluate_same tree agreed allowances
  funext marks
  have ended := same marks
  simp only [ExceptT.run] at ended
  generalize Reference.evaluate functions tree first allowance marks = one at ended ⊢
  generalize Reference.evaluate functions tree second allowance marks = two at ended ⊢
  cases ended with
  | value reached => rw [reached]
  | failure _ => rfl
  | stopped may => exact may.elim

/-- Where it is allowed more nesting, a tree comes to what it comes to otherwise, unless it was stopped then. -/
theorem evaluate_allowed (tree : Expr) (environment : Environment) {allowance free : Option Nat}
    (allowances : Allowances (terms functions (fun _ => False) True) allowance free) (marks : Nat) :
    ((Reference.evaluate functions tree environment allowance).run marks).1 = .error (.fault .nestedTooDeeply) ∨
      (Reference.evaluate functions tree environment allowance).run marks =
        (Reference.evaluate functions tree environment free).run marks := by
  have agreed : Agree (fun _ => False) (freeNames tree) environment environment := fun _ _ => ⟨rfl, False.elim⟩
  have same := evaluate_same tree agreed allowances
  have ended := same marks
  generalize (Reference.evaluate functions tree environment allowance).run marks = one at ended ⊢
  generalize (Reference.evaluate functions tree environment free).run marks = two at ended ⊢
  cases ended with
  | value reached => exact .inr (by rw [reached])
  | failure _ => exact .inr rfl
  | stopped _ => exact .inl rfl

/-- Without a limit on nesting a tree comes to what it comes to under one, unless it was stopped by that. -/
theorem evaluate_unlimited (tree : Expr) (environment : Environment) (allowance : Option Nat) (marks : Nat) :
    ((Reference.evaluate functions tree environment allowance).run marks).1 = .error (.fault .nestedTooDeeply) ∨
      (Reference.evaluate functions tree environment allowance).run marks =
        (Reference.evaluate functions tree environment none).run marks :=
  evaluate_allowed functions tree environment (.lifted trivial) marks

/-- A variable that is found undefined is a free name without a binding, if it is not a function of
the host that says so. -/
theorem undefined_is_free (tree : Expr) (environment : Environment) (allowance : Option Nat) (marks : Nat) {name : String}
    (failed : ((Reference.evaluate functions tree environment allowance).run marks).1 =
      .error (.fault (.undefinedVariable name))) :
    (name ∈ freeNames tree ∧ environment.get? name = none) ∨ Reported functions (.fault (.undefinedVariable name)) := by
  by_cases missing : name ∈ freeNames tree ∧ environment.get? name = none
  · exact .inl missing
  · have agreed : Agree (· = name) (freeNames tree) environment environment := by
      rintro other member
      refine ⟨rfl, ?_⟩
      rintro rfl
      exact Option.isSome_iff_ne_none.mpr fun absent => missing ⟨member, absent⟩
    have allowances : Allowances (terms functions (· = name) False) allowance allowance := .same
    have same := evaluate_same tree agreed allowances
    have ended := same marks
    generalize (Reference.evaluate functions tree environment allowance).run marks = ending at ended failed
    cases ended with
    | value _ => cases failed
    | failure permitted =>
      cases failed
      exact .inr (permitted name rfl rfl)
    | stopped may => exact may.elim

private theorem overNesting_undefined {failure : Failure} {name : String}
    (same : failure.overNesting = .fault (.undefinedVariable name)) : failure = .fault (.undefinedVariable name) := by
  unfold Failure.overNesting at same
  split at same
  next => cases same
  next => exact same

/-- The outcome of an evaluation depends on what the free names of the tree are bound to, and on
nothing else in the bindings. Where a variable is found undefined it is one of these, and has no
binding, unless the host reports such a failure of its own. -/
theorem evaluation_depends_on_free_names (tree : Expr) (bindings : Bindings) :
    (∀ other : Bindings, (∀ name ∈ freeNames tree, bindings.get? name = other.get? name) →
      (tree.run functions bindings).1 = (tree.run functions other).1 ∧
      ∀ allowance marksMade, ((tree.evaluate functions allowance).run ⟨bindings, marksMade⟩).1 =
        ((tree.evaluate functions allowance).run ⟨other, marksMade⟩).1) ∧
    ∀ name, (tree.run functions bindings).1 = .error (.fault (.undefinedVariable name)) →
      (name ∈ freeNames tree ∧ bindings.get? name = none) ∨ Reported functions (.fault (.undefinedVariable name)) := by
  refine ⟨fun other agree => ?_, fun name failed => ?_⟩
  · have same (allowance : Option Nat) :
        Reference.evaluate functions tree (.base bindings) allowance =
          Reference.evaluate functions tree (.base other) allowance := by
      apply evaluate_congr
      exact agree
    refine ⟨?_, fun allowance marksMade => ?_⟩
    · rw [run_eq_answer, run_eq_answer, Reference.answer, Reference.answer, same]
    · rw [run_eq_reference, run_eq_reference, same]
      rfl
  · rw [run_eq_answer, Reference.answer] at failed
    refine undefined_is_free functions tree (.base bindings) (some Expr.nestingAllowance) 0 ?_
    generalize ((Reference.evaluate functions tree (.base bindings) (some Expr.nestingAllowance)).run 0).1 = outcome at failed ⊢
    cases outcome with
    | ok value => cases failed
    | error failure => rw [overNesting_undefined (Except.error.inj failed)]

end Outcomes

/-- A loop over a fold with an empty range, whose result reads from outside the name that the fold
would bind. The accumulator is no free name, although one of the bindings has it. -/
theorem fold_over_nothing_reads_outside :
    let fold : Expr := .comprehension "x" (.list []) "a" (.identifier "y") (.identifier "x") (.identifier "a")
      (.binary (.arithmetic .add) (.identifier "a") (.identifier "x"))
    let tree : Expr := .call (some (.list [fold])) "map" [.identifier "a", .identifier "a"] true
    let first : Bindings := ⟨[("a", .null), ("x", .int 1), ("y", .int 2)]⟩
    let second : Bindings := ⟨[("y", .int 2), ("x", .int 1)]⟩
    let third : Bindings := ⟨[("x", .int 1)]⟩
    let silent : Functions := ⟨fun _ _ => .ok .null, fun _ _ _ => .ok .null⟩
    (∀ name ∈ freeNames tree, first.get? name = second.get? name) ∧
      (tree.run standardFunctions first).1 = (tree.run standardFunctions second).1 ∧
      (tree.run silent third).1 = .error (.fault (.undefinedVariable "y")) ∧
      "y" ∈ freeNames tree ∧ third.get? "y" = none := by
  intro fold tree first second third silent
  have names : freeNames tree = ["y", "x"] := by rfl
  have agree : ∀ name ∈ freeNames tree, first.get? name = second.get? name := by
    rw [names]
    exact List.forall_mem_cons.mpr ⟨rfl, List.forall_mem_cons.mpr ⟨rfl, nofun⟩⟩
  have failed : (tree.run silent third).1 = .error (.fault (.undefinedVariable "y")) := by rfl
  obtain ⟨alike, _⟩ := evaluation_depends_on_free_names standardFunctions tree first
  obtain ⟨_, undefined⟩ := evaluation_depends_on_free_names silent tree third
  refine ⟨agree, (alike second agree).1, failed, ?_⟩
  rcases undefined "y" failed with missing | ⟨_, _, reported⟩ | ⟨_, _, _, reported⟩
  · exact missing
  · cases reported
  · cases reported

end CommonExpr.Proofs.FreeNames

import CommonExpr.Proofs.EvaluationClosure
import CommonExpr.Proofs.TreeInduction

/-! Evaluation leaves the bindings as it found them, whether it yields a value or
fails. Only the names of a loop or a fold are rebound while it runs, and bringing
these back undoes every way in which they were rebound. -/

namespace CommonExpr.Proofs.ScopeRestoration
open Evaluation EvaluationClosure

section Entries
variable {name other : String} {value : Value}

private theorem lookup_first (bound : String) (held : Value) (rest : List (String × Value)) :
    ((bound, held) :: rest).lookup name = if name = bound then some held else rest.lookup name := by
  by_cases same : name = bound
  · simp [same]
  · simp [List.lookup_cons, beq_eq_false_iff_ne.mpr same, same]

private theorem lookup_setEntry (entries : List (String × Value)) :
    (Bindings.setEntry name value entries).lookup other = if other = name then some value else entries.lookup other := by
  induction entries with
  | nil => simp [Bindings.setEntry, lookup_first]
  | cons entry rest ih =>
    obtain ⟨bound, held⟩ := entry
    by_cases first : bound = name
    · subst first
      by_cases same : other = bound <;> simp [Bindings.setEntry, lookup_first, same]
    · by_cases last : other = bound
      · simp [Bindings.setEntry, first, last]
      · simp [Bindings.setEntry, lookup_first, first, last, ih]

private theorem setEntry_set (old : Value) (entries : List (String × Value)) :
    Bindings.setEntry name value (Bindings.setEntry name old entries) = Bindings.setEntry name value entries := by
  induction entries with
  | nil => simp [Bindings.setEntry]
  | cons entry rest ih =>
    by_cases same : entry.1 = name
    · simp [Bindings.setEntry, same]
    · simp [Bindings.setEntry, same, ih]

private theorem setEntry_get {entries : List (String × Value)} (found : entries.lookup name = some value) :
    Bindings.setEntry name value entries = entries := by
  induction entries with
  | nil => cases found
  | cons entry rest ih =>
    obtain ⟨bound, held⟩ := entry
    rw [lookup_first] at found
    split at found
    next same =>
      cases found
      simp [Bindings.setEntry, same]
    next different => simp [Bindings.setEntry, Ne.symm different, ih found]

private theorem setEntry_comm (value second : Value) (different : other ≠ name) {entries : List (String × Value)}
    (bound : (entries.lookup other).isSome) :
    Bindings.setEntry other second (Bindings.setEntry name value entries) =
      Bindings.setEntry name value (Bindings.setEntry other second entries) := by
  induction entries with
  | nil => cases bound
  | cons entry rest ih =>
    obtain ⟨key, held⟩ := entry
    by_cases first : key = name
    · subst first
      simp [Bindings.setEntry, different.symm]
    · by_cases last : key = other
      · simp [Bindings.setEntry, last, different]
      · rw [lookup_first, if_neg (Ne.symm last)] at bound
        simp [Bindings.setEntry, first, last, ih bound]

private theorem filter_setEntry (name other : String) (value : Value) (entries : List (String × Value)) :
    (Bindings.setEntry name value entries).filter (·.1 != other) =
      if name = other then entries.filter (·.1 != other)
      else Bindings.setEntry name value (entries.filter (·.1 != other)) := by
  induction entries with
  | nil => by_cases same : name = other <;> simp [Bindings.setEntry, same]
  | cons entry rest ih =>
    obtain ⟨key, held⟩ := entry
    by_cases first : key = name
    · subst first
      by_cases same : key = other <;> simp [Bindings.setEntry, same]
    · by_cases same : name = other
      · subst same
        simpa [Bindings.setEntry, first] using ih
      · by_cases last : key = other
        · simpa [Bindings.setEntry, first, last, same, Ne.symm same] using ih
        · simpa [Bindings.setEntry, first, last, same] using ih

private theorem filter_absent {entries : List (String × Value)} (absent : entries.lookup name = none) :
    entries.filter (·.1 != name) = entries := by
  apply List.filter_eq_self.mpr
  intro entry member
  have different := List.lookup_eq_none_iff.mp absent entry member
  simpa only [bne_iff_ne, ne_eq, eq_comm (a := entry.1), beq_eq_false_iff_ne] using different

end Entries

section Restore
variable {name other : String} {bindings before after : Bindings}

theorem get?_set (value : Value) :
    (bindings.set name value).get? other = if other = name then some value else bindings.get? other :=
  lookup_setEntry bindings.entries

/-- What a name was rebound to does not matter once it is brought back. -/
theorem restore_set (value : Value) (saved : Option Value) :
    (bindings.set name value).restore name saved = bindings.restore name saved := by
  cases saved with
  | none =>
    have erased := filter_setEntry name name value bindings.entries
    simpa [Bindings.restore, Bindings.erase, Bindings.set] using erased
  | some old => simp [Bindings.restore, Bindings.set, setEntry_set]

private theorem restore_get (name : String) : bindings.restore name (bindings.get? name) = bindings := by
  cases held : bindings.get? name with
  | none => simp [Bindings.restore, Bindings.erase, filter_absent held]
  | some value => simp [Bindings.restore, Bindings.set, setEntry_get held]

/-- A name keeps its place while another one is brought back. -/
private theorem restore_set_other (value : Value) (saved : Option Value) (different : other ≠ name)
    (bound : saved.isSome → (bindings.get? other).isSome) :
    (bindings.set name value).restore other saved = (bindings.restore other saved).set name value := by
  cases saved with
  | none =>
    have kept := filter_setEntry name other value bindings.entries
    simpa [Bindings.restore, Bindings.erase, Bindings.set, different.symm] using kept
  | some old =>
    have swapped := setEntry_comm value old different (bound rfl)
    simpa [Bindings.restore, Bindings.set] using swapped

/-- The names that were bound before are bound still. -/
def Holds (before after : Bindings) : Prop :=
  ∀ name, (before.get? name).isSome → (after.get? name).isSome

private theorem Holds.set (holds : Holds before after) (name : String) (value : Value) :
    Holds before (after.set name value) := by
  intro other bound
  rw [get?_set]
  split
  · rfl
  · exact holds other bound

theorem get?_erase_other (different : other ≠ name) :
    (bindings.erase name).get? other = bindings.get? other := by
  obtain ⟨entries⟩ := bindings
  simp only [Bindings.get?, Bindings.erase]
  induction entries with
  | nil => rfl
  | cons entry rest ih =>
    obtain ⟨key, held⟩ := entry
    by_cases same : key = name
    · have apart : other ≠ key := fun equal => different (equal.trans same)
      simp [same, lookup_first, different, ih]
    · simp [same, lookup_first, ih]

private theorem Holds.restore (holds : Holds before after) (name : String) :
    Holds before (after.restore name (before.get? name)) := by
  cases held : before.get? name with
  | some value => exact holds.set name value
  | none =>
    intro other bound
    have different : other ≠ name := by
      intro same
      rw [same, held] at bound
      cases bound
    simpa only [Bindings.restore, get?_erase_other different] using holds other bound

/-- The bindings with the given names brought back to what they were before. -/
def restoreAll (before : Bindings) (names : List String) (after : Bindings) : Bindings :=
  names.foldr (fun name bindings => bindings.restore name (before.get? name)) after

private theorem Holds.restoreAll (holds : Holds before after) (names : List String) :
    Holds before (restoreAll before names after) := by
  induction names with
  | nil => exact holds
  | cons name rest ih => exact ih.restore name

private theorem restoreAll_set_other (holds : Holds before after) (names : List String) (value : Value)
    (absent : name ∉ names) :
    restoreAll before names (after.set name value) = (restoreAll before names after).set name value := by
  induction names with
  | nil => rfl
  | cons first rest ih =>
    obtain ⟨different, later⟩ := not_or.mp (fun found => absent (List.mem_cons.mpr found))
    simp only [restoreAll, List.foldr_cons] at ih ⊢
    rw [ih later]
    exact restore_set_other value _ (Ne.symm different) (holds.restoreAll rest first)

private theorem restoreAll_set (holds : Holds before after) {names : List String} (value : Value)
    (member : name ∈ names) : restoreAll before names (after.set name value) = restoreAll before names after := by
  induction names with
  | nil => cases member
  | cons first rest ih =>
    by_cases later : name ∈ rest
    · simpa only [restoreAll, List.foldr_cons] using
        congrArg (fun bindings => bindings.restore first (before.get? first)) (ih later)
    · have same : name = first := (List.mem_cons.mp member).resolve_right later
      subst same
      have moved := restoreAll_set_other holds rest value later
      simp only [restoreAll, List.foldr_cons] at moved ⊢
      rw [moved, restore_set]

private theorem restoreAll_self (names : List String) : restoreAll before names before = before := by
  induction names with
  | nil => rfl
  | cons name rest ih =>
    simp only [restoreAll, List.foldr_cons] at ih ⊢
    rw [ih, restore_get]

/-- Bindings that arise from others by rebinding some of the given names. -/
inductive Rebound (names : List String) (before : Bindings) : Bindings → Prop where
  | refl : Rebound names before before
  | set {after : Bindings} {name : String} (value : Value) (rebound : Rebound names before after) (member : name ∈ names) :
      Rebound names before (after.set name value)

variable {names : List String}

theorem Rebound.trans {middle : Bindings} (first : Rebound names before middle)
    (second : Rebound names middle after) : Rebound names before after := by
  induction second with
  | refl => exact first
  | set value _ member ih => exact ih.set value member

private theorem Rebound.holds (rebound : Rebound names before after) : Holds before after := by
  induction rebound with
  | refl => exact fun _ bound => bound
  | set value _ _ ih => exact ih.set _ value

/-- However often names were rebound and in whatever order, bringing them back
leaves the bindings from before, each in its place. -/
theorem Rebound.restored (rebound : Rebound names before after) : restoreAll before names after = before := by
  induction rebound with
  | refl => exact restoreAll_self names
  | set value rebound member ih => rw [restoreAll_set rebound.holds value member, ih]

end Restore

/-- A computation that rebinds no other names than the given ones, also where it fails. -/
def Rebinds (names : List String) (program : Evaluation α) : Prop :=
  ∀ scope : Scope, Rebound names scope.bindings (program.run scope).2.bindings

/-- A computation that leaves the bindings as they are. -/
def Restores (program : Evaluation α) : Prop :=
  ∀ scope : Scope, (program.run scope).2.bindings = scope.bindings

namespace Rebinds
variable {names : List String} {program : Evaluation α}

theorem of_restores (restores : Restores program) : Rebinds names program :=
  fun scope => (restores scope).symm ▸ .refl

theorem pure (value : α) : Rebinds names (Pure.pure value : Evaluation α) :=
  fun _ => .refl

theorem bind {next : α → Evaluation β} (first : Rebinds names program)
    (rest : ∀ value, Rebinds names (next value)) : Rebinds names (program >>= next) := by
  intro scope
  have begun := first scope
  rw [run_bind]
  generalize program.run scope = ended at begun ⊢
  obtain ⟨outcome, middle⟩ := ended
  cases outcome with
  | ok value => exact begun.trans (rest value middle)
  | error failure => exact begun

theorem assign {name : String} (value : Value) (member : name ∈ names) : Rebinds names (Evaluation.assign name value) :=
  fun _ => .set value .refl member

theorem composes (names : List String) : Composes fun _ program => Rebinds names program :=
  ⟨pure, bind⟩

theorem comprehension {name accumulator : String} {initial condition step result : Evaluation Value}
    (started : Restores initial) (tested : Restores condition) (stepped : Restores step) (ended : Restores result)
    (items : List Value) : Rebinds [name, accumulator] (do
      Evaluation.assign accumulator (← initial)
      CommonExpr.foldSteps name accumulator condition step items
      result) := by
  have rebound (value : Value) : Rebinds [name, accumulator] (Evaluation.assign name value) := assign value (by simp)
  have accumulated (value : Value) : Rebinds [name, accumulator] (Evaluation.assign accumulator value) :=
    assign value (by simp)
  exact (composes _).comprehension rebound accumulated (of_restores started) (of_restores tested)
    (of_restores stepped) (of_restores ended) items

end Rebinds

namespace Restores
variable {program : Evaluation α}

theorem of_rebinds (rebinds : Rebinds [] program) : Restores program := by
  intro scope
  have rebound := rebinds scope
  generalize (program.run scope).2.bindings = after at rebound ⊢
  cases rebound with
  | refl => rfl
  | set _ _ member => cases member

theorem bind {next : α → Evaluation β} (first : Restores program) (rest : ∀ value, Restores (next value)) :
    Restores (program >>= next) :=
  of_rebinds ((Rebinds.of_restores first).bind fun value => .of_restores (rest value))

theorem pure (value : α) : Restores (Pure.pure value : Evaluation α) :=
  fun _ => rfl

theorem fault (cause : Fault) : Restores (Evaluation.fault cause : Evaluation α) :=
  fun _ => rfl

theorem lookup? (name : String) : Restores (Evaluation.lookup? name) :=
  fun _ => rfl

theorem settle (outcome : Except Failure α) : Restores (Evaluation.settle outcome) :=
  fun _ => rfl

theorem produce (outcome : Except Failure Value) : Restores (Evaluation.produce outcome) := by
  intro scope
  simp only [Evaluation.produce, ExceptT.run_mk]
  split <;> rfl

theorem within {body : Option Nat → Evaluation α} (inner : ∀ allowance, Restores (body allowance))
    (allowance : Option Nat) : Restores (Evaluation.within allowance body) := by
  match allowance with
  | none => exact inner none
  | some 0 => exact fault _
  | some (left + 1) => exact inner (some left)

/-- The names of a scope may be rebound inside it, since leaving it brings them back. -/
theorem restoring {names : List String} (rebinds : Rebinds names program) :
    Restores (Evaluation.restoring names program) :=
  fun scope => (rebinds scope).restored

theorem logicalOperand (operator : LogicalOperator) (value : Value) : Restores (Expr.logicalOperand operator value) := by
  cases value <;> first | exact pure _ | exact fault _

end Restores

section Trees
variable {functions : Functions}

/-- The tree leaves the bindings as they were. -/
def Tidy (functions : Functions) (tree : Expr) : Prop :=
  ∀ allowance, Restores (tree.evaluate functions allowance)

private theorem evaluateAll_restores {trees : List Expr} (tidy : ∀ tree ∈ trees, Tidy functions tree)
    (allowance : Option Nat) :
    Restores (Expr.evaluateAll functions trees allowance) := by
  induction trees with
  | nil =>
    rw [Expr.evaluateAll]
    exact .pure []
  | cons tree rest ih =>
    obtain ⟨here, later⟩ := List.forall_mem_cons.mp tidy
    rw [Expr.evaluateAll]
    exact (here allowance).bind fun _ => (ih later).bind fun _ => .pure _

private theorem evaluateEntries_restores {entries : List (Expr × Expr)}
    (keys : ∀ entry ∈ entries, Tidy functions entry.1)
    (values : ∀ entry ∈ entries, Tidy functions entry.2) (allowance : Option Nat) (built : List (Value × Value)) :
    Restores (Expr.evaluateEntries functions entries allowance built) := by
  induction entries generalizing built with
  | nil =>
    rw [Expr.evaluateEntries]
    exact .pure built
  | cons entry rest ih =>
    obtain ⟨key, keys⟩ := List.forall_mem_cons.mp keys
    obtain ⟨value, values⟩ := List.forall_mem_cons.mp values
    rw [Expr.evaluateEntries]
    refine (key allowance).bind fun name => ?_
    have remaining := (value allowance).bind fun content => ih keys values (Entries.insert name content built)
    split
    next => exact (Restores.fault _).bind fun _ => remaining
    next => exact remaining

private theorem evaluateFields_restores {fields : List (String × Expr)}
    (values : ∀ field ∈ fields, Tidy functions field.2)
    (allowance : Option Nat) (built : List (Value × Value)) :
    Restores (Expr.evaluateFields functions fields allowance built) := by
  induction fields generalizing built with
  | nil =>
    rw [Expr.evaluateFields]
    exact .pure built
  | cons field rest ih =>
    obtain ⟨value, values⟩ := List.forall_mem_cons.mp values
    rw [Expr.evaluateFields]
    exact (value allowance).bind fun content => ih values (Entries.insert (.string field.1) content built)

private theorem loop_tidy {target : Expr} {function : String} {arguments : List Expr} (subject : Tidy functions target)
    (given : ∀ argument ∈ arguments, Tidy functions argument) :
    Tidy functions (.call (some target) function arguments true) := by
  intro allowance
  rw [Expr.evaluate]
  refine .within (fun inner => (subject inner).bind fun value => ?_) allowance
  split
  next name body =>
    have evaluated : Tidy functions body := given body (by simp)
    split
    next elements =>
      split
      next loop _ =>
        refine .restoring ((Rebinds.composes _).loop loop (fun element => ?_) elements)
        have bound : Rebinds [name] (Evaluation.assign name element) := .assign element (List.mem_singleton.mpr rfl)
        exact bound.bind fun _ => .of_restores (evaluated inner)
      next => exact .fault _
    next => exact .fault _
  next => exact .fault _
  next => exact .fault _

private theorem comprehension_tidy (name accumulator : String) {range initial condition step result : Expr}
    (subject : Tidy functions range) (started : Tidy functions initial) (tested : Tidy functions condition)
    (stepped : Tidy functions step) (ended : Tidy functions result) :
    Tidy functions (.comprehension name range accumulator initial condition step result) := by
  intro allowance
  rw [Expr.evaluate]
  refine .within (fun inner => (subject inner).bind fun value => ?_) allowance
  split
  next elements =>
    exact .restoring (.comprehension (started inner) (tested inner) (stepped inner) (ended inner) elements)
  next => exact .fault _

private theorem logical_tidy (operator : LogicalOperator) {left right : Expr} (one : Tidy functions left)
    (two : Tidy functions right) : Tidy functions (.binary (.logical operator) left right) := by
  intro allowance
  rw [Expr.evaluate]
  refine .within (fun inner => (one inner).bind fun first => ?_) allowance
  refine (Restores.logicalOperand operator first).bind fun answer => ?_
  split
  next => exact .pure _
  next => exact .pure _
  next => exact (two inner).bind fun second => (Restores.logicalOperand operator second).bind fun _ => .pure _

end Trees

section Evaluation
variable (functions : Functions)

theorem evaluate_restores (tree : Expr) : Tidy functions tree := by
  induction tree using Expr.byParts with
  | loop target function arguments subject given => exact loop_tidy subject given
  | comprehension name range accumulator initial condition step result subject started tested stepped ended =>
    exact comprehension_tidy name accumulator subject started tested stepped ended
  | logical operator left right one two => exact logical_tidy operator one two
  | literal kind value =>
    intro allowance
    rw [Expr.evaluate]
    exact .within (fun _ => .pure _) allowance
  | identifier name =>
    intro allowance
    rw [Expr.evaluate]
    refine .within (fun _ => (Restores.lookup? name).bind fun found => ?_) allowance
    cases found with
    | some value => exact .pure value
    | none => exact .fault _
  | dot field test =>
    intro allowance
    rw [Expr.evaluate]
    refine .within (fun _ => (Restores.lookup? field).bind fun found => ?_) allowance
    cases test with
    | true => exact .pure _
    | false =>
      cases found with
      | some value => exact .pure value
      | none => exact .fault _
  | select operand field test evaluated =>
    intro allowance
    rw [Expr.evaluate]
    exact .within (fun inner => (evaluated inner).bind fun _ => .settle _) allowance
  | index operand position one two =>
    intro allowance
    rw [Expr.evaluate]
    exact .within (fun inner => (one inner).bind fun _ => (two inner).bind fun _ => .settle _) allowance
  | method target function arguments subject given =>
    intro allowance
    rw [Expr.evaluate]
    exact .within (fun inner => (evaluateAll_restores given inner).bind fun _ =>
      (subject inner).bind fun _ => .produce _) allowance
  | function function arguments loop given =>
    intro allowance
    rw [Expr.evaluate]
    exact .within (fun inner => (evaluateAll_restores given inner).bind fun _ => .produce _) allowance
  | list elements given =>
    intro allowance
    rw [Expr.evaluate]
    exact .within (fun inner => (evaluateAll_restores given inner).bind fun _ => .pure _) allowance
  | map entries keys values =>
    intro allowance
    rw [Expr.evaluate]
    exact .within (fun inner => (evaluateEntries_restores keys values inner []).bind fun _ => .pure _) allowance
  | struct typeName fields values =>
    intro allowance
    rw [Expr.evaluate]
    exact .within (fun inner => (evaluateFields_restores values inner []).bind fun _ => .pure _) allowance
  | unary operator operand evaluated =>
    intro allowance
    rw [Expr.evaluate]
    exact .within (fun inner => (evaluated inner).bind fun _ => .produce _) allowance
  | arithmetic operator left right one two =>
    intro allowance
    rw [Expr.evaluate]
    exact .within (fun inner => (one inner).bind fun _ => (two inner).bind fun _ => .produce _) allowance
  | relational operator left right one two =>
    intro allowance
    rw [Expr.evaluate]
    exact .within (fun inner => (one inner).bind fun _ => (two inner).bind fun _ =>
      (Restores.settle _).bind fun _ => .pure _) allowance
  | conditional condition whenTrue otherwise tested chosen rejected =>
    intro allowance
    rw [Expr.evaluate]
    refine .within (fun inner => (tested inner).bind fun answer => ?_) allowance
    split
    next => exact chosen inner
    next => exact rejected inner
  | loneEntry _ _ _ _ | loneField _ _ _ =>
    intro allowance
    rw [Expr.evaluate]
    exact .within (fun _ => .fault _) allowance

/-- The bindings after a run are those before it, also where the run fails. -/
theorem run_bindings (tree : Expr) (bindings : Bindings) : (tree.run functions bindings).2 = bindings :=
  evaluate_restores functions tree (some Expr.nestingAllowance) { bindings }

/-- Trees evaluated one after the other over the same bindings, failures included:
each one starts from what the one before it left. -/
def runInTurn : List Expr → Bindings → List (Except Failure Value) × Bindings
  | [], bindings => ([], bindings)
  | tree :: rest, bindings =>
    let (outcome, after) := tree.run functions bindings
    let (outcomes, last) := runInTurn rest after
    (outcome :: outcomes, last)

/-- No evaluation shows in the bindings afterwards or in the outcome of a later one:
within any allowance of nesting the scope is left as it was found, and trees that share
one scope come to what each comes to over the initial bindings. -/
theorem evaluation_leaves_no_trace (trees : List Expr) (bindings : Bindings) :
    (∀ tree allowance marksMade, (((tree : Expr).evaluate functions allowance).run ⟨bindings, marksMade⟩).2.bindings
      = bindings) ∧
    (∀ tree : Expr, (tree.run functions bindings).2 = bindings) ∧
    runInTurn functions trees bindings = (trees.map fun tree => (tree.run functions bindings).1, bindings) := by
  refine ⟨fun tree allowance marksMade => evaluate_restores functions tree allowance ⟨bindings, marksMade⟩,
    fun tree => run_bindings functions tree bindings, ?_⟩
  induction trees with
  | nil => rfl
  | cons tree rest ih => simp only [runInTurn, run_bindings, ih, List.map_cons]

end Evaluation
end CommonExpr.Proofs.ScopeRestoration

import CommonExpr.Proofs.EvaluationClosure
import CommonExpr.Proofs.LibraryBreakdowns
import CommonExpr.Proofs.TreeInduction

/-! What evaluation can fail with. A failure is one of the language's own unless memory
runs out or an operation of the expression broke down on operands that were come to. There
are few such operations: the remainder of an infinity, joining, repeating and looking up
where an integer is too long to be written out, and searching for a pattern. -/

namespace CommonExpr.Proofs.EvaluationBreakdowns
open OperatorBreakdowns OperatorFailures LibraryBreakdowns EvaluationClosure

section Origins

/-- The trees directly inside a tree. -/
def children : Expr → List Expr
  | .literal _ _ | .identifier _ => []
  | .select operand _ _ => operand.toList
  | .index operand position => [operand, position]
  | .call target _ arguments _ => target.toList ++ arguments
  | .list elements => elements
  | .map entries => entries.flatMap fun (key, value) => [key, value]
  | .struct _ fields => fields.map (·.2)
  | .comprehension _ range _ initial condition step result => [range, initial, condition, step, result]
  | .unary _ operand => [operand]
  | .binary _ left right => [left, right]
  | .conditional condition whenTrue otherwise => [condition, whenTrue, otherwise]
  | .loneEntry key value => [key, value]
  | .loneField _ value => [value]

/-- A tree is a part of itself and of every tree around it. -/
inductive Occurs (part : Expr) : Expr → Prop where
  | whole : Occurs part part
  | inside {child tree : Expr} (member : child ∈ children tree) (occurs : Occurs part child) : Occurs part tree

variable (functions : Functions)

/-- A value that the tree comes to over some bindings. -/
def Yields (tree : Expr) (value : Value) : Prop :=
  ∃ allowance scope, ((tree.evaluate functions allowance).run scope).1 = .ok value

def YieldsAll (trees : List Expr) (values : List Value) : Prop :=
  ∃ allowance scope, ((Expr.evaluateAll functions trees allowance).run scope).1 = .ok values

/-- An operation that breaks down on operands that were come to. -/
inductive BreaksAt : Expr → Breakdown → Prop where
  | arithmetic {operator : ArithmeticOperator} {left right : Expr} {first second : Value} {cause : Breakdown}
      (before : Yields functions left first) (behind : Yields functions right second)
      (breaks : ArithmeticBreaks operator first second cause) :
      BreaksAt (.binary (.arithmetic operator) left right) cause
  | index {operand position : Expr} {target key : Value} (before : Yields functions operand target)
      (behind : Yields functions position key) (breaks : IndexBreaks target key) :
      BreaksAt (.index operand position) .numberTooLong
  | function {name : String} {arguments : List Expr} {loop : Bool} {values : List Value} {cause : Breakdown}
      (given : YieldsAll functions arguments values)
      (breaks : functions.callFunction name values = .error (.broken cause)) :
      BreaksAt (.call none name arguments loop) cause
  | method {target : Expr} {name : String} {arguments : List Expr} {subject : Value} {values : List Value}
      {cause : Breakdown} (on : Yields functions target subject) (given : YieldsAll functions arguments values)
      (breaks : functions.callMethod subject name values = .error (.broken cause)) :
      BreaksAt (.call (some target) name arguments false) cause

/-- Memory ran out, or it is an operation inside the tree that broke down. -/
def Explained (tree : Expr) (cause : Breakdown) : Prop :=
  cause = .memory ∨ ∃ part, Occurs part tree ∧ BreaksAt functions part cause

variable {functions}

theorem Explained.here {tree : Expr} {cause : Breakdown} (breaks : BreaksAt functions tree cause) :
    Explained functions tree cause :=
  .inr ⟨tree, .whole, breaks⟩

theorem Explained.outward {child tree : Expr} {cause : Breakdown} (explained : Explained functions child cause)
    (member : child ∈ children tree) : Explained functions tree cause :=
  explained.imp_right fun ⟨part, occurs, breaks⟩ => ⟨part, .inside member occurs, breaks⟩

end Origins

section Programs
variable {allowed : Breakdown → Prop} {program : Evaluation α}

/-- Where the computation breaks down, it is in one of the allowed ways. -/
def BreaksWithin (allowed : Breakdown → Prop) (program : Evaluation α) : Prop :=
  ∀ scope, Confined allowed (program.run scope).1

namespace BreaksWithin

theorem weaken {other : Breakdown → Prop} (within : BreaksWithin allowed program)
    (implies : ∀ cause, allowed cause → other cause) : BreaksWithin other program :=
  fun scope => (within scope).weaken implies

theorem pure (value : α) : BreaksWithin allowed (Pure.pure value : Evaluation α) :=
  fun _ => nofun

theorem fault (cause : Fault) : BreaksWithin allowed (Evaluation.fault cause : Evaluation α) :=
  fun _ => nofun

theorem lookup? (name : String) : BreaksWithin allowed (Evaluation.lookup? name) :=
  fun _ => nofun

theorem assign (name : String) (value : Value) : BreaksWithin allowed (Evaluation.assign name value) :=
  fun _ => nofun

theorem settle {outcome : Except Failure α} (confined : Confined allowed outcome) :
    BreaksWithin allowed (Evaluation.settle outcome) :=
  fun _ => confined

theorem produce {outcome : Except Failure Value} (confined : Confined allowed outcome) :
    BreaksWithin allowed (Evaluation.produce outcome) := by
  intro scope
  simp only [Evaluation.produce, ExceptT.run_mk]
  split
  next => exact nofun
  next => exact confined

/-- What follows may use that its value is one the first part came to. -/
theorem bind {next : α → Evaluation β} (first : BreaksWithin allowed program)
    (rest : ∀ value, (∃ scope, (program.run scope).1 = .ok value) → BreaksWithin allowed (next value)) :
    BreaksWithin allowed (program >>= next) := by
  intro scope
  have begun := first scope
  have reached (value : α) : (program.run scope).1 = .ok value → BreaksWithin allowed (next value) :=
    fun same => rest value ⟨scope, same⟩
  rw [run_bind]
  generalize program.run scope = ended at begun reached ⊢
  obtain ⟨outcome, middle⟩ := ended
  cases outcome with
  | ok value => exact reached value rfl middle
  | error failure =>
    rintro cause ⟨⟩
    exact begun cause rfl

theorem within {body : Option Nat → Evaluation α} (inner : ∀ allowance, BreaksWithin allowed (body allowance))
    (allowance : Option Nat) : BreaksWithin allowed (Evaluation.within allowance body) := by
  match allowance with
  | none => exact inner none
  | some 0 => exact fault _
  | some (left + 1) => exact inner (some left)

theorem restoring {names : List String} (body : BreaksWithin allowed program) :
    BreaksWithin allowed (Evaluation.restoring names program) :=
  fun scope => body scope

theorem logicalOperand (operator : LogicalOperator) (value : Value) :
    BreaksWithin allowed (Expr.logicalOperand operator value) := by
  cases value <;> first | exact pure _ | exact fault _

theorem composes (allowed : Breakdown → Prop) : Composes fun _ program => BreaksWithin allowed program :=
  ⟨pure, fun first rest => first.bind fun value _ => rest value⟩

theorem comprehension {name accumulator : String} {initial condition step result : Evaluation Value}
    (started : BreaksWithin allowed initial) (tested : BreaksWithin allowed condition)
    (stepped : BreaksWithin allowed step) (ended : BreaksWithin allowed result) (items : List Value) :
    BreaksWithin allowed (do
      Evaluation.assign accumulator (← initial)
      CommonExpr.foldSteps name accumulator condition step items
      result) :=
  (composes allowed).comprehension (assign name) (assign accumulator) started tested stepped ended items

end BreaksWithin
end Programs

section Lists
variable {functions : Functions} {allowed : Breakdown → Prop}

private theorem evaluateAll_within {trees : List Expr}
    (each : ∀ tree ∈ trees, ∀ allowance, BreaksWithin allowed (tree.evaluate functions allowance))
    (allowance : Option Nat) : BreaksWithin allowed (Expr.evaluateAll functions trees allowance) := by
  induction trees with
  | nil =>
    rw [Expr.evaluateAll]
    exact .pure []
  | cons tree rest ih =>
    obtain ⟨here, later⟩ := List.forall_mem_cons.mp each
    rw [Expr.evaluateAll]
    exact (here allowance).bind fun _ _ => (ih later).bind fun _ _ => .pure _

private theorem evaluateEntries_within {entries : List (Expr × Expr)}
    (keys : ∀ entry ∈ entries, ∀ allowance, BreaksWithin allowed (entry.1.evaluate functions allowance))
    (values : ∀ entry ∈ entries, ∀ allowance, BreaksWithin allowed (entry.2.evaluate functions allowance))
    (allowance : Option Nat) (built : List (Value × Value)) :
    BreaksWithin allowed (Expr.evaluateEntries functions entries allowance built) := by
  induction entries generalizing built with
  | nil =>
    rw [Expr.evaluateEntries]
    exact .pure built
  | cons entry rest ih =>
    obtain ⟨key, keys⟩ := List.forall_mem_cons.mp keys
    obtain ⟨value, values⟩ := List.forall_mem_cons.mp values
    rw [Expr.evaluateEntries]
    refine (key allowance).bind fun name _ => ?_
    have remaining := (value allowance).bind fun content _ => ih keys values (Entries.insert name content built)
    split
    next => exact (BreaksWithin.fault _).bind fun _ _ => remaining
    next => exact remaining

private theorem evaluateFields_within {fields : List (String × Expr)}
    (values : ∀ field ∈ fields, ∀ allowance, BreaksWithin allowed (field.2.evaluate functions allowance))
    (allowance : Option Nat) (built : List (Value × Value)) :
    BreaksWithin allowed (Expr.evaluateFields functions fields allowance built) := by
  induction fields generalizing built with
  | nil =>
    rw [Expr.evaluateFields]
    exact .pure built
  | cons field rest ih =>
    obtain ⟨value, values⟩ := List.forall_mem_cons.mp values
    rw [Expr.evaluateFields]
    exact (value allowance).bind fun content _ => ih values (Entries.insert (.string field.1) content built)

end Lists

section Trees
variable {functions : Functions}

/-- Where evaluation of the tree breaks down, an operation inside the tree explains it. -/
def Accounted (functions : Functions) (tree : Expr) : Prop :=
  ∀ allowance, BreaksWithin (Explained functions tree) (tree.evaluate functions allowance)

/-- The explanations of a tree are among those of the tree around it. -/
theorem Accounted.outward {child tree : Expr} (accounted : Accounted functions child) (member : child ∈ children tree)
    (allowance : Option Nat) : BreaksWithin (Explained functions tree) (child.evaluate functions allowance) :=
  (accounted allowance).weaken fun _ explained => explained.outward member

variable {tree target range initial condition step result left right : Expr} {function : String} {arguments : List Expr}

private theorem arguments_within (given : ∀ argument ∈ arguments, Accounted functions argument)
    (members : ∀ argument ∈ arguments, argument ∈ children tree) (allowance : Option Nat) :
    BreaksWithin (Explained functions tree) (Expr.evaluateAll functions arguments allowance) :=
  evaluateAll_within (fun argument member => (given argument member).outward (members argument member)) allowance

private theorem loop_accounted (subject : Accounted functions target)
    (given : ∀ argument ∈ arguments, Accounted functions argument) :
    Accounted functions (.call (some target) function arguments true) := by
  intro allowance
  rw [Expr.evaluate]
  refine .within (fun inner => (subject.outward (by simp [children]) inner).bind fun value _ => ?_) allowance
  split
  next name body =>
    have accounted : Accounted functions body := given body (by simp)
    split
    next elements _ =>
      split
      next loop _ =>
        refine .restoring ((BreaksWithin.composes _).loop loop (fun element => ?_) elements)
        exact (BreaksWithin.assign name element).bind fun _ _ => accounted.outward (by simp [children]) inner
      next => exact .fault _
    next => exact .fault _
  next => exact .fault _
  next => exact .fault _

private theorem comprehension_accounted (name accumulator : String) (subject : Accounted functions range)
    (started : Accounted functions initial) (tested : Accounted functions condition)
    (stepped : Accounted functions step) (ended : Accounted functions result) :
    Accounted functions (.comprehension name range accumulator initial condition step result) := by
  intro allowance
  rw [Expr.evaluate]
  refine .within (fun inner => (subject.outward (by simp [children]) inner).bind fun value _ => ?_) allowance
  split
  next elements _ =>
    refine .restoring (.comprehension ?_ ?_ ?_ ?_ elements)
    · exact started.outward (by simp [children]) inner
    · exact tested.outward (by simp [children]) inner
    · exact stepped.outward (by simp [children]) inner
    · exact ended.outward (by simp [children]) inner
  next => exact .fault _

private theorem method_accounted (subject : Accounted functions target)
    (given : ∀ argument ∈ arguments, Accounted functions argument) :
    Accounted functions (.call (some target) function arguments false) := by
  intro allowance
  rw [Expr.evaluate]
  refine .within (fun inner => ?_) allowance
  refine (arguments_within given (by simp +contextual [children]) inner).bind fun values ⟨one, first⟩ => ?_
  refine (subject.outward (by simp [children]) inner).bind fun value ⟨other, second⟩ => ?_
  exact .produce fun cause failed => .here (.method ⟨inner, other, second⟩ ⟨inner, one, first⟩ failed)

private theorem function_accounted (loop : Bool) (given : ∀ argument ∈ arguments, Accounted functions argument) :
    Accounted functions (.call none function arguments loop) := by
  intro allowance
  rw [Expr.evaluate]
  refine .within (fun inner => ?_) allowance
  refine (arguments_within given (by simp +contextual [children]) inner).bind fun values ⟨one, first⟩ => ?_
  exact .produce fun cause failed => .here (.function ⟨inner, one, first⟩ failed)

private theorem index_accounted (one : Accounted functions left) (two : Accounted functions right) :
    Accounted functions (.index left right) := by
  intro allowance
  rw [Expr.evaluate]
  refine .within (fun inner => ?_) allowance
  refine (one.outward (by simp [children]) inner).bind fun target ⟨before, first⟩ => ?_
  refine (two.outward (by simp [children]) inner).bind fun key ⟨behind, second⟩ => ?_
  refine .settle fun cause failed => ?_
  obtain ⟨breaks, rfl⟩ := (index_breaks_iff target key cause).mp failed
  exact .here (.index ⟨inner, before, first⟩ ⟨inner, behind, second⟩ breaks)

private theorem arithmetic_accounted (operator : ArithmeticOperator) (one : Accounted functions left)
    (two : Accounted functions right) : Accounted functions (.binary (.arithmetic operator) left right) := by
  intro allowance
  rw [Expr.evaluate]
  refine .within (fun inner => ?_) allowance
  refine (one.outward (by simp [children]) inner).bind fun first ⟨before, begun⟩ => ?_
  refine (two.outward (by simp [children]) inner).bind fun second ⟨behind, ended⟩ => ?_
  refine .produce fun cause failed => ?_
  by_cases room : cause = .memory
  · exact .inl room
  · have breaks := (arithmetic_breaks_iff operator first second cause room).mp failed
    exact .here (.arithmetic ⟨inner, before, begun⟩ ⟨inner, behind, ended⟩ breaks)

private theorem logical_accounted (operator : LogicalOperator) (one : Accounted functions left)
    (two : Accounted functions right) : Accounted functions (.binary (.logical operator) left right) := by
  intro allowance
  rw [Expr.evaluate]
  refine .within (fun inner => (one.outward (by simp [children]) inner).bind fun first _ => ?_) allowance
  refine (BreaksWithin.logicalOperand operator first).bind fun answer _ => ?_
  split
  next => exact .pure _
  next => exact .pure _
  next =>
    exact (two.outward (by simp [children]) inner).bind fun second _ =>
      (BreaksWithin.logicalOperand operator second).bind fun _ _ => .pure _

end Trees

section Evaluation
variable (functions : Functions)

private theorem evaluate_explained (tree : Expr) : Accounted functions tree := by
  induction tree using Expr.byParts with
  | loop target function arguments subject given => exact loop_accounted subject given
  | comprehension name range accumulator initial condition step result subject started tested stepped ended =>
    exact comprehension_accounted name accumulator subject started tested stepped ended
  | method target function arguments subject given => exact method_accounted subject given
  | function function arguments loop given => exact function_accounted loop given
  | index operand position one two => exact index_accounted one two
  | arithmetic operator left right one two => exact arithmetic_accounted operator one two
  | logical operator left right one two => exact logical_accounted operator one two
  | literal kind value =>
    intro allowance
    rw [Expr.evaluate]
    exact .within (fun _ => .pure _) allowance
  | identifier name =>
    intro allowance
    rw [Expr.evaluate]
    refine .within (fun _ => (BreaksWithin.lookup? name).bind fun found _ => ?_) allowance
    cases found with
    | some value => exact .pure value
    | none => exact .fault _
  | dot field test =>
    intro allowance
    rw [Expr.evaluate]
    refine .within (fun _ => (BreaksWithin.lookup? field).bind fun found _ => ?_) allowance
    cases test with
    | true => exact .pure _
    | false =>
      cases found with
      | some value => exact .pure value
      | none => exact .fault _
  | select operand field test accounted =>
    intro allowance
    rw [Expr.evaluate]
    exact .within (fun inner => (accounted.outward (by simp [children]) inner).bind fun target _ =>
      .settle (.of_ends (select_ends .anything trivial field test))) allowance
  | list elements given =>
    intro allowance
    rw [Expr.evaluate]
    exact .within (fun inner => (arguments_within given (by simp [children]) inner).bind fun _ _ => .pure _) allowance
  | map entries keys values =>
    intro allowance
    have inside {entry : Expr × Expr} (member : entry ∈ entries) :
        entry.1 ∈ children (.map entries) ∧ entry.2 ∈ children (.map entries) :=
      ⟨List.mem_flatMap.mpr ⟨entry, member, by simp⟩, List.mem_flatMap.mpr ⟨entry, member, by simp⟩⟩
    rw [Expr.evaluate]
    refine .within (fun inner => (evaluateEntries_within ?_ ?_ inner []).bind fun _ _ => .pure _) allowance
    · exact fun entry member => (keys entry member).outward (inside member).1
    · exact fun entry member => (values entry member).outward (inside member).2
  | struct typeName fields values =>
    intro allowance
    rw [Expr.evaluate]
    refine .within (fun inner => (evaluateFields_within ?_ inner []).bind fun _ _ => .pure _) allowance
    exact fun field member => (values field member).outward (List.mem_map_of_mem member)
  | unary operator operand accounted =>
    intro allowance
    rw [Expr.evaluate]
    exact .within (fun inner => (accounted.outward (by simp [children]) inner).bind fun value _ =>
      .produce (.of_ends (applyUnary_ends .anything operator value))) allowance
  | relational operator left right one two =>
    intro allowance
    rw [Expr.evaluate]
    refine .within (fun inner => ?_) allowance
    refine (one.outward (by simp [children]) inner).bind fun first _ => ?_
    refine (two.outward (by simp [children]) inner).bind fun second _ => ?_
    exact (BreaksWithin.settle (.of_ends (relate_ends operator first second))).bind fun _ _ => .pure _
  | conditional condition whenTrue otherwise tested chosen rejected =>
    intro allowance
    rw [Expr.evaluate]
    refine .within (fun inner => (tested.outward (by simp [children]) inner).bind fun answer _ => ?_) allowance
    split
    next => exact chosen.outward (by simp [children]) inner
    next => exact rejected.outward (by simp [children]) inner
  | loneEntry _ _ _ _ | loneField _ _ _ =>
    intro allowance
    rw [Expr.evaluate]
    exact .within (fun _ => .fault _) allowance

end Evaluation

section Outcome

/-- The names of the failures that are the language's own. -/
def ownNames : List String :=
  ["EvaluationError", "FunctionNotFoundError", "InvalidArgumentsError", "RegistryError"]

private theorem own_or_broken (failure : Failure) : failure.name ∈ ownNames ∨ ∃ cause, failure = .broken cause := by
  cases failure with
  | broken cause => exact .inr ⟨cause, rfl⟩
  | _ => exact .inl (by simp [Failure.name, ownNames])

/-- Nesting that is too deep inside a pattern becomes a fault of the expression. -/
theorem overNesting_breaks {failure : Failure} {cause : Breakdown} (same : failure.overNesting = .broken cause) :
    failure = .broken cause ∧ cause ≠ .patternNesting := by
  unfold Failure.overNesting at same
  split at same
  next => cases same
  next others =>
    refine ⟨same, ?_⟩
    rintro rfl
    exact others same

/-- A call breaks down below the language only where a pattern is searched for. -/
theorem call_breaks {part : Expr} {cause : Breakdown} (breaks : BreaksAt standardFunctions part cause)
    (target : Option Expr) (name : String) (arguments : List Expr) (loop : Bool)
    (call : part = .call target name arguments loop) : CallBreaks name cause := by
  cases breaks with
  | arithmetic _ _ _ => cases call
  | index _ _ _ => cases call
  | function _ broken =>
    cases call
    exact Confined.of_ends (callFunction_ends .anything (fun _ _ => trivial) _) _ broken
  | method _ _ broken =>
    cases call
    exact Confined.of_ends (callMethod_ends .anything (fun _ _ => trivial) trivial _) _ broken

/-- A program comes to a value, or fails with a failure of the language, or memory runs
out, or one of its operations breaks down on operands that it came to. -/
theorem program_fails_with_own_failures_or_breakdowns (source : String) (tree : Expr) (bindings : Bindings) :
    (∃ value, (Program.mk source tree standardFunctions).evaluate bindings = .ok value) ∨
    ∃ failure, (Program.mk source tree standardFunctions).evaluate bindings = .error failure ∧
      (failure.name ∈ ownNames ∨ failure = .broken .memory ∨
        ∃ part cause, failure = .broken cause ∧ cause ≠ .patternNesting ∧ Occurs part tree ∧
          BreaksAt standardFunctions part cause ∧
          ∀ target name arguments loop, part = .call target name arguments loop → CallBreaks name cause) := by
  have explained := evaluate_explained standardFunctions tree (some Expr.nestingAllowance) ⟨bindings, 0⟩
  have answered : (Program.mk source tree standardFunctions).evaluate bindings =
      ((tree.evaluate standardFunctions (some Expr.nestingAllowance)).run ⟨bindings, 0⟩).1.mapError Failure.overNesting :=
    rfl
  rw [answered]
  generalize ((tree.evaluate standardFunctions (some Expr.nestingAllowance)).run ⟨bindings, 0⟩).1 = outcome at explained
  cases outcome with
  | ok value => exact .inl ⟨value, rfl⟩
  | error failure =>
    refine .inr ⟨failure.overNesting, rfl, ?_⟩
    rcases own_or_broken failure.overNesting with own | ⟨cause, broken⟩
    · exact .inl own
    · obtain ⟨same, shallow⟩ := overNesting_breaks broken
      rcases explained cause (congrArg Except.error same) with rfl | ⟨part, occurs, breaks⟩
      · exact .inr (.inl broken)
      · exact .inr (.inr ⟨part, cause, broken, shallow, occurs, breaks, call_breaks breaks⟩)

/-- The remainder of an infinity is such a breakdown, which no failure of the language reports. -/
theorem remainder_of_infinity_escapes : ∃ program, Program.compile "1e999 % 2" = .ok program ∧
    ∃ failure, program.evaluate .empty = .error failure ∧ failure.name = "ValueError" ∧
      failure.name ∉ ownNames ∧ failure ≠ .broken .memory := by
  let tree : Expr := .binary (.arithmetic .modulo) (.literal .double (.double (.infinity false))) (.literal .int (.int 2))
  have read : Expr.parse "1e999 % 2" {} = .ok tree := rfl
  have failed : (tree.run standardFunctions .empty).1 = .error (.broken .infiniteDividend) := rfl
  refine ⟨⟨"1e999 % 2", tree, standardFunctions⟩, ?_, .broken .infiniteDividend, failed, rfl, by decide, nofun⟩
  rw [Program.compile, read]
  rfl

end Outcome
end CommonExpr.Proofs.EvaluationBreakdowns

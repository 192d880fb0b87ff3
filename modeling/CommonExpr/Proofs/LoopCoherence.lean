import CommonExpr.Proofs.LoopFolds

/-! What the loops over one list have to do with each other. All but two of them may stop
before the last element, each at another place, but they visit the elements in the same
turn: where a loop that may stop fails, filter fails there too, and where filter comes to a
list, the others find what can be read off that list. -/

namespace CommonExpr.Proofs.LoopCoherence
open EvaluationClosure OverlayScopes FreeNames ScopeRefinement LoopFolds

section Searches

/-- A search evaluates the body for one element after the other, and may have its answer
before the last of them. -/
inductive Searches (each : Value → Reference Value) : List Value → Reference Bool → Prop where
  | answered (elements : List Value) (found : Bool) : Searches each elements (pure found)
  | visited {element : Value} {rest : List Value} {next : Value → Reference Bool}
      (onward : ∀ value, Searches each rest (next value)) : Searches each (element :: rest) (each element >>= next)

variable {each : Value → Reference Value} {elements : List Value} {marks last : Nat} {failure : Failure}

private theorem allM_searches (elements : List Value) :
    Searches each elements (elements.allM fun element => do return (← each element).isTrue) := by
  induction elements with
  | nil => exact .answered [] true
  | cons element rest ih =>
    simp only [List.allM, bind_assoc, pure_bind]
    refine .visited fun value => ?_
    cases value.isTrue with
    | true => exact ih
    | false => exact .answered rest false

private theorem anyM_searches (elements : List Value) :
    Searches each elements (elements.anyM fun element => do return (← each element).isTrue) := by
  induction elements with
  | nil => exact .answered [] false
  | cons element rest ih =>
    simp only [List.anyM, bind_assoc, pure_bind]
    refine .visited fun value => ?_
    cases value.isTrue with
    | true => exact .answered rest true
    | false => exact ih

private theorem exactlyOne_searches (found : Bool) (elements : List Value) :
    Searches each elements (Reference.exactlyOne (fun element => do return (← each element).isTrue) found elements) := by
  induction elements generalizing found with
  | nil => exact .answered [] found
  | cons element rest ih =>
    simp only [Reference.exactlyOne, bind_assoc, pure_bind]
    refine .visited fun value => ?_
    cases value.isTrue with
    | false => exact ih found
    | true =>
      cases found with
      | true => exact .answered rest false
      | false => exact ih true

/-- Where a search fails, the visits to all elements fail at the same one. -/
theorem Searches.fails {search : Reference Bool} (searches : Searches each elements search)
    (failed : search.run marks = (.error failure, last)) : (visits each elements).run marks = (.error failure, last) := by
  induction searches generalizing marks with
  | answered => cases failed
  | visited _ ih =>
    rw [visits_cons]
    rcases error_of_run_bind failed with here | ⟨value, middle, came, further⟩
    · exact run_bind_of_error here
    · rw [run_bind_of_ok came]
      exact run_bind_of_error (ih value further)

/-- What is only read off a result cannot fail in addition. -/
theorem failed_before_reading {first : Reference α} {read : α → β}
    (failed : (do return read (← first) : Reference β).run marks = (.error failure, last)) :
    first.run marks = (.error failure, last) := by
  rcases error_of_run_bind failed with here | ⟨_, _, _, further⟩
  · exact here
  · cases further

/-- Whichever loop fails, the visits fail in the same way. -/
theorem visits_fail (loop : Loop) (failed : (Reference.loop loop each elements).run marks = (.error failure, last)) :
    (visits each elements).run marks = (.error failure, last) := by
  cases loop with
  | map =>
    rw [map_reads] at failed
    exact failed_before_reading failed
  | filter =>
    rw [filter_reads] at failed
    exact failed_before_reading failed
  | all => exact (allM_searches elements).fails (failed_before_reading failed)
  | «exists» => exact (anyM_searches elements).fails (failed_before_reading failed)
  | existsOne => exact (exactlyOne_searches false elements).fails (failed_before_reading failed)

private theorem filter_fails_too (loop : Loop)
    (failed : (Reference.loop loop each elements).run marks = (.error failure, last)) :
    (Reference.loop .filter each elements).run marks = (.error failure, last) := by
  rw [filter_reads]
  exact run_bind_of_error (visits_fail loop failed)

end Searches

section Kept
variable {each : Value → Reference Value} {elements : List Value} {marks last : Nat}

private theorem visited_elements {visited : List (Value × Value)}
    (came : (visits each elements).run marks = (.ok visited, last)) :
    visited.map Prod.fst = elements := by
  induction elements generalizing marks visited with
  | nil =>
    cases came
    rfl
  | cons element rest ih =>
    obtain ⟨value, middle, others, _, further, rfl⟩ := visits_cons_came came
    rw [List.map_cons, ih further]

/-- What the loops that ask a question answer where filter has kept some of the elements. -/
structure ReadOff (elements kept : List Value) (answer : Loop → Except Failure Value) : Prop where
  subsequence : kept.Sublist elements
  whetherAny : answer .exists = .ok (.bool !kept.isEmpty)
  whetherOne : answer .existsOne = .ok (.bool (kept.length == 1))
  whetherAll : answer .all = .ok (.bool (kept.length == elements.length))

/-- Where filter comes to a value, that is a list of elements that the other loops agree with. -/
theorem filter_read_off {value : Value} (came : (Reference.loop .filter each elements).run marks = (.ok value, last)) :
    ∃ kept, value = .list kept ∧
      ReadOff elements kept fun loop => ((Reference.loop loop each elements).run marks).1 := by
  rw [filter_reads] at came
  obtain ⟨visited, _, all, done⟩ := ok_of_run_bind came
  cases done
  refine ⟨(visited.filter passes).map Prod.fst, rfl, ?_, ?_, ?_, ?_⟩
  · rw [← visited_elements all]
    exact List.filter_sublist.map Prod.fst
  · rw [loop_reads .exists all, reading, List.isEmpty_map]
    congr 2
    rw [Bool.eq_iff_iff]
    simp [List.filter_eq_nil_iff]
  · rw [loop_reads .existsOne all, reading, List.length_map, List.countP_eq_length_filter]
  · rw [loop_reads .all all, reading, List.length_map, ← visited_elements all, List.length_map]
    congr 2
    rw [Bool.eq_iff_iff, beq_iff_eq, List.length_filter_eq_length_iff, List.all_eq_true]

end Kept

section Negation

/-- Every evaluation of a body that the loop all makes gives a bool or fails. -/
inductive Decides (each : Value → Evaluation Value) : List Value → Scope → Prop where
  | exhausted (scope : Scope) : Decides each [] scope
  | failed {element : Value} {rest : List Value} {scope after : Scope} {failure : Failure}
      (ended : (each element).run scope = (.error failure, after)) : Decides each (element :: rest) scope
  | refused {element : Value} {rest : List Value} {scope after : Scope}
      (ended : (each element).run scope = (.ok (.bool false), after)) : Decides each (element :: rest) scope
  | passed {element : Value} {rest : List Value} {scope after : Scope}
      (ended : (each element).run scope = (.ok (.bool true), after)) (onward : Decides each rest after) :
      Decides each (element :: rest) scope

/-- A computation with `!` in front of it. -/
def turned (program : Evaluation Value) : Evaluation Value := do
  let value ← program
  Evaluation.produce (Value.applyUnary .not value)

private theorem turned_of_error {program : Evaluation Value} {failure : Failure} {scope after : Scope}
    (ended : program.run scope = (.error failure, after)) : (turned program).run scope = (.error failure, after) :=
  run_bind_of_error ended

private theorem turned_of_bool {program : Evaluation Value} {answer : Bool} {scope after : Scope}
    (ended : program.run scope = (.ok (.bool answer), after)) :
    (turned program).run scope = (.ok (.bool !answer), after) := by
  rw [turned, run_bind_of_ok ended]
  rfl

variable {each : Value → Evaluation Value} {elements : List Value} {scope : Scope}

/-- Where the body decides, the first element that is not true of it is the first one that is true
of its opposite. -/
theorem anyM_turned (decides : Decides each elements scope) :
    (elements.anyM fun element => do return (← turned (each element)).isTrue : Evaluation Bool).run scope =
      (do return !(← elements.allM fun element => do return (← each element).isTrue) : Evaluation Bool).run scope := by
  induction decides with
  | exhausted => rfl
  | failed ended =>
    simp only [List.anyM, List.allM, bind_assoc]
    rw [run_bind_of_error (turned_of_error ended), run_bind_of_error ended]
  | refused ended =>
    simp only [List.anyM, List.allM, bind_assoc]
    rw [run_bind_of_ok (turned_of_bool ended), run_bind_of_ok ended]
    rfl
  | passed ended _ ih =>
    simp only [List.anyM, List.allM, bind_assoc]
    rw [run_bind_of_ok (turned_of_bool ended), run_bind_of_ok ended]
    exact ih

private theorem turned_exists (decides : Decides each elements scope) :
    (turned (Loop.exists.run (fun element => turned (each element)) elements)).run scope =
      (Loop.all.run each elements).run scope := by
  have opposite := anyM_turned decides
  rcases ended : (elements.allM fun element => do return (← each element).isTrue : Evaluation Bool).run scope
    with ⟨failure | answer, after⟩
  · rw [run_bind_of_error ended] at opposite
    have found : (Loop.exists.run (fun element => turned (each element)) elements).run scope = (.error failure, after) :=
      run_bind_of_error opposite
    have every : (Loop.all.run each elements).run scope = (.error failure, after) := run_bind_of_error ended
    rw [turned_of_error found, every]
  · rw [run_bind_of_ok ended] at opposite
    have found : (Loop.exists.run (fun element => turned (each element)) elements).run scope =
        (.ok (.bool !answer), after) := run_bind_of_ok opposite
    have every : (Loop.all.run each elements).run scope = (.ok (.bool answer), after) := run_bind_of_ok ended
    rw [turned_of_bool found, every, Bool.not_not]

/-- How `!` ends depends on how its operand ends, and not on the scope. -/
theorem turned_congr {first second : Evaluation Value} {here there : Scope}
    (same : (first.run here).1 = (second.run there).1) :
    ((turned first).run here).1 = ((turned second).run there).1 := by
  rcases one : first.run here with ⟨failure | value, after⟩
  · rw [one] at same
    have other : second.run there = (.error failure, (second.run there).2) := Prod.ext same.symm rfl
    rw [turned_of_error one, turned_of_error other]
  · rw [one] at same
    have other : second.run there = (.ok value, (second.run there).2) := Prod.ext same.symm rfl
    rw [turned, turned, run_bind_of_ok one, run_bind_of_ok other]
    cases value <;> rfl

end Negation

section Outcomes
variable (functions : Functions) {name : String} {target body : Expr} {elements : List Value} {scope after : Scope}

/-- What a loop all says, in the words of exists. -/
abbrev noneFails (target : Expr) (name : String) (body : Expr) : Expr :=
  .unary .not (looping .exists target name (.unary .not body))

private theorem not_evaluates (operand : Expr) :
    (Expr.unary .not operand).evaluate functions none = turned (operand.evaluate functions none) := by
  rw [Expr.evaluate, Evaluation.within, turned]

/-- The body of a loop, with the name bound to an element. -/
abbrev bound (functions : Functions) (name : String) (body : Expr) (element : Value) : Evaluation Value := do
  Evaluation.assign name element
  body.evaluate functions none

private theorem looping_outcome (loop : Loop)
    (came : (target.evaluate functions none).run scope = (.ok (.list elements), after)) :
    (((looping loop target name body).evaluate functions none).run scope).1 =
      ((loop.run (bound functions name body) elements).run after).1 := by
  rw [looping, Expr.evaluate, Evaluation.within, run_bind_of_ok came]
  simp only [ofName?_nameOf]
  rfl

private theorem all_is_none_fails (came : (target.evaluate functions none).run scope = (.ok (.list elements), after))
    (decides : Decides (bound functions name body) elements after) :
    (((looping .all target name body).evaluate functions none).run scope).1 =
      (((noneFails target name body).evaluate functions none).run scope).1 := by
  have bodies : bound functions name (.unary .not body) = fun element => turned (bound functions name body element) := by
    funext element
    simp only [bound, not_evaluates, turned, bind_assoc]
  have inside : (((looping .exists target name (.unary .not body)).evaluate functions none).run scope).1 =
      ((Loop.exists.run (bound functions name (.unary .not body)) elements).run after).1 := looping_outcome functions .exists came
  rw [bodies] at inside
  rw [looping_outcome functions .all came, not_evaluates, turned_congr inside, turned_exists decides]

/-- Under a limit on nesting either every loop over the target fails for one reason before it
begins, or each of them runs over the same elements with the same body. -/
theorem loopings_under_limit {environment : Environment} {marks last : Nat} (name : String) (body : Expr)
    (came : (Reference.evaluate functions target environment none).run marks = (.ok (.list elements), last))
    (allowance : Option Nat) :
    (∃ failure, ∀ loop,
      ((Reference.evaluate functions (looping loop target name body) environment allowance).run marks).1 = .error failure) ∨
    ∃ each, ∀ loop, (Reference.evaluate functions (looping loop target name body) environment allowance).run marks =
      (Reference.loop loop each elements).run last := by
  match allowance with
  | none => exact .inr ⟨_, fun loop => looping_run loop came⟩
  | some 0 =>
    refine .inl ⟨.fault .nestedTooDeeply, fun loop => ?_⟩
    rw [looping, Reference.evaluate, Reference.within]
    rfl
  | some (left + 1) =>
    rcases evaluate_unlimited functions target environment (some left) marks with stopped | same
    · refine .inl ⟨.fault .nestedTooDeeply, fun loop => ?_⟩
      rw [looping, Reference.evaluate, Reference.within, run_bind_of_error (Prod.ext stopped rfl)]
    · refine .inr ⟨fun element => Reference.evaluate functions body (.overlay name element environment) (some left), ?_⟩
      intro loop
      rw [looping, Reference.evaluate, Reference.within, run_bind_of_ok (same.trans came)]
      simp only [ofName?_nameOf]

private theorem outcome_eq_reference (tree : Expr) (allowance : Option Nat) (bindings : Bindings) (marksMade : Nat) :
    ((tree.evaluate functions allowance).run ⟨bindings, marksMade⟩).1 =
      ((Reference.evaluate functions tree (.base bindings) allowance).run marksMade).1 := by
  rw [run_eq_reference]
  rfl

/-- Two trees that come to one outcome do so under any limit, unless it stops one of the two. -/
theorem alike_under_limit {first second : Expr} (bindings : Bindings) (marksMade : Nat)
    (same : ((first.evaluate functions none).run ⟨bindings, marksMade⟩).1 =
      ((second.evaluate functions none).run ⟨bindings, marksMade⟩).1) (allowance : Option Nat) :
    let ending (tree : Expr) := ((tree.evaluate functions allowance).run ⟨bindings, marksMade⟩).1
    ending first = ending second ∨ ending first = .error (.fault .nestedTooDeeply) ∨
      ending second = .error (.fault .nestedTooDeeply) := by
  simp only [outcome_eq_reference] at same ⊢
  rcases evaluate_unlimited functions first (.base bindings) allowance marksMade with stopped | one
  · exact .inr (.inl stopped)
  · rcases evaluate_unlimited functions second (.base bindings) allowance marksMade with stopped | two
    · exact .inr (.inr stopped)
    · rw [one, two]
      exact .inl same

/-- The loops over one list are coherent. All says what exists says of the opposite, if the body
gives a bool wherever it does not fail. Where filter comes to a value, it keeps a subsequence, and
the others answer what can be read off it. Where any of them fails, filter fails as it does. A limit
on nesting is the same for all of them, but may stop one of two trees of unequal depth. -/
theorem list_loops_are_coherent (target body : Expr) (name : String) {scope after : Scope} {elements : List Value}
    (comes : (target.evaluate functions none).run scope = (.ok (.list elements), after)) :
    (Decides (bound functions name body) elements after →
      (((looping .all target name body).evaluate functions none).run scope).1 =
          (((noneFails target name body).evaluate functions none).run scope).1 ∧
        ∀ allowance,
          let ending (tree : Expr) := ((tree.evaluate functions allowance).run scope).1
          ending (looping .all target name body) = ending (noneFails target name body) ∨
            ending (looping .all target name body) = .error (.fault .nestedTooDeeply) ∨
            ending (noneFails target name body) = .error (.fault .nestedTooDeeply)) ∧
      ∀ allowance,
        let ending (loop : Loop) := (((looping loop target name body).evaluate functions allowance).run scope).1
        (∀ value, ending .filter = .ok value → ∃ kept, value = .list kept ∧ ReadOff elements kept ending) ∧
          ∀ loop failure, ending loop = .error failure → ending .filter = .error failure := by
  obtain ⟨bindings, marksMade⟩ := scope
  refine ⟨fun decides => ?_, fun allowance => ?_⟩
  · have same := all_is_none_fails functions comes decides
    exact ⟨same, alike_under_limit functions bindings marksMade same⟩
  · intro ending
    have reference (loop : Loop) : ending loop =
        ((Reference.evaluate functions (looping loop target name body) (.base bindings) allowance).run marksMade).1 :=
      outcome_eq_reference functions (looping loop target name body) allowance bindings marksMade
    have came : ((Reference.evaluate functions target (.base bindings) none).run marksMade).1 = .ok (.list elements) := by
      rw [← outcome_eq_reference, comes]
    rcases loopings_under_limit functions name body (Prod.ext came rfl) allowance with ⟨failure, fails⟩ | ⟨each, runs⟩
    · have alike (loop : Loop) : ending loop = .error failure := (reference loop).trans (fails loop)
      refine ⟨fun value kept => ?_, fun loop other failed => ?_⟩
      · rw [alike] at kept
        cases kept
      · rw [alike] at failed ⊢
        exact failed
    · have alike : ending = fun loop => ((Reference.loop loop each elements).run _).1 :=
        funext fun loop => (reference loop).trans (congrArg Prod.fst (runs loop))
      rw [alike]
      refine ⟨fun value kept => filter_read_off (Prod.ext kept rfl), fun loop failure failed => ?_⟩
      exact congrArg Prod.fst (filter_fails_too loop (Prod.ext failed rfl))

/-- Of three elements the first is false and the last no bool. All stops at the first, filter keeps
the second, and with the body turned round filter fails for the last, as the others do that get there. -/
theorem loops_over_false_true_null :
    let target : Expr := .list [truth false, truth true, .literal .null .null]
    let scope : Scope := ⟨⟨[("x", .int 1)]⟩, 0⟩
    let ending (tree : Expr) := ((tree.evaluate standardFunctions none).run scope).1
    let opposite : Expr := .unary .not (.identifier "x")
    ending (noneFails target "x" (.identifier "x")) = .ok (.bool false) ∧
      ReadOff [.bool false, .bool true, .null] [.bool true]
        (fun loop => ending (looping loop target "x" (.identifier "x"))) ∧
      ending (looping .filter target "x" opposite) = .error (.fault (.notOperand "null")) := by
  intro target scope ending opposite
  have comes : (target.evaluate standardFunctions none).run scope =
      (.ok (.list [.bool false, .bool true, .null]), scope) := by rfl
  have decides : Decides (bound standardFunctions "x" (.identifier "x")) [.bool false, .bool true, .null] scope :=
    .refused rfl
  obtain ⟨negated, loops⟩ := list_loops_are_coherent standardFunctions target (.identifier "x") "x" comes
  obtain ⟨_, overs⟩ := list_loops_are_coherent standardFunctions target opposite "x" comes
  refine ⟨?_, ?_, ?_⟩
  · exact (negated decides).1.symm.trans rfl
  · obtain ⟨kept, same, readOff⟩ := (loops none).1 (.list [.bool true]) rfl
    cases same
    exact readOff
  · exact (overs none).2 .existsOne _ rfl

end Outcomes

end CommonExpr.Proofs.LoopCoherence

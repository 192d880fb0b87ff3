import CommonExpr.Program
import CommonExpr.Proofs.EvaluationClosure
import CommonExpr.Proofs.FreeNames
import CommonExpr.Proofs.NumberPlaces

/-! Every loop is a fold. A loop evaluates its body for one element after the other, and so
does a fold that keeps in its accumulator what the loop has found so far. A loop that may end
early has found what the whole fold finds, if nothing behind that place fails. -/

namespace CommonExpr.Proofs.LoopFolds
open EvaluationClosure OverlayScopes FreeNames ScopeRefinement NumberPlaces

section Trees

/-- The name by which a loop is called. -/
def nameOf : Loop → String
  | .map => "map"
  | .filter => "filter"
  | .all => "all"
  | .exists => "exists"
  | .existsOne => "existsOne"

theorem ofName?_nameOf (loop : Loop) : Loop.ofName? (nameOf loop) = some loop := by
  cases loop <;> rfl

/-- The loop over a target, with its body. -/
def looping (loop : Loop) (target : Expr) (name : String) (body : Expr) : Expr :=
  .call (some target) (nameOf loop) [.identifier name, body] true

abbrev truth (value : Bool) : Expr :=
  .literal .bool (.bool value)

abbrev one : Expr :=
  .literal .int (.int 1)

abbrev plus (name : String) (more : Expr) : Expr :=
  .binary (.arithmetic .add) (.identifier name) more

/-- The fold that stands for a loop. -/
def folding (loop : Loop) (target : Expr) (name : String) (body : Expr) (accumulator : String) : Expr :=
  match loop with
  | .map => .comprehension name target accumulator (.list []) (truth true) (plus accumulator (.list [body]))
      (.identifier accumulator)
  | .filter => .comprehension name target accumulator (.list []) body (plus accumulator (.list [.identifier name]))
      (.identifier accumulator)
  | .all => .comprehension name target accumulator (truth true) (.conditional body (truth false) (truth true))
      (truth false) (.identifier accumulator)
  | .exists => .comprehension name target accumulator (truth false) body (truth true) (.identifier accumulator)
  | .existsOne => .comprehension name target accumulator (.literal .int (.int 0)) body (plus accumulator one)
      (.binary (.relational .equal) (.identifier accumulator) one)

end Trees

section Visits

/-- The elements in turn, each with what the body comes to for it. -/
def visits (each : Value → Reference Value) (elements : List Value) : Reference (List (Value × Value)) :=
  elements.mapM fun element => do return (element, ← each element)

def passes (visit : Value × Value) : Bool :=
  visit.2.isTrue

/-- What a loop finds in its visits to all the elements. -/
def reading (loop : Loop) (visited : List (Value × Value)) : Value :=
  match loop with
  | .map => .list (visited.map Prod.snd)
  | .filter => .list ((visited.filter passes).map Prod.fst)
  | .all => .bool (visited.all passes)
  | .exists => .bool (visited.any passes)
  | .existsOne => .bool (visited.countP passes == 1)

variable {each : Value → Reference Value}

theorem visits_cons (element : Value) (rest : List Value) :
    visits each (element :: rest) = do
      let value ← each element
      let visited ← visits each rest
      return (element, value) :: visited := by
  simp only [visits, List.mapM_cons, bind_assoc, pure_bind]

theorem map_reads (elements : List Value) :
    Reference.loop .map each elements = do return reading .map (← visits each elements) := by
  have mapped : elements.mapM each = do return (← visits each elements).map Prod.snd := by
    induction elements with
    | nil => rfl
    | cons element rest ih => simp only [visits_cons, List.mapM_cons, ih, bind_assoc, pure_bind, List.map_cons]
  simp only [Reference.loop, mapped, reading, bind_assoc, pure_bind]

theorem filter_reads (elements : List Value) :
    Reference.loop .filter each elements = do return reading .filter (← visits each elements) := by
  -- What has passed is collected the other way round.
  have kept (before : List Value) :
      elements.filterAuxM (fun element => do return (← each element).isTrue : Value → Reference Bool) before = do
        return (((← visits each elements).filter passes).map Prod.fst).reverse ++ before := by
    induction elements generalizing before with
    | nil => rfl
    | cons element rest ih =>
      simp only [visits_cons, List.filterAuxM, bind_assoc, pure_bind, ih]
      refine bind_congr fun value => bind_congr fun visited => ?_
      cases passed : value.isTrue <;> simp [passes, passed]
  simp only [Reference.loop, List.filterM, kept, reading, bind_assoc, pure_bind, List.append_nil, List.reverse_reverse]

theorem visits_cons_came {element : Value} {rest : List Value} {marks last : Nat} {visited : List (Value × Value)}
    (came : (visits each (element :: rest)).run marks = (.ok visited, last)) :
    ∃ value middle others, (each element).run marks = (.ok value, middle) ∧
      (visits each rest).run middle = (.ok others, last) ∧ visited = (element, value) :: others := by
  rw [visits_cons] at came
  obtain ⟨value, middle, first, remaining⟩ := ok_of_run_bind came
  obtain ⟨others, _, further, done⟩ := ok_of_run_bind remaining
  cases done
  exact ⟨value, middle, others, first, further, rfl⟩

section Early
variable {elements : List Value} {marks last : Nat} {visited : List (Value × Value)}

private theorem allM_reads (came : (visits each elements).run marks = (.ok visited, last)) :
    ((elements.allM fun element => do return (← each element).isTrue : Reference Bool).run marks).1 =
      .ok (visited.all passes) := by
  induction elements generalizing marks visited with
  | nil =>
    cases came
    rfl
  | cons element rest ih =>
    obtain ⟨value, middle, others, first, further, rfl⟩ := visits_cons_came came
    rw [List.allM, bind_assoc, run_bind_of_ok first, pure_bind]
    cases passed : value.isTrue with
    | true => simpa [passes, passed] using ih further
    | false =>
      simp only [List.all_cons, passes, passed, Bool.false_and]
      rfl

private theorem anyM_reads (came : (visits each elements).run marks = (.ok visited, last)) :
    ((elements.anyM fun element => do return (← each element).isTrue : Reference Bool).run marks).1 =
      .ok (visited.any passes) := by
  induction elements generalizing marks visited with
  | nil =>
    cases came
    rfl
  | cons element rest ih =>
    obtain ⟨value, middle, others, first, further, rfl⟩ := visits_cons_came came
    rw [List.anyM, bind_assoc, run_bind_of_ok first, pure_bind]
    cases passed : value.isTrue with
    | true =>
      simp only [List.any_cons, passes, passed, Bool.true_or]
      rfl
    | false => simpa [passes, passed] using ih further

private theorem exactlyOne_reads (found : Bool) (came : (visits each elements).run marks = (.ok visited, last)) :
    ((Reference.exactlyOne (fun element => do return (← each element).isTrue) found elements).run marks).1 =
      .ok (visited.countP passes + found.toNat == 1) := by
  induction elements generalizing marks visited found with
  | nil =>
    cases came
    cases found <;> rfl
  | cons element rest ih =>
    obtain ⟨value, middle, others, first, further, rfl⟩ := visits_cons_came came
    rw [Reference.exactlyOne, bind_assoc, run_bind_of_ok first, pure_bind]
    cases passed : value.isTrue with
    | false => simpa [passes, passed] using ih found further
    | true =>
      cases found with
      | false => simpa [passes, passed] using ih true further
      | true =>
        have more : (((element, value) :: others).countP passes + true.toNat == 1) = false := by simp [passes, passed]
        rw [more]
        rfl

end Early

/-- Where all visits come to values, every loop ends with what it finds in these. -/
theorem loop_reads (loop : Loop) {elements : List Value} {marks last : Nat} {visited : List (Value × Value)}
    (came : (visits each elements).run marks = (.ok visited, last)) :
    ((Reference.loop loop each elements).run marks).1 = .ok (reading loop visited) := by
  have answered {answer : Bool} {test : Reference Bool} (decided : (test.run marks).1 = .ok answer) :
      ((do return Value.bool (← test) : Reference Value).run marks).1 = .ok (.bool answer) := by
    rw [run_bind_of_ok (Prod.ext decided rfl)]
    rfl
  cases loop with
  | map =>
    rw [map_reads, run_bind_of_ok came]
    rfl
  | filter =>
    rw [filter_reads, run_bind_of_ok came]
    rfl
  | all => exact answered (allM_reads came)
  | «exists» => exact answered (anyM_reads came)
  | existsOne => exact answered (exactlyOne_reads false came)

end Visits

section Gatherings

/-- What the accumulator of a fold holds, what a visit makes of it, if anything, and what the fold
comes to in the end. -/
structure Gathering (Held : Type) where
  toValue : Held → Value
  take : Held → Value × Value → Option Held
  out : Held → Value

def Gathering.after (gathering : Gathering Held) (held : Held) (visited : List (Value × Value)) : Held :=
  visited.foldl (fun held visit => (gathering.take held visit).getD held) held

def mapped : Gathering (List Value) where
  toValue := .list
  take found visit := some (found ++ [visit.2])
  out := .list

def filtered : Gathering (List Value) where
  toValue := .list
  take found visit := if passes visit then some (found ++ [visit.1]) else none
  out := .list

def allPassed : Gathering Bool where
  toValue := .bool
  take _ visit := if passes visit then none else some false
  out := .bool

def anyPassed : Gathering Bool where
  toValue := .bool
  take _ visit := if passes visit then some true else none
  out := .bool

def onePassed : Gathering Int where
  toValue := .int
  take count visit := if passes visit then some (count + 1) else none
  out count := .bool (count == 1)

private theorem mapped_after (found : List Value) (visited : List (Value × Value)) :
    mapped.after found visited = found ++ visited.map Prod.snd := by
  induction visited generalizing found with
  | nil => simp [Gathering.after]
  | cons visit rest ih => simpa [Gathering.after, mapped] using ih (found ++ [visit.2])

private theorem filtered_after (found : List Value) (visited : List (Value × Value)) :
    filtered.after found visited = found ++ (visited.filter passes).map Prod.fst := by
  induction visited generalizing found with
  | nil => simp [Gathering.after]
  | cons visit rest ih =>
    cases passed : passes visit with
    | true => simpa [Gathering.after, filtered, passed] using ih (found ++ [visit.1])
    | false => simpa [Gathering.after, filtered, passed] using ih found

private theorem allPassed_after (held : Bool) (visited : List (Value × Value)) :
    allPassed.after held visited = (held && visited.all passes) := by
  induction visited generalizing held with
  | nil => simp [Gathering.after]
  | cons visit rest ih =>
    cases passed : passes visit with
    | true => simpa [Gathering.after, allPassed, passed] using ih held
    | false => simpa [Gathering.after, allPassed, passed] using ih false

private theorem anyPassed_after (held : Bool) (visited : List (Value × Value)) :
    anyPassed.after held visited = (held || visited.any passes) := by
  induction visited generalizing held with
  | nil => simp [Gathering.after]
  | cons visit rest ih =>
    cases passed : passes visit with
    | true => simpa [Gathering.after, anyPassed, passed] using ih true
    | false => simpa [Gathering.after, anyPassed, passed] using ih held

private theorem onePassed_after (count : Int) (visited : List (Value × Value)) :
    onePassed.after count visited = count + visited.countP passes := by
  induction visited generalizing count with
  | nil => simp [Gathering.after]
  | cons visit rest ih =>
    cases passed : passes visit with
    | true =>
      have counted := ih (count + 1)
      simp only [Gathering.after, onePassed, List.foldl_cons, passed, List.countP_cons, ↓reduceIte,
        Option.getD_some] at counted ⊢
      rw [counted]
      omega
    | false => simpa [Gathering.after, onePassed, passed] using ih count

end Gatherings

section Turns
variable {functions : Functions} {name accumulator : String} {environment : Environment}

/-- The accumulator holds a value, and but for it and the name of the element nothing is bound anew. -/
structure Holding (name accumulator : String) (environment : Environment) (held : Value) (here : Environment) : Prop where
  found : here.get? accumulator = some held
  beneath : ∀ free, free ≠ name → free ≠ accumulator → here.get? free = environment.get? free

theorem Holding.replace {here : Environment} {value : Value}
    (beneath : ∀ free, free ≠ name → free ≠ accumulator → here.get? free = environment.get? free) :
    Holding name accumulator environment value (.overlay accumulator value here) where
  found := if_pos rfl
  beneath free other apart := by rw [Environment.get?, if_neg apart, beneath free other apart]

theorem Holding.next {held : Value} {here : Environment} (holding : Holding name accumulator environment held here)
    (distinct : accumulator ≠ name) (element : Value) :
    Holding name accumulator environment held (.overlay name element here) where
  found := by rw [Environment.get?, if_neg distinct, holding.found]
  beneath free other apart := by rw [Environment.get?, if_neg other, holding.beneath free other apart]

/-- A body that does not read the accumulator is evaluated as if there were none. -/
theorem Holding.body {held : Value} {here : Environment} {body : Expr}
    (holding : Holding name accumulator environment held here) (fresh : accumulator ∉ freeNames body) (element : Value) :
    Reference.evaluate functions body (.overlay name element here) none =
      Reference.evaluate functions body (.overlay name element environment) none := by
  refine evaluate_congr functions body (fun free member => ?_) none
  rw [Environment.get?, Environment.get?]
  split
  next => rfl
  next other => exact holding.beneath free other fun same => fresh (same ▸ member)

/-- What the accumulator is to be for one element, if the condition is true of it. -/
def turn (functions : Functions) (condition step : Expr) (here : Environment) : Reference (Option Value) := do
  if (← Reference.evaluate functions condition here none).isTrue then
    return some (← Reference.evaluate functions step here none)
  else return none

/-- The steps of a fold on trees, without a limit on nesting. -/
abbrev steps (functions : Functions) (name accumulator : String) (condition step : Expr) :
    Environment → List Value → Reference Environment :=
  Reference.fold name accumulator (fun here => Reference.evaluate functions condition here none)
    (fun here => Reference.evaluate functions step here none)

private theorem steps_cons (condition step : Expr) (element : Value) (rest : List Value) :
    steps functions name accumulator condition step environment (element :: rest) = (do
      let taken ← turn functions condition step (.overlay name element environment)
      let here := Environment.overlay name element environment
      steps functions name accumulator condition step (taken.elim here fun value => .overlay accumulator value here) rest) := by
  rw [steps, Reference.fold]
  simp only [turn, bind_assoc]
  refine bind_congr fun answer => ?_
  split <;> simp

/-- Each turn of a fold evaluates a body once and takes what it comes to into the accumulator. -/
structure Gathers (functions : Functions) (name accumulator : String) (body : Expr) (environment : Environment)
    (gathering : Gathering Held) (condition step result : Expr) : Prop where
  turns : ∀ here element held, Holding name accumulator environment (gathering.toValue held) here →
    turn functions condition step (.overlay name element here) = do
      let value ← Reference.evaluate functions body (.overlay name element environment) none
      return (gathering.take held (element, value)).map gathering.toValue
  ends : ∀ last held, Holding name accumulator environment (gathering.toValue held) last →
    Reference.evaluate functions result last none = pure (gathering.out held)

namespace Gathers
variable {gathering : Gathering Held} {body condition step result : Expr}

theorem visits_all (gathers : Gathers functions name accumulator body environment gathering condition step result)
    (distinct : accumulator ≠ name) (elements : List Value) {held : Held} {here : Environment}
    (holding : Holding name accumulator environment (gathering.toValue held) here) :
    (do
      let last ← steps functions name accumulator condition step here elements
      Reference.evaluate functions result last none) = do
      let visited ← visits (fun element =>
        Reference.evaluate functions body (.overlay name element environment) none) elements
      return gathering.out (gathering.after held visited) := by
  induction elements generalizing held here with
  | nil => exact gathers.ends _ _ holding
  | cons element rest ih =>
    rw [steps_cons, gathers.turns _ _ _ holding]
    simp only [visits_cons, bind_assoc, pure_bind, Gathering.after, List.foldl_cons]
    refine bind_congr fun value => ?_
    cases gathering.take held (element, value) with
    | none => exact ih (holding.next distinct element)
    | some next => exact ih (.replace (holding.next distinct element).beneath)

/-- A fold comes to what it has gathered, unless its range is no list. -/
theorem evaluates (gathers : Gathers functions name accumulator body environment gathering condition step result)
    (distinct : accumulator ≠ name) {target initial : Expr} (start : Held)
    (starts : Reference.evaluate functions initial environment none = pure (gathering.toValue start)) :
    Reference.evaluate functions (.comprehension name target accumulator initial condition step result) environment none = (do
      match ← Reference.evaluate functions target environment none with
      | .list elements =>
        let visited ← visits (fun element =>
          Reference.evaluate functions body (.overlay name element environment) none) elements
        return gathering.out (gathering.after start visited)
      | other => Reference.fault (.comprehensionRange other.typeName)) := by
  rw [Reference.evaluate]
  refine bind_congr fun subject => ?_
  cases subject with
  | list elements =>
    simp only [starts, pure_bind]
    exact gathers.visits_all distinct elements (.replace fun _ _ _ => rfl)
  | null | bool _ | number _ | text _ _ | map _ _ | date _ => rfl

end Gathers
end Turns

section Folds
variable {functions : Functions} {name accumulator : String} {environment : Environment} {body : Expr}

private theorem literal_evaluates (kind : LiteralKind) (value : Value) (here : Environment) :
    Reference.evaluate functions (.literal kind value) here none = pure value := by
  rw [Reference.evaluate, Reference.within]

private theorem identifier_evaluates {found : String} {value : Value} {here : Environment}
    (bound : here.get? found = some value) :
    Reference.evaluate functions (.identifier found) here none = pure value := by
  rw [Reference.evaluate, Reference.within, Reference.lookup?, bound, pure_bind]

private theorem list_evaluates (tree : Expr) (here : Environment) :
    Reference.evaluate functions (.list [tree]) here none = do
      return .list [← Reference.evaluate functions tree here none] := by
  simp only [Reference.evaluate, Reference.within, Reference.evaluateAll, bind_assoc, pure_bind]

private theorem plus_evaluates {held : Value} {here : Environment} (bound : here.get? accumulator = some held)
    (more : Expr) :
    Reference.evaluate functions (plus accumulator more) here none = (do
      Reference.produce (held.add (← Reference.evaluate functions more here none))) := by
  rw [Reference.evaluate, Reference.within, identifier_evaluates bound, pure_bind]
  rfl

private theorem map_gathers (distinct : accumulator ≠ name) (fresh : accumulator ∉ freeNames body) :
    Gathers functions name accumulator body environment mapped (truth true) (plus accumulator (.list [body]))
      (.identifier accumulator) where
  turns here element held holding := by
    have bound := (holding.next distinct element).found
    simp only [turn, literal_evaluates, plus_evaluates bound, list_evaluates, holding.body fresh, bind_assoc, pure_bind]
    rfl
  ends _ _ holding := identifier_evaluates holding.found

/-- With the body for a condition, the step is taken for the elements that pass. -/
theorem turn_passed {held : Value} {here : Environment} (holding : Holding name accumulator environment held here)
    (fresh : accumulator ∉ freeNames body) {step : Expr} {element : Value} (taken : Value)
    (stepped : Reference.evaluate functions step (.overlay name element here) none = pure taken) :
    turn functions body step (.overlay name element here) = do
      let value ← Reference.evaluate functions body (.overlay name element environment) none
      return if passes (element, value) then some taken else none := by
  rw [turn, holding.body fresh, stepped]
  refine bind_congr fun value => ?_
  cases passed : value.isTrue <;> simp [passes, passed]

private theorem filter_gathers (distinct : accumulator ≠ name) (fresh : accumulator ∉ freeNames body) :
    Gathers functions name accumulator body environment filtered body (plus accumulator (.list [.identifier name]))
      (.identifier accumulator) where
  turns here element held holding := by
    have bare : Reference.evaluate functions (.identifier name) (.overlay name element here) none = pure element :=
      identifier_evaluates (if_pos rfl)
    rw [turn_passed holding fresh (.list (held ++ [element]))]
    · refine bind_congr fun value => ?_
      simp only [filtered]
      split <;> rfl
    · rw [plus_evaluates (holding.next distinct element).found, list_evaluates, bare]
      rfl
  ends _ _ holding := identifier_evaluates holding.found

private theorem isTrue_bool (answer : Bool) : (Value.bool answer).isTrue = answer := by
  cases answer <;> rfl

/-- The condition turns the body round, and what is not true counts as false. -/
theorem all_gathers (fresh : accumulator ∉ freeNames body) :
    Gathers functions name accumulator body environment allPassed (.conditional body (truth false) (truth true))
      (truth false) (.identifier accumulator) where
  turns here element held holding := by
    have turned : Reference.evaluate functions (.conditional body (truth false) (truth true))
        (.overlay name element here) none = do
          let value ← Reference.evaluate functions body (.overlay name element environment) none
          return .bool !value.isTrue := by
      rw [Reference.evaluate, Reference.within, holding.body fresh]
      refine bind_congr fun value => ?_
      rw [literal_evaluates, literal_evaluates]
      cases value.isTrue <;> rfl
    rw [turn, turned, bind_assoc]
    refine bind_congr fun value => ?_
    simp only [pure_bind, literal_evaluates, isTrue_bool, allPassed, passes]
    by_cases passed : value.isTrue <;> simp [passed]
  ends _ _ holding := identifier_evaluates holding.found

private theorem exists_gathers (fresh : accumulator ∉ freeNames body) :
    Gathers functions name accumulator body environment anyPassed body (truth true) (.identifier accumulator) where
  turns here element held holding := by
    rw [turn_passed holding fresh _ (literal_evaluates _ _ _)]
    refine bind_congr fun value => ?_
    simp only [anyPassed]
    split <;> rfl
  ends _ _ holding := identifier_evaluates holding.found

private theorem existsOne_gathers (distinct : accumulator ≠ name) (fresh : accumulator ∉ freeNames body) :
    Gathers functions name accumulator body environment onePassed body (plus accumulator one)
      (.binary (.relational .equal) (.identifier accumulator) one) where
  turns here element held holding := by
    rw [turn_passed holding fresh (.int (held + 1))]
    · refine bind_congr fun value => ?_
      simp only [onePassed]
      split <;> rfl
    · rw [plus_evaluates (holding.next distinct element).found, literal_evaluates]
      rfl
  ends last held holding := by
    rw [Reference.evaluate, Reference.within, identifier_evaluates holding.found, literal_evaluates, pure_bind, pure_bind,
      Value.relate, onePassed, Value.deepEquals, int_equals]
    rfl

/-- A fold that stands for a loop comes to what the loop finds in its visits to all elements. -/
theorem folding_reads (loop : Loop) (target : Expr) (distinct : accumulator ≠ name) (fresh : accumulator ∉ freeNames body) :
    Reference.evaluate functions (folding loop target name body accumulator) environment none = (do
      match ← Reference.evaluate functions target environment none with
      | .list elements =>
        return reading loop (← visits (fun element =>
          Reference.evaluate functions body (.overlay name element environment) none) elements)
      | other => Reference.fault (.comprehensionRange other.typeName)) := by
  have empty : Reference.evaluate functions (.list []) environment none = pure (.list []) := by
    rw [Reference.evaluate, Reference.within, Reference.evaluateAll, pure_bind]
  cases loop with
  | map =>
    rw [folding, (map_gathers distinct fresh).evaluates distinct [] empty]
    simp only [mapped_after]
    rfl
  | filter =>
    rw [folding, (filter_gathers distinct fresh).evaluates distinct [] empty]
    simp only [filtered_after]
    rfl
  | all =>
    have starts : Reference.evaluate functions (truth true) environment none = pure (allPassed.toValue true) :=
      literal_evaluates _ _ _
    rw [folding, (all_gathers fresh).evaluates distinct true starts]
    simp only [allPassed_after]
    rfl
  | «exists» =>
    have starts : Reference.evaluate functions (truth false) environment none = pure (anyPassed.toValue false) :=
      literal_evaluates _ _ _
    rw [folding, (exists_gathers fresh).evaluates distinct false starts]
    simp only [anyPassed_after]
    rfl
  | existsOne =>
    have starts : Reference.evaluate functions (.literal .int (.int 0)) environment none = pure (onePassed.toValue 0) :=
      literal_evaluates _ _ _
    rw [folding, (existsOne_gathers distinct fresh).evaluates distinct 0 starts]
    have sums (visited : List (Value × Value)) :
        onePassed.out (0 + visited.countP passes) = reading .existsOne visited := by
      have same : ((visited.countP passes : Int) == 1) = (visited.countP passes == 1) := by
        rw [Bool.eq_iff_iff, beq_iff_eq, beq_iff_eq]
        omega
      simp only [onePassed, reading, Int.zero_add, same]
    simp only [onePassed_after, sums]

end Folds

section Outcomes
variable {functions : Functions} {name accumulator : String} {environment : Environment} {target body : Expr}
  {marks last : Nat} {elements : List Value}

theorem looping_run (loop : Loop)
    (came : (Reference.evaluate functions target environment none).run marks = (.ok (.list elements), last)) :
    (Reference.evaluate functions (looping loop target name body) environment none).run marks =
      (Reference.loop loop (fun element =>
        Reference.evaluate functions body (.overlay name element environment) none) elements).run last := by
  rw [looping, Reference.evaluate, Reference.within, run_bind_of_ok came]
  simp only [ofName?_nameOf]

private theorem folding_run (loop : Loop) (distinct : accumulator ≠ name) (fresh : accumulator ∉ freeNames body)
    (came : (Reference.evaluate functions target environment none).run marks = (.ok (.list elements), last)) :
    (Reference.evaluate functions (folding loop target name body accumulator) environment none).run marks =
      (do return reading loop (← visits (fun element =>
        Reference.evaluate functions body (.overlay name element environment) none) elements) : Reference Value).run last := by
  rw [folding_reads loop target distinct fresh, run_bind_of_ok came]

/-- Over a list a loop ends as its fold does, if it does not end early or nothing fails behind that. -/
theorem looping_ends_as_folding (loop : Loop) (distinct : accumulator ≠ name) (fresh : accumulator ∉ freeNames body)
    (came : (Reference.evaluate functions target environment none).run marks = (.ok (.list elements), last))
    (complete : loop = .map ∨ loop = .filter ∨ ∃ values,
      ((Reference.evaluate functions (looping .map target name body) environment none).run marks).1 = .ok values) :
    ((Reference.evaluate functions (looping loop target name body) environment none).run marks).1 =
      ((Reference.evaluate functions (folding loop target name body accumulator) environment none).run marks).1 := by
  rw [folding_run loop distinct fresh came, looping_run loop came]
  rcases complete with rfl | rfl | ⟨values, returned⟩
  · rw [map_reads]
  · rw [filter_reads]
  · rw [looping_run .map came, map_reads] at returned
    obtain ⟨visited, after, all, _⟩ := ok_of_run_bind (Prod.ext returned rfl)
    rw [loop_reads loop all, run_bind_of_ok all]
    rfl

end Outcomes

section Evaluation
variable (functions : Functions)

/-- Every loop is its fold. Where the target comes to a list and the accumulator is a name that
the body does not read, map and filter come to what their folds come to, or fail as these do. So
do the other three, if the body fails for no element, so that map comes to a value. A limit on
nesting changes that only where it stops one of the two. -/
theorem loops_are_folds (loop : Loop) (target body : Expr) {name accumulator : String} (scope : Scope)
    {elements : List Value} (distinct : accumulator ≠ name) (fresh : accumulator ∉ freeNames body)
    (comes : ((target.evaluate functions none).run scope).1 = .ok (.list elements))
    (complete : loop = .map ∨ loop = .filter ∨
      ∃ values, (((looping .map target name body).evaluate functions none).run scope).1 = .ok values) :
    (((looping loop target name body).evaluate functions none).run scope).1 =
        (((folding loop target name body accumulator).evaluate functions none).run scope).1 ∧
      ∀ allowance,
        let ending (tree : Expr) := ((tree.evaluate functions allowance).run scope).1
        ending (looping loop target name body) = ending (folding loop target name body accumulator) ∨
          ending (looping loop target name body) = .error (.fault .nestedTooDeeply) ∨
          ending (folding loop target name body accumulator) = .error (.fault .nestedTooDeeply) := by
  obtain ⟨bindings, marksMade⟩ := scope
  simp only [run_eq_reference] at comes complete ⊢
  have same := looping_ends_as_folding loop distinct fresh (Prod.ext comes rfl) complete
  refine ⟨same, fun allowance => ?_⟩
  rcases evaluate_unlimited functions (looping loop target name body) (.base bindings) allowance marksMade with stopped | free
  · exact .inr (.inl stopped)
  · rcases evaluate_unlimited functions (folding loop target name body accumulator) (.base bindings) allowance marksMade
      with stopped | other
    · exact .inr (.inr stopped)
    · exact .inl ((congrArg Prod.fst free).trans (same.trans (congrArg Prod.fst other).symm))

end Evaluation

/-- Of two elements one is true, and so is what another loop inside finds for it under the same
name. The accumulator covers a binding of the host, and is bound again inside the body. -/
theorem nested_loop_is_fold :
    let inner : Expr := looping .exists (.list [.identifier "x"]) "x"
      (looping .all (.list [.identifier "x"]) "a" (.identifier "a"))
    let target : Expr := .list [one, truth true]
    let scope : Scope := ⟨⟨[("a", .null)]⟩, 3⟩
    (((folding .existsOne target "x" inner "a").evaluate standardFunctions none).run scope).1 = .ok (.bool true) := by
  intro inner target scope
  have loops : (((looping .existsOne target "x" inner).evaluate standardFunctions none).run scope).1 = .ok (.bool true) := by
    rfl
  have distinct : "a" ≠ "x" := by decide
  have fresh : "a" ∉ freeNames inner := by decide
  have comes : ((target.evaluate standardFunctions none).run scope).1 = .ok (.list [.int 1, .bool true]) := by
    rfl
  have complete : ∃ values, (((looping .map target "x" inner).evaluate standardFunctions none).run scope).1 = .ok values :=
    ⟨.list [.bool false, .bool true], by rfl⟩
  obtain ⟨same, _⟩ := loops_are_folds standardFunctions .existsOne target inner scope distinct fresh comes (.inr (.inr complete))
  exact same.symm.trans loops

end CommonExpr.Proofs.LoopFolds

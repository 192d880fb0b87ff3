import CommonExpr.Proofs.EvaluationClosure
import CommonExpr.Proofs.ScopeRestoration
import CommonExpr.Proofs.TreeInduction

/-! Evaluation with a transcript. A note is made of every value that is bound to a name and of
every value that a part of the tree comes to, also if the evaluation fails later on. But for
the notes it is evaluation as it stands, so that what holds of all notes holds of everything
that is seen while a tree is evaluated. -/

namespace CommonExpr.Proofs.Transcripts
open EvaluationClosure ScopeRestoration

inductive Note where
  | bound (name : String) (value : Value)
  | returned (part : Expr) (value : Value)

def Note.value : Note → Value
  | .bound _ value | .returned _ value => value

/-- What evaluation reads and changes, and the notes that were made so far, the latest one first. -/
structure Record where
  scope : Scope
  notes : List Note

abbrev Recorded := ExceptT Failure (StateM Record)

namespace Recorded

/-- A part of evaluation that leaves nothing to note. -/
def silently (program : Evaluation α) : Recorded α :=
  ExceptT.mk fun record =>
    let (outcome, scope) := program.run record.scope
    (outcome, { record with scope })

def note (note : Note) : Recorded Unit :=
  modify fun record => { record with notes := note :: record.notes }

def fault (cause : Fault) : Recorded α :=
  silently (Evaluation.fault cause)

def assign (name : String) (value : Value) : Recorded Unit := do
  note (.bound name value)
  silently (Evaluation.assign name value)

/-- The notes stay when the names are brought back. -/
def restoring (names : List String) (body : Recorded α) : Recorded α :=
  ExceptT.mk fun before =>
    let (outcome, after) := body.run before
    let bindings := restoreAll before.scope.bindings names after.scope.bindings
    (outcome, { after with scope := { after.scope with bindings } })

def within (allowance : Option Nat) (body : Option Nat → Recorded α) : Recorded α :=
  match allowance with
  | none => body none
  | some 0 => fault .nestedTooDeeply
  | some (left + 1) => body (some left)

/-- One step down into a tree, and a note of the value that the tree comes to. -/
def visiting (tree : Expr) (allowance : Option Nat) (body : Option Nat → Recorded Value) : Recorded Value := do
  let value ← within allowance body
  note (.returned tree value)
  return value

def exactlyOne (test : Value → Recorded Bool) (found : Bool) : List Value → Recorded Bool
  | [] => return found
  | element :: rest => do
    if ← test element then
      if found then return false else exactlyOne test true rest
    else exactlyOne test found rest

def loop (loop : Loop) (each : Value → Recorded Value) (elements : List Value) : Recorded Value :=
  let test (element : Value) : Recorded Bool := return (← each element).isTrue
  match loop with
  | .map => return .list (← elements.mapM each)
  | .filter => return .list (← elements.filterM test)
  | .all => return .bool (← elements.allM test)
  | .exists => return .bool (← elements.anyM test)
  | .existsOne => return .bool (← exactlyOne test false elements)

private theorem exactlyOneM_eq_recorded (test : Value → Recorded Bool) (found : Bool) (elements : List Value) :
    exactlyOneM test found elements = exactlyOne test found elements := by
  induction elements generalizing found with
  | nil => rfl
  | cons element rest ih => simp only [exactlyOneM, exactlyOne, ih]

theorem loopM_eq_loop (loop : Loop) (each : Value → Recorded Value) (elements : List Value) :
    loopM loop each elements = Recorded.loop loop each elements := by
  cases loop <;> simp only [loopM, Recorded.loop, exactlyOneM_eq_recorded]

def foldSteps (name accumulator : String) (condition step : Recorded Value) : List Value → Recorded Unit
  | [] => return ()
  | element :: rest => do
    assign name element
    if (← condition).isTrue then assign accumulator (← step)
    foldSteps name accumulator condition step rest

variable (functions : Functions)

mutual

def evaluate (tree : Expr) (allowance : Option Nat) : Recorded Value :=
  visiting tree allowance fun inner => do
    match tree with
    | .literal _ value => return value
    | .identifier name =>
      match ← silently (Evaluation.lookup? name) with
      | some value => return value
      | none => fault (.undefinedVariable name)
    | .select none field test =>
      match ← silently (Evaluation.lookup? field), test with
      | found, true => return .bool found.isSome
      | some value, false => return value
      | none, false => fault (.fieldNotFound field)
    | .select (some operand) field test =>
      let target ← evaluate operand inner
      silently (Evaluation.settle (target.select field test))
    | .index operand position =>
      let target ← evaluate operand inner
      let key ← evaluate position inner
      silently (Evaluation.settle (target.index key))
    | .call (some target) function arguments true =>
      let subject ← evaluate target inner
      match arguments with
      | [.identifier name, body] =>
        match subject with
        | .list elements =>
          match Loop.ofName? function with
          | some kind =>
            restoring [name] (loop kind (fun element => do assign name element; evaluate body inner) elements)
          | none => fault (.unknownLoop function)
        | other => fault (.loopTarget function other.typeName)
      | [_, _] => fault (.loopVariable function)
      | _ => fault (.loopShape function)
    | .call (some target) function arguments false =>
      let values ← evaluateAll arguments inner
      let subject ← evaluate target inner
      silently (Evaluation.produce (functions.callMethod subject function values))
    | .call none function arguments _ =>
      let values ← evaluateAll arguments inner
      silently (Evaluation.produce (functions.callFunction function values))
    | .list elements => return .list (← evaluateAll elements inner)
    | .map entries => return .map .plain (← evaluateEntries entries inner [])
    | .struct typeName fields => return .map (.struct typeName) (← evaluateFields fields inner [])
    | .comprehension name range accumulator initial condition step result =>
      match ← evaluate range inner with
      | .list elements =>
        restoring [name, accumulator] do
          assign accumulator (← evaluate initial inner)
          foldSteps name accumulator (evaluate condition inner) (evaluate step inner) elements
          evaluate result inner
      | other => fault (.comprehensionRange other.typeName)
    | .unary operator operand =>
      let value ← evaluate operand inner
      silently (Evaluation.produce (Value.applyUnary operator value))
    | .binary (.logical operator) left right =>
      let first ← silently (Expr.logicalOperand operator (← evaluate left inner))
      match operator, first with
      | .and, false => return .bool false
      | .or, true => return .bool true
      | _, _ => return .bool (← silently (Expr.logicalOperand operator (← evaluate right inner)))
    | .binary (.arithmetic operator) left right =>
      let first ← evaluate left inner
      let second ← evaluate right inner
      silently (Evaluation.produce (Value.arithmetic operator first second))
    | .binary (.relational operator) left right =>
      let first ← evaluate left inner
      let second ← evaluate right inner
      return .bool (← silently (Evaluation.settle (Value.relate operator first second)))
    | .conditional condition whenTrue otherwise =>
      if (← evaluate condition inner).isTrue then evaluate whenTrue inner
      else evaluate otherwise inner
    | .loneEntry _ _ => fault (.unknownNode "MapEntry")
    | .loneField _ _ => fault (.unknownNode "FieldInit")

def evaluateAll : List Expr → Option Nat → Recorded (List Value)
  | [], _ => return []
  | tree :: rest, allowance => do
    let value ← evaluate tree allowance
    return value :: (← evaluateAll rest allowance)

def evaluateEntries : List (Expr × Expr) → Option Nat → List (Value × Value) → Recorded (List (Value × Value))
  | [], _, built => return built
  | (key, value) :: rest, allowance, built => do
    let name ← evaluate key allowance
    if !name.isScalar then fault (.keyNotScalar name.typeName)
    let content ← evaluate value allowance
    evaluateEntries rest allowance (Entries.insert name content built)

def evaluateFields : List (String × Expr) → Option Nat → List (Value × Value) → Recorded (List (Value × Value))
  | [], _, built => return built
  | (field, value) :: rest, allowance, built => do
    let content ← evaluate value allowance
    evaluateFields rest allowance (Entries.insert (.string field) content built)

end
end Recorded

section Erasure

/-- Both end alike, and the record has only gained notes. -/
def Erases (recorded : Recorded α) (program : Evaluation α) : Prop :=
  ∀ record, ∃ more, recorded.run record =
    ((program.run record.scope).1, ⟨(program.run record.scope).2, more ++ record.notes⟩)

namespace Erases
variable {recorded : Recorded α} {program : Evaluation α}

theorem bind {next : α → Recorded β} {further : α → Evaluation β} (begun : Erases recorded program)
    (rest : ∀ value, Erases (next value) (further value)) : Erases (recorded >>= next) (program >>= further) := by
  intro record
  obtain ⟨early, first⟩ := begun record
  rw [run_bind, run_bind, first]
  rcases program.run record.scope with ⟨failure | value, scope⟩
  · exact ⟨early, rfl⟩
  · obtain ⟨late, second⟩ := rest value ⟨scope, early ++ record.notes⟩
    exact ⟨late ++ early, by rw [List.append_assoc]; exact second⟩

theorem pure (value : α) : Erases (Pure.pure value) (Pure.pure value) :=
  fun _ => ⟨[], rfl⟩

theorem silently (program : Evaluation α) : Erases (Recorded.silently program) program :=
  fun _ => ⟨[], rfl⟩

theorem fault (cause : Fault) : Erases (Recorded.fault cause : Recorded α) (Evaluation.fault cause) :=
  silently _

/-- What is noted first makes no difference to what follows. -/
theorem noted (note : Note) (erases : Erases recorded program) :
    Erases (do Recorded.note note; recorded) program := by
  intro record
  obtain ⟨more, ended⟩ := erases { record with notes := note :: record.notes }
  exact ⟨more ++ [note], by rw [List.append_assoc]; exact ended⟩

theorem assign (name : String) (value : Value) : Erases (Recorded.assign name value) (Evaluation.assign name value) :=
  (silently _).noted _

theorem restoring (names : List String) (erases : Erases recorded program) :
    Erases (Recorded.restoring names recorded) (Evaluation.restoring names program) := by
  intro record
  obtain ⟨more, ended⟩ := erases record
  refine ⟨more, ?_⟩
  rw [Recorded.restoring, Evaluation.restoring, ExceptT.run_mk, ExceptT.run_mk, ended]
  rfl

theorem within {body : Option Nat → Recorded α} {inside : Option Nat → Evaluation α}
    (inner : ∀ left, Erases (body left) (inside left)) (allowance : Option Nat) :
    Erases (Recorded.within allowance body) (Evaluation.within allowance inside) := by
  match allowance with
  | none => exact inner none
  | some 0 => exact fault _
  | some (left + 1) => exact inner (some left)

theorem visiting (tree : Expr) {body : Option Nat → Recorded Value} {inside : Option Nat → Evaluation Value}
    (inner : ∀ left, Erases (body left) (inside left)) (allowance : Option Nat) :
    Erases (Recorded.visiting tree allowance body) (Evaluation.within allowance inside) := by
  have ended := (within inner allowance).bind fun value => (pure value).noted (.returned tree value)
  rwa [bind_pure] at ended

theorem sequences : Sequences (m := Recorded) (n := Evaluation) fun _ => Erases :=
  ⟨pure, bind⟩

theorem loop (loop : Loop) {each : Value → Recorded Value} {plain : Value → Evaluation Value}
    (step : ∀ item, Erases (each item) (plain item)) (items : List Value) :
    Erases (Recorded.loop loop each items) (loop.run plain items) := by
  rw [← Recorded.loopM_eq_loop, ← loopM_eq_run]
  exact sequences.loop loop step items

theorem foldSteps (name accumulator : String) {condition step : Recorded Value} {tested stepped : Evaluation Value}
    (conditions : Erases condition tested) (steps : Erases step stepped) (items : List Value) :
    Erases (Recorded.foldSteps name accumulator condition step items)
      (CommonExpr.foldSteps name accumulator tested stepped items) := by
  induction items with
  | nil => exact pure ()
  | cons item rest ih =>
    apply (assign name item).bind
    intro _
    apply conditions.bind
    intro answer
    split
    next =>
      apply steps.bind
      intro value
      exact (assign accumulator value).bind fun _ => ih
    next => exact ih

end Erases

section Trees
variable {functions : Functions}

/-- But for its notes, the recorded evaluation of the tree is its evaluation. -/
def Erased (functions : Functions) (tree : Expr) : Prop :=
  ∀ allowance, Erases (Recorded.evaluate functions tree allowance) (tree.evaluate functions allowance)

private theorem evaluateAll_erases {trees : List Expr} (erased : ∀ tree ∈ trees, Erased functions tree)
    (allowance : Option Nat) :
    Erases (Recorded.evaluateAll functions trees allowance) (Expr.evaluateAll functions trees allowance) := by
  induction trees with
  | nil =>
    rw [Recorded.evaluateAll, Expr.evaluateAll]
    exact .pure []
  | cons tree rest ih =>
    obtain ⟨here, later⟩ := List.forall_mem_cons.mp erased
    rw [Recorded.evaluateAll, Expr.evaluateAll]
    exact (here allowance).bind fun _ => (ih later).bind fun _ => .pure _

private theorem evaluateEntries_erases {entries : List (Expr × Expr)}
    (keys : ∀ entry ∈ entries, Erased functions entry.1)
    (values : ∀ entry ∈ entries, Erased functions entry.2) (allowance : Option Nat) (built : List (Value × Value)) :
    Erases (Recorded.evaluateEntries functions entries allowance built)
      (Expr.evaluateEntries functions entries allowance built) := by
  induction entries generalizing built with
  | nil =>
    rw [Recorded.evaluateEntries, Expr.evaluateEntries]
    exact .pure built
  | cons entry rest ih =>
    obtain ⟨key, keys⟩ := List.forall_mem_cons.mp keys
    obtain ⟨value, values⟩ := List.forall_mem_cons.mp values
    rw [Recorded.evaluateEntries, Expr.evaluateEntries]
    apply (key allowance).bind
    intro name
    have remaining := (value allowance).bind fun content => ih keys values (Entries.insert name content built)
    split
    next => exact (Erases.fault _).bind fun _ => remaining
    next => exact remaining

private theorem evaluateFields_erases {fields : List (String × Expr)}
    (values : ∀ field ∈ fields, Erased functions field.2)
    (allowance : Option Nat) (built : List (Value × Value)) :
    Erases (Recorded.evaluateFields functions fields allowance built)
      (Expr.evaluateFields functions fields allowance built) := by
  induction fields generalizing built with
  | nil =>
    rw [Recorded.evaluateFields, Expr.evaluateFields]
    exact .pure built
  | cons field rest ih =>
    obtain ⟨value, values⟩ := List.forall_mem_cons.mp values
    rw [Recorded.evaluateFields, Expr.evaluateFields]
    exact (value allowance).bind fun content => ih values (Entries.insert (.string field.1) content built)

private theorem loop_erased {target : Expr} {function : String} {arguments : List Expr}
    (subject : Erased functions target)
    (given : ∀ argument ∈ arguments, Erased functions argument) :
    Erased functions (.call (some target) function arguments true) := by
  intro allowance
  rw [Recorded.evaluate, Expr.evaluate]
  refine .visiting _ (fun inner => (subject inner).bind fun value => ?_) allowance
  rcases arguments with _ | ⟨bound, _ | ⟨body, _ | ⟨third, others⟩⟩⟩
  · exact .fault _
  · cases bound <;> exact .fault _
  · cases bound with
    | identifier name =>
      cases value with
      | list elements =>
        cases Loop.ofName? function with
        | some loop =>
          have evaluated : Erased functions body := given body (by simp)
          exact .restoring _ (.loop loop (fun item => (Erases.assign name item).bind fun _ => evaluated inner) elements)
        | none => exact .fault _
      | _ => exact .fault _
    | _ => exact .fault _
  · cases bound <;> exact .fault _

private theorem comprehension_erased (name accumulator : String) {range initial condition step result : Expr}
    (subject : Erased functions range) (started : Erased functions initial) (tested : Erased functions condition)
    (stepped : Erased functions step) (ended : Erased functions result) :
    Erased functions (.comprehension name range accumulator initial condition step result) := by
  intro allowance
  rw [Recorded.evaluate, Expr.evaluate]
  refine .visiting _ (fun inner => (subject inner).bind fun value => ?_) allowance
  cases value with
  | list elements =>
    have folded := Erases.foldSteps name accumulator (tested inner) (stepped inner) elements
    apply Erases.restoring
    apply (started inner).bind
    intro start
    apply (Erases.assign accumulator start).bind
    intro _
    exact folded.bind fun _ => ended inner
  | _ => exact .fault _

/-- The second operand is evaluated where the first one leaves the answer open. -/
theorem logical_erased (operator : LogicalOperator) {left right : Expr} (one : Erased functions left)
    (two : Erased functions right) : Erased functions (.binary (.logical operator) left right) := by
  intro allowance
  rw [Recorded.evaluate, Expr.evaluate]
  refine .visiting _ (fun inner => (one inner).bind fun first => (Erases.silently _).bind fun answer => ?_) allowance
  have further := (two inner).bind fun second =>
    (Erases.silently (Expr.logicalOperand operator second)).bind fun rest => .pure (Value.bool rest)
  cases operator with
  | and =>
    cases answer with
    | true => exact further
    | false => exact .pure _
  | or =>
    cases answer with
    | true => exact .pure _
    | false => exact further

end Trees

variable (functions : Functions)

private theorem evaluate_erases (tree : Expr) : Erased functions tree := by
  induction tree using Expr.byParts with
  | loop target function arguments subject given => exact loop_erased subject given
  | comprehension name range accumulator initial condition step result subject started tested stepped ended =>
    exact comprehension_erased name accumulator subject started tested stepped ended
  | logical operator left right one two => exact logical_erased operator one two
  | literal kind value =>
    intro allowance
    rw [Recorded.evaluate, Expr.evaluate]
    exact .visiting _ (fun _ => .pure _) allowance
  | identifier name =>
    intro allowance
    rw [Recorded.evaluate, Expr.evaluate]
    refine .visiting _ (fun _ => (Erases.silently _).bind fun found => ?_) allowance
    cases found with
    | some value => exact .pure value
    | none => exact .fault _
  | dot field test =>
    intro allowance
    rw [Recorded.evaluate, Expr.evaluate]
    refine .visiting _ (fun _ => (Erases.silently _).bind fun found => ?_) allowance
    cases test with
    | true => exact .pure _
    | false =>
      cases found with
      | some value => exact .pure value
      | none => exact .fault _
  | select operand field test evaluated =>
    intro allowance
    rw [Recorded.evaluate, Expr.evaluate]
    exact .visiting _ (fun inner => (evaluated inner).bind fun _ => .silently _) allowance
  | index operand position one two =>
    intro allowance
    rw [Recorded.evaluate, Expr.evaluate]
    exact .visiting _ (fun inner => (one inner).bind fun _ => (two inner).bind fun _ => .silently _) allowance
  | method target function arguments subject given =>
    intro allowance
    rw [Recorded.evaluate, Expr.evaluate]
    exact .visiting _ (fun inner => (evaluateAll_erases given inner).bind fun _ =>
      (subject inner).bind fun _ => .silently _) allowance
  | function function arguments loop given =>
    intro allowance
    rw [Recorded.evaluate, Expr.evaluate]
    exact .visiting _ (fun inner => (evaluateAll_erases given inner).bind fun _ => .silently _) allowance
  | list elements given =>
    intro allowance
    rw [Recorded.evaluate, Expr.evaluate]
    exact .visiting _ (fun inner => (evaluateAll_erases given inner).bind fun _ => .pure _) allowance
  | map entries keys values =>
    intro allowance
    rw [Recorded.evaluate, Expr.evaluate]
    exact .visiting _ (fun inner => (evaluateEntries_erases keys values inner []).bind fun _ => .pure _) allowance
  | struct typeName fields values =>
    intro allowance
    rw [Recorded.evaluate, Expr.evaluate]
    exact .visiting _ (fun inner => (evaluateFields_erases values inner []).bind fun _ => .pure _) allowance
  | unary operator operand evaluated =>
    intro allowance
    rw [Recorded.evaluate, Expr.evaluate]
    exact .visiting _ (fun inner => (evaluated inner).bind fun _ => .silently _) allowance
  | arithmetic operator left right one two =>
    intro allowance
    rw [Recorded.evaluate, Expr.evaluate]
    exact .visiting _ (fun inner => (one inner).bind fun _ => (two inner).bind fun _ => .silently _) allowance
  | relational operator left right one two =>
    intro allowance
    rw [Recorded.evaluate, Expr.evaluate]
    exact .visiting _ (fun inner => (one inner).bind fun _ => (two inner).bind fun _ =>
      (Erases.silently _).bind fun _ => .pure _) allowance
  | conditional condition whenTrue otherwise tested chosen rejected =>
    intro allowance
    rw [Recorded.evaluate, Expr.evaluate]
    refine .visiting _ (fun inner => (tested inner).bind fun answer => ?_) allowance
    split
    next => exact chosen inner
    next => exact rejected inner
  | loneEntry _ _ _ _ | loneField _ _ _ =>
    intro allowance
    rw [Recorded.evaluate, Expr.evaluate]
    exact .visiting _ (fun _ => .fault _) allowance

/-- Without its notes, a recorded evaluation from bindings on is an evaluation from them on. -/
theorem recorded_run (tree : Expr) (allowance : Option Nat) (scope : Scope) : ∃ notes,
    let (outcome, after) := (tree.evaluate functions allowance).run scope
    (Recorded.evaluate functions tree allowance).run ⟨scope, []⟩ = (outcome, ⟨after, notes⟩) := by
  obtain ⟨notes, ended⟩ := evaluate_erases functions tree allowance ⟨scope, []⟩
  rw [List.append_nil] at ended
  exact ⟨notes, ended⟩

end Erasure

section Completeness
variable (functions : Functions)

private theorem visiting_noted {tree : Expr} {allowance : Option Nat} {body : Option Nat → Recorded Value}
    {record after : Record} {value : Value} (came : (Recorded.visiting tree allowance body).run record = (.ok value, after)) :
    after.notes.head? = some (.returned tree value) := by
  obtain ⟨result, middle, _, ended⟩ := ok_of_run_bind came
  cases ended
  rfl

/-- Whatever part of whatever tree an evaluation enters, the value that it leaves it with is
the latest one that was noted. -/
theorem evaluate_noted {tree : Expr} {allowance : Option Nat} {record after : Record} {value : Value}
    (came : (Recorded.evaluate functions tree allowance).run record = (.ok value, after)) :
    after.notes.head? = some (.returned tree value) := by
  rw [Recorded.evaluate] at came
  exact visiting_noted came

end Completeness
end CommonExpr.Proofs.Transcripts

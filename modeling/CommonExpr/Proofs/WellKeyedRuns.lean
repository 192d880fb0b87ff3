import CommonExpr.Proofs.MapOrder
import CommonExpr.Proofs.Transcripts
import CommonExpr.Proofs.WellKeyedOperators

/-! Evaluation of the trees that the parser returns, over bindings whose maps have, at any
depth, scalars for keys and each key once. Every value that comes up has such maps: what a
name is bound to, what a part of the tree comes to, and what is left at the end. Nor does the
evaluation ever meet a node, an operator or a loop that it does not know. -/

namespace CommonExpr.Proofs.WellKeyedRuns
open EvaluationClosure KeyAgreement LibraryBreakdowns MapKeys MapOrder OperatorFailures ParserImage ScopeRestoration
open Transcripts WellFormedTree WellKeyedOperators

/-- Every name that is bound is bound to a well keyed value. -/
def WellBound (bindings : Bindings) : Prop :=
  ∀ name value, bindings.get? name = some value → WellKeyed value

/-- All that is bound, and all that was noted, is well keyed. -/
structure Sound (record : Record) : Prop where
  bindings : WellBound record.scope.bindings
  notes : ∀ note ∈ record.notes, WellKeyed note.value

/-- A sound record stays sound, and the outcome is a value as promised or a plain failure. -/
def Upholds (promised : α → Prop) (program : Recorded α) : Prop :=
  ∀ record, Sound record → Sound (program.run record).2 ∧ Keeps promised (program.run record).1

/-- Whatever the value, a sound record stays sound. -/
abbrev Passes (program : Recorded α) : Prop :=
  Upholds (fun _ => True) program

section Bindings
variable {bindings before : Bindings} {name : String}

theorem WellBound.set (bound : WellBound bindings) {value : Value} (keyed : WellKeyed value) :
    WellBound (bindings.set name value) := by
  intro other found held
  rw [get?_set] at held
  split at held
  next =>
    cases held
    exact keyed
  next => exact bound other found held

theorem WellBound.erase (bound : WellBound bindings) : WellBound (bindings.erase name) := by
  intro other found held
  by_cases same : other = name
  · have gone : (bindings.erase name).get? other = none := by
      rw [Bindings.get?, Bindings.erase, List.lookup_eq_none_iff, same]
      intro entry member
      rw [bne_comm]
      exact (List.mem_filter.mp member).2
    cases gone.symm.trans held
  · rw [get?_erase_other same] at held
    exact bound other found held

theorem WellBound.restore (bound : WellBound bindings) {saved : Option Value} (kept : ∀ value ∈ saved, WellKeyed value) :
    WellBound (bindings.restore name saved) := by
  cases saved with
  | none => exact bound.erase
  | some value => exact bound.set (kept value rfl)

theorem WellBound.restoreAll (saved : WellBound before) (bound : WellBound bindings) (names : List String) :
    WellBound (restoreAll before names bindings) := by
  induction names with
  | nil => exact bound
  | cons name rest ih => exact ih.restore fun value held => saved name value held

end Bindings

section Programs

namespace Upholds
variable {promised : α → Prop} {program : Recorded α}

theorem bind {last : β → Prop} {next : α → Recorded β} (begun : Upholds promised program)
    (rest : ∀ value, promised value → Upholds last (next value)) : Upholds last (program >>= next) := by
  intro record sound
  obtain ⟨kept, ended⟩ := begun record sound
  rw [run_bind]
  generalize program.run record = ending at kept ended ⊢
  obtain ⟨outcome, after⟩ := ending
  cases ended with
  | returned reached => exact rest _ reached after kept
  | failed plain => exact ⟨kept, .failed plain⟩

theorem pure {value : α} (reached : promised value) : Upholds promised (Pure.pure value) :=
  fun _ sound => ⟨sound, .returned reached⟩

theorem weaken {last : α → Prop} (upholds : Upholds promised program) (implies : ∀ value, promised value → last value) :
    Upholds last program :=
  bind_pure program ▸ upholds.bind fun value reached => pure (implies value reached)

theorem fault {cause : Fault} (known : ordinary cause) : Upholds promised (Recorded.fault cause) :=
  fun _ sound => ⟨sound, .fault known⟩

theorem settle {outcome : Except Failure α} (keeps : Keeps promised outcome) :
    Upholds promised (Recorded.silently (Evaluation.settle outcome)) :=
  fun _ sound => ⟨sound, keeps⟩

/-- A result that gets a mark is a number. -/
theorem produce {outcome : Except Failure Value} (keeps : Keeps WellKeyed outcome) :
    Upholds WellKeyed (Recorded.silently (Evaluation.produce outcome)) := by
  intro record sound
  have marked : Sound ⟨((Evaluation.produce outcome).run record.scope).2, record.notes⟩ ∧
      Keeps WellKeyed ((Evaluation.produce outcome).run record.scope).1 := by
    rw [Evaluation.produce, ExceptT.run_mk]
    split
    next => exact ⟨⟨sound.bindings, sound.notes⟩, .scalar rfl⟩
    next => exact ⟨sound, keeps⟩
  exact marked

theorem lookup? (name : String) :
    Upholds (fun found => ∀ value ∈ found, WellKeyed value) (Recorded.silently (Evaluation.lookup? name)) :=
  fun _ sound => ⟨sound, .returned fun value held => sound.bindings name value held⟩

theorem logicalOperand (operator : LogicalOperator) (value : Value) :
    Passes (Recorded.silently (Expr.logicalOperand operator value)) := by
  cases value with
  | bool answer => exact fun _ sound => ⟨sound, .returned trivial⟩
  | _ => exact fault rfl

theorem note (note : Note) (keyed : WellKeyed note.value) : Passes (Recorded.note note) :=
  fun _ sound => ⟨⟨sound.bindings, List.forall_mem_cons.mpr ⟨keyed, sound.notes⟩⟩, .returned trivial⟩

theorem assign (name : String) {value : Value} (keyed : WellKeyed value) : Passes (Recorded.assign name value) :=
  (note (.bound name value) keyed).bind fun _ _ _ sound => ⟨⟨sound.bindings.set keyed, sound.notes⟩, .returned trivial⟩

theorem restoring (names : List String) (upholds : Upholds promised program) :
    Upholds promised (Recorded.restoring names program) := by
  intro record sound
  obtain ⟨kept, ended⟩ := upholds record sound
  exact ⟨⟨sound.bindings.restoreAll kept.bindings names, kept.notes⟩, ended⟩

theorem within {body : Option Nat → Recorded α} (inner : ∀ left, Upholds promised (body left)) (allowance : Option Nat) :
    Upholds promised (Recorded.within allowance body) := by
  match allowance with
  | none => exact inner none
  | some 0 => exact fault rfl
  | some (left + 1) => exact inner (some left)

theorem visiting (tree : Expr) {body : Option Nat → Recorded Value} (inner : ∀ left, Upholds WellKeyed (body left))
    (allowance : Option Nat) : Upholds WellKeyed (Recorded.visiting tree allowance body) :=
  (within inner allowance).bind fun _ keyed => (note (.returned tree _) keyed).bind fun _ _ => pure keyed

end Upholds
end Programs

section Loops

/-- The property is a relation that looks at the first computation only. -/
theorem carries : Carries (m := Recorded) (n := Recorded) fun _ _ promised first _ =>
    Upholds (fun value => ∃ answer, promised value answer) first where
  pure reached := .pure ⟨_, reached⟩
  bind begun rest := begun.bind fun value ⟨answer, reached⟩ => rest value answer reached

private theorem uniform : Uniform fun value answer => WellKeyed value ∧ value = answer where
  isTrue reached := congrArg Value.isTrue reached.2
  bool _ := ⟨.scalar rfl, rfl⟩
  list each := by
    obtain ⟨keyed, same⟩ := (List.forall₂_and_left _ _).mp each
    exact ⟨.list keyed, Uniform.same.list same⟩

/-- A loop hands on elements of its list or values of its body. -/
theorem loop_upholds {items : List Value} (keyed : ∀ item ∈ items, WellKeyed item) (loop : Loop)
    {each : Value → Recorded Value} (step : ∀ item, WellKeyed item → Upholds WellKeyed (each item)) :
    Upholds WellKeyed (Recorded.loop loop each items) := by
  have alike : List.Forall₂ (fun value answer => WellKeyed value ∧ value = answer) items items :=
    List.forall₂_same.mpr fun item member => ⟨keyed item member, rfl⟩
  have body (item further : Value) (here : WellKeyed item ∧ item = further) :
      Upholds (fun value => ∃ answer, WellKeyed value ∧ value = answer) (each item) :=
    (step item here.1).weaken fun value reached => ⟨value, reached, rfl⟩
  rw [← Recorded.loopM_eq_loop]
  exact (carries.loop uniform loop alike each each body).weaken fun _ ⟨_, reached, _⟩ => reached

end Loops

section Trees

/-- Evaluated on a sound record, the tree leaves a sound record and a well keyed value. -/
def Sustained (tree : Expr) : Prop :=
  ∀ allowance, Upholds WellKeyed (Recorded.evaluate standardFunctions tree allowance)

private theorem evaluateAll_upholds {trees : List Expr} (sustained : ∀ tree ∈ trees, Sustained tree)
    (allowance : Option Nat) :
    Upholds (fun values => ∀ value ∈ values, WellKeyed value)
      (Recorded.evaluateAll standardFunctions trees allowance) := by
  induction trees with
  | nil =>
    rw [Recorded.evaluateAll]
    exact .pure (List.forall_mem_nil _)
  | cons tree rest ih =>
    obtain ⟨here, later⟩ := List.forall_mem_cons.mp sustained
    rw [Recorded.evaluateAll]
    apply (here allowance).bind
    intro first head
    apply (ih later).bind
    intro values tail
    exact .pure (List.forall_mem_cons.mpr ⟨head, tail⟩)

/-- A map under construction. -/
structure Built (entries : List (Value × Value)) : Prop where
  keyed : Keyed entries
  values : ∀ entry ∈ entries, WellKeyed entry.2

variable {built : List (Value × Value)}

theorem Built.empty : Built [] :=
  ⟨⟨List.forall_mem_nil _, .nil⟩, List.forall_mem_nil _⟩

theorem Built.insert (entries : Built built) {key value : Value} (scalar : key.isScalar) (keyed : WellKeyed value) :
    Built (Entries.insert key value built) := by
  refine ⟨keyed_insert entries.keyed scalar value, ?_⟩
  have values := entries.values
  clear entries
  induction built with
  | nil => exact List.forall_mem_singleton.mpr keyed
  | cons entry rest ih =>
    obtain ⟨here, later⟩ := List.forall_mem_cons.mp values
    rw [Entries.insert]
    split
    next => exact List.forall_mem_cons.mpr ⟨keyed, later⟩
    next => exact List.forall_mem_cons.mpr ⟨here, ih later⟩

theorem Built.map (entries : Built built) (kind : MapKind) : WellKeyed (.map kind built) :=
  .map entries.keyed entries.values

/-- The keys are checked before they are written. -/
theorem evaluateEntries_upholds {entries : List (Expr × Expr)} (keys : ∀ entry ∈ entries, Sustained entry.1)
    (values : ∀ entry ∈ entries, Sustained entry.2) (allowance : Option Nat) (begun : Built built) :
    Upholds Built (Recorded.evaluateEntries standardFunctions entries allowance built) := by
  induction entries generalizing built with
  | nil =>
    rw [Recorded.evaluateEntries]
    exact .pure begun
  | cons entry rest ih =>
    obtain ⟨key, keys⟩ := List.forall_mem_cons.mp keys
    obtain ⟨value, values⟩ := List.forall_mem_cons.mp values
    rw [Recorded.evaluateEntries]
    apply (key allowance).bind
    intro name _
    cases scalar : name.isScalar with
    | true =>
      apply (value allowance).bind
      intro content keyed
      exact ih keys values (begun.insert scalar keyed)
    | false =>
      have stopped : Upholds (fun _ : PUnit => False) (Recorded.fault (.keyNotScalar name.typeName)) := .fault rfl
      exact stopped.bind fun _ never => never.elim

private theorem evaluateFields_upholds {fields : List (String × Expr)} (values : ∀ field ∈ fields, Sustained field.2)
    (allowance : Option Nat) (begun : Built built) :
    Upholds Built (Recorded.evaluateFields standardFunctions fields allowance built) := by
  induction fields generalizing built with
  | nil =>
    rw [Recorded.evaluateFields]
    exact .pure begun
  | cons field rest ih =>
    obtain ⟨value, values⟩ := List.forall_mem_cons.mp values
    rw [Recorded.evaluateFields]
    apply (value allowance).bind
    intro content keyed
    exact ih values (begun.insert rfl keyed)

/-- It is enough to look at what happens beneath the step that the tree itself takes. -/
theorem Sustained.intro {tree : Expr} {body : Option Nat → Recorded Value}
    (evaluated : ∀ allowance, Recorded.evaluate standardFunctions tree allowance = Recorded.visiting tree allowance body)
    (step : ∀ left, Upholds WellKeyed (body left)) : Sustained tree := by
  intro allowance
  rw [evaluated]
  exact .visiting tree step allowance

private theorem select_sustained {operand : Option Expr} (inner : ∀ tree ∈ operand, Sustained tree) (field : String)
    (test : Bool) : Sustained (.select operand field test) := by
  refine .intro (fun _ => by rw [Recorded.evaluate]) fun left => ?_
  cases operand with
  | none =>
    apply (Upholds.lookup? field).bind
    intro found keyed
    cases test with
    | true => exact .pure (.scalar rfl)
    | false =>
      cases found with
      | some value => exact .pure (keyed value rfl)
      | none => exact .fault rfl
  | some operand =>
    apply (inner operand rfl left).bind
    intro target keyed
    exact .settle (.of_ends (select_ends hereditary keyed field test))

/-- The parser marks a call as a loop only if its name is one of a loop. -/
theorem loop_sustained {target : Expr} {function : String} {arguments : List Expr}
    (named : (Loop.ofName? function).isSome) (subject : Sustained target) (given : ∀ tree ∈ arguments, Sustained tree) :
    Sustained (.call (some target) function arguments true) := by
  refine .intro (fun _ => by rw [Recorded.evaluate]) fun left => ?_
  apply (subject left).bind
  intro value keyed
  rcases arguments with _ | ⟨first, _ | ⟨body, _ | ⟨third, others⟩⟩⟩
  · exact .fault rfl
  · cases first <;> exact .fault rfl
  · cases first with
    | identifier name =>
      cases value with
      | list elements =>
        obtain ⟨loop, known⟩ := Option.isSome_iff_exists.mp named
        simp only [known]
        apply Upholds.restoring
        apply loop_upholds (wellKeyed_list_iff.mp keyed)
        intro item here
        apply (Upholds.assign name here).bind
        intro _ _
        exact given body (by simp) left
      | _ => exact .fault rfl
    | _ => exact .fault rfl
  · cases first <;> exact .fault rfl

private theorem call_sustained {target : Option Expr} {function : String} {arguments : List Expr}
    (inner : ∀ tree ∈ target, Sustained tree) (given : ∀ tree ∈ arguments, Sustained tree) :
    Sustained (.call target function arguments (target.isSome && (Loop.ofName? function).isSome)) := by
  cases target with
  | none =>
    refine .intro (fun _ => by rw [Recorded.evaluate]) fun left => ?_
    apply (evaluateAll_upholds given left).bind
    intro values keyed
    exact .produce (.of_ends ((callFunction_ends hereditary keyed function).weaken fun _ _ => trivial))
  | some target =>
    cases named : (Loop.ofName? function).isSome with
    | true => exact loop_sustained named (inner target rfl) given
    | false =>
      refine .intro (fun _ => by rw [Recorded.evaluate]) fun left => ?_
      apply (evaluateAll_upholds given left).bind
      intro values keyed
      apply (inner target rfl left).bind
      intro subject on
      exact .produce (.of_ends ((callMethod_ends hereditary keyed on function).weaken fun _ _ => trivial))

private theorem operands_uphold {before behind : Expr} (one : Sustained before) (two : Sustained behind)
    (allowance : Option Nat)
    {finish : Value → Value → Recorded Value}
    (rest : ∀ first second, WellKeyed first → WellKeyed second → Upholds WellKeyed (finish first second)) :
    Upholds WellKeyed (do
      let first ← Recorded.evaluate standardFunctions before allowance
      let second ← Recorded.evaluate standardFunctions behind allowance
      finish first second) := by
  apply (one allowance).bind
  intro first reached
  apply (two allowance).bind
  intro second further
  exact rest first second reached further

private theorem logical_sustained (operator : LogicalOperator) {before behind : Expr} (one : Sustained before)
    (two : Sustained behind) : Sustained (.binary (.logical operator) before behind) := by
  refine .intro (fun _ => by rw [Recorded.evaluate]) fun left => ?_
  have last : Upholds WellKeyed (do
      let value ← Recorded.evaluate standardFunctions behind left
      return .bool (← Recorded.silently (Expr.logicalOperand operator value))) := by
    apply (two left).bind
    intro value _
    exact (Upholds.logicalOperand operator value).bind fun _ _ => .pure (.scalar rfl)
  apply (one left).bind
  intro value _
  apply (Upholds.logicalOperand operator value).bind
  intro decided _
  cases operator with
  | and =>
    cases decided with
    | true => exact last
    | false => exact .pure (.scalar rfl)
  | or =>
    cases decided with
    | true => exact .pure (.scalar rfl)
    | false => exact last

private theorem binary_sustained (operator : BinaryOperator) {before behind : Expr} (one : Sustained before)
    (two : Sustained behind) : Sustained (.binary operator before behind) := by
  cases operator with
  | logical operator => exact logical_sustained operator one two
  | arithmetic operator =>
    refine .intro (fun _ => by rw [Recorded.evaluate]) fun left => ?_
    apply operands_uphold one two
    intro first second reached further
    exact .produce (.of_ends (arithmetic_ends hereditary trivial trivial trivial operator reached further))
  | relational operator =>
    refine .intro (fun _ => by rw [Recorded.evaluate]) fun left => ?_
    apply operands_uphold one two
    intro first second _ _
    exact (Upholds.settle (.of_ends (relate_ends operator first second))).bind fun _ _ => .pure (.scalar rfl)

/-- By the constructors of a tree that the parser can return: there is none for a part that has no meaning. -/
theorem sustained {tree : Expr} (formed : WellFormed HasLexeme tree) : Sustained tree := by
  induction formed with
  | literal lexeme =>
    refine .intro (fun _ => by rw [Recorded.evaluate]) fun left => ?_
    exact .pure (.scalar (scalar_of_lexeme lexeme))
  | @identifier name _ =>
    refine .intro (fun _ => by rw [Recorded.evaluate]) fun left => ?_
    apply (Upholds.lookup? name).bind
    intro found keyed
    cases found with
    | some value => exact .pure (keyed value rfl)
    | none => exact .fault rfl
  | select _ _ inner => exact select_sustained inner _ _
  | index _ _ inner place =>
    refine .intro (fun _ => by rw [Recorded.evaluate]) fun left => ?_
    apply operands_uphold inner place
    intro target key keyed _
    exact .settle (.of_ends (index_ends hereditary trivial keyed key))
  | call _ _ _ inner given => exact call_sustained inner given
  | list _ inner =>
    refine .intro (fun _ => by rw [Recorded.evaluate]) fun left => ?_
    exact (evaluateAll_upholds inner left).bind fun _ keyed => .pure (.list keyed)
  | map _ _ keys values =>
    refine .intro (fun _ => by rw [Recorded.evaluate]) fun left => ?_
    exact (evaluateEntries_upholds keys values left .empty).bind fun _ built => .pure (built.map _)
  | typed _ _ _ _ values | untyped _ _ _ values =>
    refine .intro (fun _ => by rw [Recorded.evaluate]) fun left => ?_
    exact (evaluateFields_upholds values left .empty).bind fun _ built => .pure (built.map _)
  | @unary operator _ _ inner =>
    refine .intro (fun _ => by rw [Recorded.evaluate]) fun left => ?_
    exact (inner left).bind fun value _ => .produce (.of_ends (applyUnary_ends hereditary operator value))
  | @binary operator _ _ _ _ before behind => exact binary_sustained operator before behind
  | conditional _ _ _ tested chosen rejected =>
    refine .intro (fun _ => by rw [Recorded.evaluate]) fun left => ?_
    apply (tested left).bind
    intro answer _
    split
    next => exact chosen left
    next => exact rejected left

end Trees

/-- A pattern with too many groups inside each other becomes an ordinary fault. -/
theorem overNesting_plain {failure : Failure} (plain : Plain failure) : Plain failure.overNesting := by
  unfold Failure.overNesting
  split
  next =>
    rintro _ ⟨⟩
    rfl
  next => exact plain

section Results
variable {tree : Expr} {bindings : Bindings}

/-- A recorded run on well keyed bindings ends as the run itself does, in a sound record. -/
theorem run_sound (formed : WellFormed HasLexeme tree) (bound : WellBound bindings) (allowance : Option Nat)
    (marksMade : Nat) : ∃ outcome scope notes,
      (tree.evaluate standardFunctions allowance).run ⟨bindings, marksMade⟩ = (outcome, scope) ∧
        (Recorded.evaluate standardFunctions tree allowance).run ⟨⟨bindings, marksMade⟩, []⟩ = (outcome, ⟨scope, notes⟩) ∧
        Sound ⟨scope, notes⟩ ∧ Keeps WellKeyed outcome := by
  obtain ⟨notes, recorded⟩ := recorded_run standardFunctions tree allowance ⟨bindings, marksMade⟩
  obtain ⟨sound, keeps⟩ := sustained formed allowance ⟨⟨bindings, marksMade⟩, []⟩ ⟨bound, List.forall_mem_nil _⟩
  rw [recorded] at sound keeps
  exact ⟨_, _, notes, rfl, recorded, sound, keeps⟩

/-- Over well keyed bindings, a tree of the parser binds, passes on and comes to well keyed
values only, and no failure reports a part of it as unknown. -/
theorem evaluation_keeps_values_well_keyed {source : String} {limits : Limits}
    (parsed : Expr.parse source limits = .ok tree) (bound : WellBound bindings) :
    (∀ allowance marksMade, ∃ outcome scope notes,
      (tree.evaluate standardFunctions allowance).run ⟨bindings, marksMade⟩ = (outcome, scope) ∧
        (Recorded.evaluate standardFunctions tree allowance).run ⟨⟨bindings, marksMade⟩, []⟩ = (outcome, ⟨scope, notes⟩) ∧
        (∀ note ∈ notes, WellKeyed note.value) ∧
        (∀ value, outcome = .ok value → notes.head? = some (.returned tree value) ∧ WellKeyed value) ∧
        ∀ failure, outcome = .error failure → ¬ ReportsUnknown failure) ∧
      (∀ value, (tree.run standardFunctions bindings).1 = .ok value → WellKeyed value) ∧
      ∀ failure, (tree.run standardFunctions bindings).1 = .error failure → ¬ ReportsUnknown failure := by
  have formed := wellFormed_of_parse parsed
  refine ⟨fun allowance marksMade => ?_, ?_⟩
  · obtain ⟨outcome, scope, notes, ran, recorded, sound, keeps⟩ := run_sound formed bound allowance marksMade
    refine ⟨outcome, scope, notes, ran, recorded, sound.notes, ?_, ?_⟩
    · intro value came
      subst came
      cases keeps with
      | returned reached => exact ⟨evaluate_noted standardFunctions recorded, reached⟩
    · intro failure failed
      subst failed
      cases keeps with
      | failed plain => exact plain.not_unknown
  · obtain ⟨outcome, scope, _, ran, _, _, keeps⟩ := run_sound formed bound (some Expr.nestingAllowance) 0
    rw [Expr.run, ran]
    refine ⟨?_, ?_⟩
    · intro value came
      cases keeps with
      | returned reached =>
        cases came
        exact reached
      | failed _ => cases came
    · intro failure failed
      cases keeps with
      | returned _ => cases failed
      | failed plain =>
        cases failed
        exact (overNesting_plain plain).not_unknown

/-- A map is put under a key twice, once as a bool and once as a number, and gets one entry. -/
theorem boxed_maps_stay_well_keyed :
    let boxes : Expr :=
      .map [(.literal .bool (.bool true), .identifier "x"), (.literal .int (.int 1), .list [.identifier "x"])]
    let tree : Expr := .call (some (.list [.identifier "m", .map [(.literal .int (.int 2), .identifier "m")]])) "map"
      [.identifier "x", boxes] true
    let inner : Value := .map .plain [(.string "a", .int 1)]
    let boxed (value : Value) : Value := .map .plain [(.bool true, .list [value])]
    let ended := (Recorded.evaluate standardFunctions tree none).run ⟨⟨⟨[("m", inner)]⟩, 0⟩, []⟩
    Expr.parse "[m, \x7b2: m\x7d].map(x, \x7btrue: x, 1: [x]\x7d)" {} = .ok tree ∧ WellBound ⟨[("m", inner)]⟩ ∧
      ended.1 = .ok (.list [boxed inner, boxed (.map .plain [(.int 2, inner)])]) ∧ ended.2.notes.length = 20 ∧
      ∀ note ∈ ended.2.notes, WellKeyed note.value := by
  intro boxes tree inner boxed ended
  have parsed : Expr.parse "[m, \x7b2: m\x7d].map(x, \x7btrue: x, 1: [x]\x7d)" {} = .ok tree := by rfl
  have bound : WellBound ⟨[("m", inner)]⟩ := by
    intro name value held
    simp only [Bindings.get?, List.lookup_cons, List.lookup_nil] at held
    split at held
    next =>
      cases held
      exact .map (by decide) (by simpa using .scalar rfl)
    next => cases held
  refine ⟨parsed, bound, by rfl, by rfl, ?_⟩
  obtain ⟨outcome, scope, notes, _, recorded, kept, _⟩ := (evaluation_keeps_values_well_keyed parsed bound).1 none 0
  rw [show ended = (outcome, ⟨scope, notes⟩) from recorded]
  exact kept

/-- Only a host can build a tree with a part that is not known. -/
example :
    let tree : Expr := .loneEntry (.identifier "x") (.identifier "y")
    ∃ failure, (tree.run standardFunctions .empty).1 = .error failure ∧ ReportsUnknown failure :=
  ⟨.fault (.unknownNode "MapEntry"), by rfl, by rfl, "Unknown node type", by decide, by decide +kernel⟩

end Results
end CommonExpr.Proofs.WellKeyedRuns

import CommonExpr.Proofs.EvaluationBreakdowns
import CommonExpr.Proofs.KeyAgreement
import CommonExpr.Proofs.ParserImage
import CommonExpr.Proofs.ReorderedLibrary
import CommonExpr.Proofs.ScopeRefinement

/-! The order of the entries in a map is not seen by an expression that makes no text of
values. Over bindings that are the same but for that order, it comes to values that are the
same but for it, or it fails in the same class. Addition and the conversion to text are left
out, since both can write a map out. -/

namespace CommonExpr.Proofs.MapOrder
open EvaluationBreakdowns EvaluationClosure KeyAgreement MapKeys OverlayScopes ParserImage ReorderedLibrary
  ReorderedOperators ReorderedValues ScopeRefinement WellFormedTree

section Runs

/-- Two computations that make as many marks, and come to related values or fail alike. -/
def Together (related : α → β → Prop) (first : Reference α) (second : Reference β) : Prop :=
  ∀ marks, (first.run marks).2 = (second.run marks).2 ∧ Parallel related (first.run marks).1 (second.run marks).1

namespace Together
variable {related : α → β → Prop} {first : Reference α} {second : Reference β}

theorem bind {last : γ → δ → Prop} {next : α → Reference γ} {further : β → Reference δ}
    (begun : Together related first second)
    (rest : ∀ value answer, related value answer → Together last (next value) (further answer)) :
    Together last (first >>= next) (second >>= further) := by
  intro marks
  have ended := begun marks
  rw [run_bind, run_bind]
  generalize first.run marks = one at ended ⊢
  generalize second.run marks = two at ended ⊢
  obtain ⟨outcome, made⟩ := one
  obtain ⟨other, remade⟩ := two
  obtain ⟨same, parallel⟩ := ended
  cases same
  cases parallel with
  | failed akin => exact ⟨rfl, .failed akin⟩
  | returned reached => exact rest _ _ reached made

/-- Where both come to the same, the rest has to be looked at for one value only. -/
theorem before {last : γ → δ → Prop} {first second : Reference α} {next : α → Reference γ} {further : α → Reference δ}
    (begun : Together Eq first second) (rest : ∀ value, Together last (next value) (further value)) :
    Together last (first >>= next) (second >>= further) := by
  apply begun.bind
  intro value answer same
  cases same
  exact rest value

theorem pure {value : α} {answer : β} (reached : related value answer) :
    Together related (Pure.pure value) (Pure.pure answer) :=
  fun _ => ⟨rfl, .returned reached⟩

theorem faults (cause other : Fault) : Together related (Reference.fault cause) (Reference.fault other) :=
  fun _ => ⟨rfl, .failed (.faults cause other)⟩

theorem settle {outcome : Except Failure α} {other : Except Failure β} (parallel : Parallel related outcome other) :
    Together related (Reference.settle outcome) (Reference.settle other) :=
  fun _ => ⟨rfl, parallel⟩

/-- What is new and no number is a scalar, and so it is the same in both. -/
theorem produce {outcome other : Except Failure Value} (parallel : Parallel Reordered outcome other) :
    Together Reordered (Reference.produce outcome) (Reference.produce other) := by
  intro marks
  simp only [Reference.produce, ExceptT.run_mk]
  cases parallel with
  | failed akin => exact ⟨rfl, .failed akin⟩
  | returned reached =>
    cases reached with
    | scalar scalar =>
      split
      next => exact ⟨rfl, .returned (.scalar rfl)⟩
      next => exact ⟨rfl, .returned (.scalar scalar)⟩
    | list sizes each => exact ⟨rfl, .returned (.list sizes each)⟩
    | map keyed order keys each => exact ⟨rfl, .returned (.map keyed order keys each)⟩

theorem within {body : Option Nat → Reference α} {other : Option Nat → Reference β} (allowance : Option Nat)
    (inner : ∀ left, Together related (body left) (other left)) :
    Together related (Reference.within allowance body) (Reference.within allowance other) := by
  match allowance with
  | none => exact inner none
  | some 0 => exact faults _ _
  | some (left + 1) => exact inner (some left)

theorem logicalOperand (operator : LogicalOperator) {value other : Value} (reordered : Reordered value other) :
    Together Eq (Reference.logicalOperand operator value) (Reference.logicalOperand operator other) := by
  cases reordered with
  | scalar _ =>
    cases value with
    | bool answer => exact pure rfl
    | null | number _ | text _ _ | list _ | map _ _ | date _ => exact faults _ _
  | list _ _ | map _ _ _ _ => exact faults _ _

end Together
end Runs

section Loops

private theorem carries : Carries (m := Reference) (n := Reference) fun _ _ => Together :=
  ⟨Together.pure, Together.bind⟩

private theorem uniform : Uniform Reordered where
  isTrue reached := (isTrue_reordered reached).symm
  bool _ := .scalar rfl
  list each := .of_elements each

/-- The elements of a list keep their order, and so does what a loop makes of them. -/
theorem loop_together {items others : List Value} (alike : List.Forall₂ Reordered items others) (loop : Loop)
    {each other : Value → Reference Value}
    (step : ∀ item further, Reordered item further → Together Reordered (each item) (other further)) :
    Together Reordered (Reference.loop loop each items) (Reference.loop loop other others) := by
  rw [← Reference.loopM_eq_loop, ← Reference.loopM_eq_loop]
  exact carries.loop uniform loop alike each other step

end Loops

section Trees

/-- An operation that can write a map as text. -/
def WritesText : Expr → Prop
  | .binary (.arithmetic .add) _ _ => True
  | .call none function _ _ => function = "string"
  | _ => False

/-- Nothing in the tree writes text. -/
def Wordless (tree : Expr) : Prop :=
  ∀ part, Occurs part tree → ¬ WritesText part

private theorem wordless_iff {tree : Expr} :
    Wordless tree ↔ ¬ WritesText tree ∧ ∀ child ∈ children tree, Wordless child := by
  constructor
  · intro wordless
    exact ⟨wordless tree .whole, fun child member part occurs => wordless part (.inside member occurs)⟩
  · intro ⟨plain, inner⟩ part occurs
    cases occurs with
    | whole => exact plain
    | inside member occurs => exact inner _ member part occurs

theorem Wordless.child {tree child : Expr} (wordless : Wordless tree) (member : child ∈ children tree) : Wordless child :=
  (wordless_iff.mp wordless).2 child member

/-- A name is bound in both, to values that differ only in the order of entries, or in neither. -/
def Alike (environment other : Environment) : Prop :=
  ∀ name, Option.Rel Reordered (environment.get? name) (other.get? name)

theorem Alike.overlay {environment other : Environment} (alike : Alike environment other) (name : String)
    {value answer : Value} (reached : Reordered value answer) :
    Alike (.overlay name value environment) (.overlay name answer other) := by
  intro bound
  simp only [Environment.get?]
  split
  next => exact .some reached
  next => exact alike bound

/-- Over two such environments, the tree comes to two such values, or it fails alike. -/
def Steadfast (tree : Expr) : Prop :=
  Wordless tree → ∀ environment other, Alike environment other → ∀ allowance,
    Together Reordered (Reference.evaluate standardFunctions tree environment allowance)
      (Reference.evaluate standardFunctions tree other allowance)

/-- It is enough to compare the two evaluations beneath the step that the tree itself takes. -/
theorem Steadfast.intro {tree : Expr} {body : Environment → Option Nat → Reference Value}
    (evaluated : ∀ environment allowance,
      Reference.evaluate standardFunctions tree environment allowance = Reference.within allowance (body environment))
    (step : Wordless tree → ∀ environment other, Alike environment other → ∀ allowance,
      Together Reordered (body environment allowance) (body other allowance)) : Steadfast tree := by
  intro wordless environment other alike allowance
  rw [evaluated, evaluated]
  exact .within allowance (step wordless environment other alike)

variable {environment other : Environment}

private theorem evaluateAll_together {trees : List Expr} (steadfast : ∀ tree ∈ trees, Steadfast tree)
    (wordless : ∀ tree ∈ trees, Wordless tree) (alike : Alike environment other) (allowance : Option Nat) :
    Together (List.Forall₂ Reordered) (Reference.evaluateAll standardFunctions trees environment allowance)
      (Reference.evaluateAll standardFunctions trees other allowance) := by
  induction trees with
  | nil =>
    rw [Reference.evaluateAll, Reference.evaluateAll]
    exact .pure .nil
  | cons tree rest ih =>
    obtain ⟨steady, others⟩ := List.forall_mem_cons.mp steadfast
    obtain ⟨plain, remaining⟩ := List.forall_mem_cons.mp wordless
    rw [Reference.evaluateAll, Reference.evaluateAll]
    apply (steady plain _ _ alike allowance).bind
    intro first second head
    apply (ih others remaining).bind
    intro values answers tail
    exact .pure (.cons head tail)

/-- Maps under construction: the same keys in the same order, and values in another order. -/
structure Built (first second : List (Value × Value)) : Prop where
  keyed : Keyed first
  rows : List.Forall₂ (fun entry other => entry.1 = other.1 ∧ Reordered entry.2 other.2) first second

variable {first second : List (Value × Value)}

theorem Built.empty : Built [] [] :=
  ⟨⟨nofun, .nil⟩, .nil⟩

theorem Built.insert (built : Built first second) {key value answer : Value} (scalar : key.isScalar)
    (reached : Reordered value answer) : Built (Entries.insert key value first) (Entries.insert key answer second) := by
  refine ⟨keyed_insert built.keyed scalar value, ?_⟩
  have rows := built.rows
  clear built
  induction rows with
  | nil => exact .cons ⟨rfl, reached⟩ .nil
  | @cons entry other _ _ same rest ih =>
    obtain ⟨stored, old⟩ := entry
    obtain ⟨restored, older⟩ := other
    obtain ⟨keys, values⟩ := same
    cases keys
    rw [Entries.insert, Entries.insert]
    split
    next => exact .cons ⟨rfl, reached⟩ rest
    next => exact .cons ⟨rfl, values⟩ ih

private theorem evaluateEntries_together {entries : List (Expr × Expr)} (keys : ∀ entry ∈ entries, Steadfast entry.1)
    (values : ∀ entry ∈ entries, Steadfast entry.2) (wordless : ∀ entry ∈ entries, Wordless entry.1 ∧ Wordless entry.2)
    (alike : Alike environment other) (allowance : Option Nat) (built : Built first second) :
    Together Built (Reference.evaluateEntries standardFunctions entries environment allowance first)
      (Reference.evaluateEntries standardFunctions entries other allowance second) := by
  induction entries generalizing first second with
  | nil =>
    rw [Reference.evaluateEntries, Reference.evaluateEntries]
    exact .pure built
  | cons entry rest ih =>
    obtain ⟨key, keys⟩ := List.forall_mem_cons.mp keys
    obtain ⟨value, values⟩ := List.forall_mem_cons.mp values
    obtain ⟨plain, remaining⟩ := List.forall_mem_cons.mp wordless
    rw [Reference.evaluateEntries, Reference.evaluateEntries]
    apply (key plain.1 _ _ alike allowance).bind
    intro name rename named
    rw [isScalar_reordered named]
    cases scalar : name.isScalar with
    | true =>
      cases named.scalar_eq scalar
      apply (value plain.2 _ _ alike allowance).bind
      intro content recontent reached
      exact ih keys values remaining (built.insert scalar reached)
    | false =>
      have stopped : Together (fun _ _ : PUnit => False) (Reference.fault (.keyNotScalar name.typeName))
          (Reference.fault (.keyNotScalar rename.typeName)) := .faults _ _
      exact stopped.bind fun _ _ never => never.elim

private theorem evaluateFields_together {fields : List (String × Expr)} (values : ∀ field ∈ fields, Steadfast field.2)
    (wordless : ∀ field ∈ fields, Wordless field.2) (alike : Alike environment other) (allowance : Option Nat)
    (built : Built first second) :
    Together Built (Reference.evaluateFields standardFunctions fields environment allowance first)
      (Reference.evaluateFields standardFunctions fields other allowance second) := by
  induction fields generalizing first second with
  | nil =>
    rw [Reference.evaluateFields, Reference.evaluateFields]
    exact .pure built
  | cons field rest ih =>
    obtain ⟨value, values⟩ := List.forall_mem_cons.mp values
    obtain ⟨plain, remaining⟩ := List.forall_mem_cons.mp wordless
    rw [Reference.evaluateFields, Reference.evaluateFields]
    apply (value plain _ _ alike allowance).bind
    intro content recontent reached
    exact ih values remaining (built.insert rfl reached)

/-- No literal denotes a list or a map. -/
theorem scalar_of_lexeme {kind : LiteralKind} {value : Value} (lexeme : HasLexeme kind value) : value.isScalar := by
  obtain ⟨_, token, _, _, denotes⟩ := lexeme
  simp only [Literal.ofToken?] at denotes
  split at denotes
  case h_4 | h_5 | h_6 =>
    obtain ⟨number, _, same⟩ := Option.map_eq_some_iff.mp (Option.some.inj denotes)
    cases same
    rfl
  case h_9 => cases denotes
  all_goals
    cases denotes
    rfl

private theorem select_steadfast {operand : Expr} (inner : Steadfast operand) (field : String) (test : Bool) :
    Steadfast (.select (some operand) field test) := by
  refine .intro (fun _ _ => by rw [Reference.evaluate]) ?_
  intro wordless environment other alike left
  apply (inner (wordless.child (by simp [children])) _ _ alike left).bind
  intro target retarget reached
  exact .settle (select_parallel reached field test)

/-- A variable, by its name or with a leading dot before it. -/
theorem lookup_together (alike : Alike environment other) (name : String) :
    Together (Option.Rel Reordered) (Reference.lookup? environment name) (Reference.lookup? other name) :=
  .pure (alike name)

private theorem identifier_steadfast (name : String) : Steadfast (.identifier name) := by
  refine .intro (fun _ _ => by rw [Reference.evaluate]) ?_
  intro _ environment other alike left
  apply (lookup_together alike name).bind
  intro found refound reached
  cases reached with
  | some reached => exact .pure reached
  | none => exact .faults _ _

private theorem dot_steadfast (field : String) (test : Bool) : Steadfast (.select none field test) := by
  refine .intro (fun _ _ => by rw [Reference.evaluate]) ?_
  intro _ environment other alike left
  apply (lookup_together alike field).bind
  intro found refound reached
  cases test with
  | true =>
    cases reached with
    | some _ | none => exact .pure (.scalar rfl)
  | false =>
    cases reached with
    | some reached => exact .pure reached
    | none => exact .faults _ _

/-- The body of a loop sees the elements one by one, each laid over what is bound around the loop. -/
theorem loop_steadfast {target : Expr} {function : String} {arguments : List Expr} (subject : Steadfast target)
    (given : ∀ tree ∈ arguments, Steadfast tree) : Steadfast (.call (some target) function arguments true) := by
  refine .intro (fun _ _ => by rw [Reference.evaluate]) ?_
  intro wordless environment other alike left
  apply (subject (wordless.child (by simp [children])) _ _ alike left).bind
  intro value answer reached
  rcases arguments with _ | ⟨first, _ | ⟨body, _ | ⟨third, others⟩⟩⟩
  · exact .faults _ _
  · cases first <;> exact .faults _ _
  · cases first with
    | identifier name =>
      cases reached with
      | scalar scalar =>
        cases value with
        | list _ | map _ _ => cases scalar
        | _ => exact .faults _ _
      | list sizes each =>
        have plain : Wordless body := wordless.child (by simp [children])
        cases Loop.ofName? function with
        | none => exact .faults _ _
        | some loop =>
          apply loop_together (List.forall₂_iff_get.mpr ⟨sizes, each⟩) loop
          intro item further same
          exact given body (by simp) plain _ _ (alike.overlay name same) left
      | map _ _ _ _ => exact .faults _ _
    | _ => exact .faults _ _
  · cases first <;> exact .faults _ _

private theorem method_steadfast {target : Expr} {function : String} {arguments : List Expr}
    (subject : Steadfast target)
    (given : ∀ tree ∈ arguments, Steadfast tree) : Steadfast (.call (some target) function arguments false) := by
  refine .intro (fun _ _ => by rw [Reference.evaluate]) ?_
  intro wordless environment other alike left
  have plain : ∀ tree ∈ arguments, Wordless tree := fun tree member => wordless.child (by simp [children, member])
  apply (evaluateAll_together given plain alike left).bind
  intro values answers each
  apply (subject (wordless.child (by simp [children])) _ _ alike left).bind
  intro value answer reached
  exact .produce (callMethod_parallel function reached each)

private theorem function_steadfast {function : String} {arguments : List Expr} (loop : Bool)
    (given : ∀ tree ∈ arguments, Steadfast tree) : Steadfast (.call none function arguments loop) := by
  refine .intro (fun _ _ => by rw [Reference.evaluate]) ?_
  intro wordless environment other alike left
  have plain : ∀ tree ∈ arguments, Wordless tree := fun tree member => wordless.child (by simp [children, member])
  apply (evaluateAll_together given plain alike left).bind
  intro values answers each
  exact .produce (callFunction_parallel (wordless _ .whole) each)

private theorem logical_steadfast (operator : LogicalOperator) {before behind : Expr} (one : Steadfast before)
    (two : Steadfast behind) : Steadfast (.binary (.logical operator) before behind) := by
  refine .intro (fun _ _ => by rw [Reference.evaluate]) ?_
  intro wordless environment other alike left
  apply (one (wordless.child (by simp [children])) _ _ alike left).bind
  intro value answer reached
  apply (Together.logicalOperand operator reached).before
  intro decided
  have last : Together Reordered
      (do
        let value ← Reference.evaluate standardFunctions behind environment left
        return Value.bool (← Reference.logicalOperand operator value))
      (do
        let answer ← Reference.evaluate standardFunctions behind other left
        return Value.bool (← Reference.logicalOperand operator answer)) := by
    apply (two (wordless.child (by simp [children])) _ _ alike left).bind
    intro value answer reached
    exact (Together.logicalOperand operator reached).before fun _ => .pure (.scalar rfl)
  cases operator with
  | and =>
    cases decided with
    | true => exact last
    | false => exact .pure (.scalar rfl)
  | or =>
    cases decided with
    | true => exact .pure (.scalar rfl)
    | false => exact last

private theorem operands_together {before behind : Expr} (one : Steadfast before) (two : Steadfast behind)
    (plain : Wordless before) (clear : Wordless behind) (alike : Alike environment other) (allowance : Option Nat)
    {finish refinish : Value → Value → Reference Value}
    (rest : ∀ first second value answer, Reordered first second → Reordered value answer →
      Together Reordered (finish first value) (refinish second answer)) :
    Together Reordered
      (do
        let first ← Reference.evaluate standardFunctions before environment allowance
        let value ← Reference.evaluate standardFunctions behind environment allowance
        finish first value)
      (do
        let second ← Reference.evaluate standardFunctions before other allowance
        let answer ← Reference.evaluate standardFunctions behind other allowance
        refinish second answer) := by
  apply (one plain _ _ alike allowance).bind
  intro first second reached
  apply (two clear _ _ alike allowance).bind
  intro value answer others
  exact rest _ _ _ _ reached others

private theorem binary_steadfast (operator : BinaryOperator) {before behind : Expr} (one : Steadfast before)
    (two : Steadfast behind) : Steadfast (.binary operator before behind) := by
  cases operator with
  | logical operator => exact logical_steadfast operator one two
  | arithmetic operator =>
    refine .intro (fun _ _ => by rw [Reference.evaluate]) ?_
    intro wordless environment other alike left
    apply operands_together one two (wordless.child (by simp [children])) (wordless.child (by simp [children])) alike left
    intro first second value answer reached others
    have summed : operator ≠ .add := fun same => wordless _ .whole (same ▸ trivial)
    exact .produce (arithmetic_parallel summed reached others)
  | relational operator =>
    refine .intro (fun _ _ => by rw [Reference.evaluate]) ?_
    intro wordless environment other alike left
    apply operands_together one two (wordless.child (by simp [children])) (wordless.child (by simp [children])) alike left
    intro first second value answer reached others
    rw [relate_reordered operator reached others]
    exact (Together.settle (.refl _)).before fun _ => .pure (.scalar rfl)

/-- By the constructors of a tree that the parser can return. -/
theorem steadfast {tree : Expr} (formed : WellFormed HasLexeme tree) : Steadfast tree := by
  induction formed with
  | literal lexeme =>
    refine .intro (fun _ _ => by rw [Reference.evaluate]) ?_
    intro _ environment other _ left
    exact .pure (.scalar (scalar_of_lexeme lexeme))
  | @identifier name _ => exact identifier_steadfast name
  | @select operand field test _ _ inner =>
    cases operand with
    | none => exact dot_steadfast field test
    | some operand => exact select_steadfast (inner operand rfl) field test
  | index _ _ inner place =>
    refine .intro (fun _ _ => by rw [Reference.evaluate]) ?_
    intro wordless environment other alike left
    apply operands_together inner place (wordless.child (by simp [children])) (wordless.child (by simp [children])) alike left
    intro first second value answer reached others
    exact .settle (index_parallel reached others)
  | @call target function arguments _ _ _ inner given =>
    cases target with
    | none => exact function_steadfast _ given
    | some target =>
      cases Option.isSome (Loop.ofName? function) with
      | true => exact loop_steadfast (inner target rfl) given
      | false => exact method_steadfast (inner target rfl) given
  | list _ inner =>
    refine .intro (fun _ _ => by rw [Reference.evaluate]) ?_
    intro wordless environment other alike left
    apply (evaluateAll_together inner (fun tree member => wordless.child member) alike left).bind
    intro values answers each
    exact .pure (.of_elements each)
  | map _ _ keys values =>
    refine .intro (fun _ _ => by rw [Reference.evaluate]) ?_
    intro wordless environment other alike left
    have plain (entry : Expr × Expr) (member : entry ∈ _) : Wordless entry.1 ∧ Wordless entry.2 :=
      ⟨wordless.child (List.mem_flatMap.mpr ⟨entry, member, by simp⟩),
        wordless.child (List.mem_flatMap.mpr ⟨entry, member, by simp⟩)⟩
    apply (evaluateEntries_together keys values plain alike left .empty).bind
    intro first second built
    exact .pure (.of_entries built.keyed (.refl _) built.rows)
  | typed _ _ _ _ values | untyped _ _ _ values =>
    refine .intro (fun _ _ => by rw [Reference.evaluate]) ?_
    intro wordless environment other alike left
    have plain (field : String × Expr) (member : field ∈ _) : Wordless field.2 :=
      wordless.child (List.mem_map_of_mem member)
    apply (evaluateFields_together values plain alike left .empty).bind
    intro first second built
    exact .pure (.of_entries built.keyed (.refl _) built.rows)
  | unary _ inner =>
    refine .intro (fun _ _ => by rw [Reference.evaluate]) ?_
    intro wordless environment other alike left
    apply (inner (wordless.child (by simp [children])) _ _ alike left).bind
    intro value answer reached
    exact .produce (applyUnary_parallel _ reached)
  | @binary operator _ _ _ _ before behind => exact binary_steadfast operator before behind
  | conditional _ _ _ tested chosen rejected =>
    refine .intro (fun _ _ => by rw [Reference.evaluate]) ?_
    intro wordless environment other alike left
    apply (tested (wordless.child (by simp [children])) _ _ alike left).bind
    intro value answer reached
    rw [isTrue_reordered reached]
    split
    next => exact chosen (wordless.child (by simp [children])) _ _ alike left
    next => exact rejected (wordless.child (by simp [children])) _ _ alike left

end Trees

section Programs

/-- A pattern with too many groups inside each other becomes a fault of the expression, which leaves faults alike. -/
theorem overNesting_akin {first second : Failure} (akin : Akin first second) : Akin first.overNesting second.overNesting := by
  obtain rfl | ⟨cause, other, rfl, rfl⟩ := akin
  · exact .inl rfl
  · exact .faults cause other

/-- Without addition and conversion to text, the order of the entries in maps and structs, at any depth
of the bindings, decides neither whether there is a value nor what it is, but for that order in it. -/
theorem entry_order_unseen {source : String} {limits : Limits} {tree : Expr}
    (parsed : Expr.parse source limits = .ok tree) (wordless : Wordless tree) {bindings other : Bindings}
    (alike : ∀ name, Option.Rel Reordered (bindings.get? name) (other.get? name)) :
    (∃ failure refailure, (tree.run standardFunctions bindings).1 = .error failure ∧
        (tree.run standardFunctions other).1 = .error refailure ∧ failure.name = refailure.name) ∨
      ∃ value answer, (tree.run standardFunctions bindings).1 = .ok value ∧
        (tree.run standardFunctions other).1 = .ok answer ∧ Reordered value answer := by
  rw [run_eq_answer, run_eq_answer, Reference.answer, Reference.answer]
  have ended := (steadfast (wellFormed_of_parse parsed) wordless (.base bindings) (.base other) alike
    (some Expr.nestingAllowance) 0).2
  generalize (ExceptT.run (Reference.evaluate standardFunctions tree (.base bindings) _) 0).1 = one at ended ⊢
  generalize (ExceptT.run (Reference.evaluate standardFunctions tree (.base other) _) 0).1 = two at ended ⊢
  cases ended with
  | failed akin => exact .inl ⟨_, _, rfl, rfl, (overNesting_akin akin).name⟩
  | returned reached => exact .inr ⟨_, _, rfl, rfl, reached⟩

/-- One map is bound in two orders, and both come through a loop whose test compares and selects. -/
theorem swapped_entries_pass_through :
    let test : Expr := .binary (.logical .or) (.binary (.relational .equal) (.identifier "x") (.identifier "m"))
      (.select (some (.identifier "x")) "d" true)
    let tree : Expr := .call (some (.list [.identifier "m", .select (some (.identifier "m")) "b" false])) "filter"
      [.identifier "x", test] true
    let inner : Value := .map .plain [(.string "c", .int 2), (.string "d", .int 3)]
    let turned : Value := .map .plain [(.string "d", .int 3), (.string "c", .int 2)]
    let outer : Value := .map .plain [(.string "a", .int 1), (.string "b", inner)]
    let around : Value := .map .plain [(.string "b", turned), (.string "a", .int 1)]
    Expr.parse "[m, m.b].filter(x, x == m || has(x.d))" {} = .ok tree ∧ Wordless tree ∧ Reordered outer around ∧
      (tree.run standardFunctions ⟨[("m", outer)]⟩).1 = .ok (.list [outer, inner]) ∧
      (tree.run standardFunctions ⟨[("m", around)]⟩).1 = .ok (.list [around, turned]) ∧
      Reordered (.list [outer, inner]) (.list [around, turned]) := by
  intro test tree inner turned outer around
  have parsed : Expr.parse "[m, m.b].filter(x, x == m || has(x.d))" {} = .ok tree := by rfl
  have wordless : Wordless tree := by
    have named (name : String) : Wordless (.identifier name) := wordless_iff.mpr ⟨id, nofun⟩
    have selected (name field : String) (test : Bool) : Wordless (.select (some (.identifier name)) field test) :=
      wordless_iff.mpr ⟨id, by simp [children, named]⟩
    have compared : Wordless (.binary (.relational .equal) (.identifier "x") (.identifier "m")) :=
      wordless_iff.mpr ⟨id, by simp [children, named]⟩
    have tested : Wordless test := wordless_iff.mpr ⟨id, by simp [test, children, compared, selected]⟩
    have listed : Wordless (.list [.identifier "m", .select (some (.identifier "m")) "b" false]) :=
      wordless_iff.mpr ⟨id, by simp [children, named, selected]⟩
    exact wordless_iff.mpr ⟨id, by simp [tree, children, named, tested, listed]⟩
  have turns : Reordered inner turned :=
    .of_entries (by decide) (.swap _ _ _) (.cons ⟨rfl, .scalar rfl⟩ (.cons ⟨rfl, .scalar rfl⟩ .nil))
  have swapped : Reordered outer around :=
    .of_entries (by decide) (.swap _ _ _) (.cons ⟨rfl, turns⟩ (.cons ⟨rfl, .scalar rfl⟩ .nil))
  have alike (name : String) :
      Option.Rel Reordered (Bindings.get? ⟨[("m", outer)]⟩ name) (Bindings.get? ⟨[("m", around)]⟩ name) := by
    simp only [Bindings.get?, List.lookup_cons, List.lookup_nil]
    split
    next => exact .some swapped
    next => exact .none
  have first : (tree.run standardFunctions ⟨[("m", outer)]⟩).1 = .ok (.list [outer, inner]) := by rfl
  have second : (tree.run standardFunctions ⟨[("m", around)]⟩).1 = .ok (.list [around, turned]) := by rfl
  refine ⟨parsed, wordless, swapped, first, second, ?_⟩
  obtain ⟨_, _, failed, _⟩ | ⟨_, _, here, there, reached⟩ := entry_order_unseen parsed wordless alike
  · cases first.symm.trans failed
  · cases first.symm.trans here
    cases second.symm.trans there
    exact reached

/-- Joined to a text, a map shows the order of its entries. -/
example :
    let joined : Expr := .binary (.arithmetic .add) (.literal .string (.string "")) (.identifier "m")
    let entries : List (Value × Value) := [(.string "a", .null), (.string "b", .null)]
    (joined.run standardFunctions ⟨[("m", .map .plain entries)]⟩).1 = .ok (.string "\x7b\"a\": null, \"b\": null\x7d") ∧
      (joined.run standardFunctions ⟨[("m", .map .plain entries.reverse)]⟩).1 =
        .ok (.string "\x7b\"b\": null, \"a\": null\x7d") := by
  exact ⟨by rfl, by rfl⟩

end Programs

end CommonExpr.Proofs.MapOrder

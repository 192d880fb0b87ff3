import CommonExpr.Proofs.ReorderedValues

/-! Operators on values whose maps have their entries in another order. Comparisons come to the
same, and what takes a value apart finds the same part of it. Only the wording of a fault may
show a map as text, so that operators fail alike, but not always in the same words. -/

namespace CommonExpr.Proofs.ReorderedOperators
open MapKeys OperatorBreakdowns ReorderedValues Value

section Outcomes

/-- The same failure, or two faults of the expression. -/
def Akin (first second : Failure) : Prop :=
  first = second ∨ ∃ cause other, first = .fault cause ∧ second = .fault other

/-- Both come to related values, or fail alike. -/
inductive Parallel (related : α → β → Prop) : Except Failure α → Except Failure β → Prop where
  | failed {first second : Failure} (akin : Akin first second) : Parallel related (.error first) (.error second)
  | returned {value : α} {answer : β} (reached : related value answer) : Parallel related (.ok value) (.ok answer)

theorem Akin.faults (cause other : Fault) : Akin (.fault cause) (.fault other) :=
  .inr ⟨cause, other, rfl, rfl⟩

theorem Akin.name {first second : Failure} (akin : Akin first second) : first.name = second.name := by
  rcases akin with rfl | ⟨_, _, rfl, rfl⟩
  · rfl
  · rfl

namespace Parallel
variable {related : α → β → Prop} {first : Except Failure α} {second : Except Failure β}

theorem bind {last : γ → δ → Prop} {next : α → Except Failure γ} {further : β → Except Failure δ}
    (begun : Parallel related first second)
    (rest : ∀ value answer, related value answer → Parallel last (next value) (further answer)) :
    Parallel last (first >>= next) (second >>= further) := by
  cases begun with
  | failed akin => exact .failed akin
  | returned reached => exact rest _ _ reached

/-- Where both have come to the same, the rest has to be looked at for one value only. -/
theorem before {last : γ → δ → Prop} {first second : Except Failure α} {next : α → Except Failure γ}
    {further : α → Except Failure δ} (begun : Parallel Eq first second)
    (rest : ∀ value, Parallel last (next value) (further value)) : Parallel last (first >>= next) (second >>= further) := by
  apply begun.bind
  intro value answer same
  cases same
  exact rest value

theorem faults (cause other : Fault) : Parallel related (Value.fault cause) (Value.fault other) :=
  .failed (.faults cause other)

theorem error (failure : Failure) : Parallel related (.error failure) (.error failure) :=
  .failed (.inl rfl)

/-- One outcome, whose value is related to itself. -/
theorem of_eq {related : α → α → Prop} {outcome other : Except Failure α} (same : other = outcome)
    (related_self : ∀ value, outcome = .ok value → related value value) : Parallel related outcome other := by
  subst same
  cases other with
  | ok value => exact .returned (related_self value rfl)
  | error failure => exact .error failure

theorem refl (outcome : Except Failure α) : Parallel Eq outcome outcome :=
  .of_eq rfl fun _ _ => rfl

end Parallel
end Outcomes

section Text
variable {left right : Value}

private theorem overlong_reordered (reordered : Reordered left right) : Overlong left ↔ Overlong right := by
  induction reordered with
  | scalar _ => exact Iff.rfl
  | @list first second sizes _ ih =>
    constructor
    · rintro (_ | ⟨member, long⟩)
      obtain ⟨index, inFirst, rfl⟩ := List.getElem_of_mem member
      have inSecond : index < second.length := sizes ▸ inFirst
      exact .element (List.getElem_mem inSecond) ((ih index inFirst inSecond).mp long)
    · rintro (_ | ⟨member, long⟩)
      obtain ⟨index, inSecond, rfl⟩ := List.getElem_of_mem member
      have inFirst : index < first.length := sizes ▸ inSecond
      exact .element (List.getElem_mem inFirst) ((ih index inFirst inSecond).mpr long)
  | @map _ first _ second keyed order keys _ ih =>
    have matched : Matched (fun value other => Overlong value ↔ Overlong other) first second := .intro keyed order keys ih
    constructor
    · rintro (_ | _ | ⟨member, long⟩ | ⟨member, long⟩)
      · obtain ⟨value, there, _⟩ := matched.onto _ member
        exact .key there long
      · obtain ⟨value, there, same⟩ := matched.onto _ member
        exact .content there (same.mp long)
    · rintro (_ | _ | ⟨member, long⟩ | ⟨member, long⟩)
      · obtain ⟨value, here, _⟩ := matched.back _ member
        exact .key here long
      · obtain ⟨value, here, same⟩ := matched.back _ member
        exact .content here (same.mpr long)

/-- There is a text of both or of neither. The texts themselves show the order. -/
theorem format_parallel (reordered : Reordered left right) : Parallel (fun _ _ => True) left.format right.format := by
  rcases format_fails left with ⟨short, text, written⟩ | ⟨long, failed⟩
  · rcases format_fails right with ⟨_, other, rewritten⟩ | ⟨long, _⟩
    · rw [written, rewritten]
      exact .returned trivial
    · exact absurd ((overlong_reordered reordered).mpr long) short
  · rcases format_fails right with ⟨short, _⟩ | ⟨_, refailed⟩
    · exact absurd ((overlong_reordered reordered).mp long) short
    · rw [failed, refailed]
      exact .error _

private theorem worded {related : α → β → Prop} (reordered : Reordered left right) (cause other : String → Fault) :
    Parallel related (do Value.fault (cause (← left.format))) (do Value.fault (other (← right.format))) :=
  (format_parallel reordered).bind fun _ _ _ => .faults _ _

end Text

section Access
variable {target other key rekey : Value} {first second : List Value}

theorem select_parallel (reordered : Reordered target other) (field : String) (test : Bool) :
    Parallel Reordered (target.select field test) (other.select field test) := by
  cases reordered with
  | scalar scalar =>
    refine .of_eq rfl fun value selected => ?_
    cases target with
    | null =>
      cases test <;> cases selected
      exact .scalar rfl
    | list _ | map _ _ => cases scalar
    | _ => cases selected
  | list _ _ => exact .faults _ _
  | map keyed order keys each =>
    have found := (Matched.intro keyed order keys each).lookups (.string field)
    unfold select
    dsimp only
    generalize Entries.lookup? (.string field) _ = one at found ⊢
    generalize Entries.lookup? (.string field) _ = two at found ⊢
    cases found with
    | none =>
      cases test with
      | true => exact .returned (.scalar rfl)
      | false => exact .faults _ _
    | some reached =>
      cases test with
      | true => exact .returned (.scalar rfl)
      | false => exact .returned reached

private theorem position_reordered (reordered : Reordered key rekey) : position rekey = position key := by
  cases reordered with
  | scalar _ | list _ _ => rfl
  | @map kind _ _ _ _ _ _ _ => rcases kind with _ | _ | _ <;> rfl

private theorem itemAt_parallel (typeName : String) (items : List.Forall₂ Reordered first second)
    (keys : Reordered key rekey) :
    Parallel Reordered (itemAt typeName first key) (itemAt typeName second rekey) := by
  obtain ⟨sizes, each⟩ := List.forall₂_iff_get.mp items
  rw [itemAt, itemAt, position_reordered keys]
  apply (Parallel.refl _).before
  intro place
  have missing : Parallel Reordered (do Value.fault (.indexOutOfBounds (← integerText place) typeName first.length))
      (do Value.fault (.indexOutOfBounds (← integerText place) typeName second.length)) :=
    (Parallel.refl _).bind fun _ _ _ => .faults _ _
  by_cases inside : 0 ≤ place ∧ place.toNat < first.length
  · obtain ⟨positive, inFirst⟩ := inside
    have inSecond : place.toNat < second.length := sizes ▸ inFirst
    simp only [if_pos positive, List.getElem?_eq_getElem inFirst, List.getElem?_eq_getElem inSecond]
    exact .returned (each _ inFirst inSecond)
  · have outside (items : List Value) (sized : items.length = first.length) :
        (if 0 ≤ place then items[place.toNat]? else none) = none := by
      split
      next positive => exact List.getElem?_eq_none (by omega)
      next => rfl
    simp only [outside first rfl, outside second sizes.symm]
    exact missing

/-- What is found at an index or under a key is found again, and what is missing is missing. -/
theorem index_parallel (reordered : Reordered target other) (keys : Reordered key rekey) :
    Parallel Reordered (target.index key) (other.index rekey) := by
  cases reordered with
  | scalar scalar =>
    cases target with
    | text kind content =>
      refine itemAt_parallel _ (List.forall₂_same.mpr fun item member => ?_) keys
      obtain ⟨character, _, rfl⟩ := List.mem_map.mp member
      exact .scalar rfl
    | list _ | map _ _ => cases scalar
    | _ => exact .faults _ _
  | list sizes each => exact itemAt_parallel _ (List.forall₂_iff_get.mpr ⟨sizes, each⟩) keys
  | map keyed order rekeys each =>
    have found := lookup?_reordered keys (Matched.intro keyed order rekeys each)
    rw [index, index]
    generalize Entries.lookup? key _ = one at found ⊢
    generalize Entries.lookup? rekey _ = two at found ⊢
    cases found with
    | none => exact worded keys .keyNotFound .keyNotFound
    | some reached => exact .returned reached

end Access

section Operations
variable {left right first second : Value}

private theorem memberOf_reordered (item : Reordered left right) (collection : Reordered first second) :
    right.memberOf second = left.memberOf first := by
  cases collection with
  | scalar scalar =>
    cases first with
    | text _ _ =>
      cases item with
      | scalar _ | list _ _ => rfl
      | @map kind _ _ _ _ _ _ _ => rcases kind with _ | _ | _ <;> rfl
    | list _ | map _ _ => cases scalar
    | _ => rfl
  | list sizes each =>
    rw [memberOf, memberOf, any_equal_reordered item (List.forall₂_iff_get.mpr ⟨sizes, each⟩)]
  | map keyed order keys each => rw [memberOf, memberOf, hasKey_reordered item (Matched.intro keyed order keys each)]

/-- Every comparison comes to the same. -/
theorem relate_reordered (operator : RelationalOperator) (one : Reordered left right) (two : Reordered first second) :
    relate operator right second = relate operator left first := by
  cases operator with
  | member => exact memberOf_reordered one two
  | _ => simp only [relate, deepEquals_reordered one two, compare_reordered one two]

theorem applyUnary_parallel (operator : UnaryOperator) (reordered : Reordered left right) :
    Parallel Reordered (applyUnary operator left) (applyUnary operator right) := by
  cases reordered with
  | scalar _ =>
    refine .of_eq rfl fun value came => ?_
    cases operator <;> cases left <;> cases came <;> exact .scalar rfl
  | list _ _ | map _ _ _ _ => cases operator <;> exact .faults _ _

private theorem numbers_reordered (operation : String) (one : Reordered left right) (two : Reordered first second) :
    numbers operation right second = numbers operation left first := by
  have apart {left first : Value} (unlike : (left.isNumber && first.isNumber) = false) :
      numbers operation left first = fault (.arithmeticOperands operation left.typeName first.typeName) := by
    cases left <;> cases first <;> first | rfl | cases unlike
  cases both : left.isNumber && first.isNumber with
  | true =>
    rw [Bool.and_eq_true] at both
    rw [one.scalar_eq (by cases left <;> first | rfl | cases both.1),
      two.scalar_eq (by cases first <;> first | rfl | cases both.2)]
  | false =>
    have numeric {one two : Value} (reordered : Reordered one two) : two.isNumber = one.isNumber := by
      cases reordered <;> rfl
    rw [apart both, apart (by rw [numeric one, numeric two, both]), typeName_reordered one, typeName_reordered two]

private theorem orOverflow_parallel (operator : ArithmeticOperator) (result? : Option Number) :
    Parallel Reordered (orOverflow operator result?) (orOverflow operator result?) := by
  cases result? with
  | none => exact .faults _ _
  | some result => exact .returned (.scalar rfl)

private theorem repetitionCount_parallel (reordered : Reordered left right) :
    Parallel Eq (repetitionCount left) (repetitionCount right) := by
  cases reordered with
  | scalar _ => exact .refl _
  | list sizes each => exact worded (.list sizes each) .repetitionCount .repetitionCount
  | map keyed order keys each => exact worded (.map keyed order keys each) .repetitionCount .repetitionCount

private theorem flatten_replicate_reordered {items others : List Value} (each : List.Forall₂ Reordered items others)
    (count : Nat) :
    List.Forall₂ Reordered (List.replicate count items).flatten (List.replicate count others).flatten := by
  induction count with
  | zero => exact .nil
  | succ count ih =>
    rw [List.replicate_succ, List.flatten_cons, List.replicate_succ, List.flatten_cons]
    exact List.rel_append each ih

private theorem repeatList_parallel {items others : List Value} (each : List.Forall₂ Reordered items others)
    (count : Nat) :
    Parallel Reordered (repeatList items count) (repeatList others count) := by
  have sizes := each.length_eq
  unfold repeatList
  rw [isEmpty_of_sizes sizes, ← sizes]
  split
  next => exact .faults _ _
  next =>
    split
    next => exact .returned (.of_elements .nil)
    next =>
      split
      next => exact .error _
      next => exact .returned (.of_elements (flatten_replicate_reordered each count))

private theorem repeatText_parallel (kind : TextKind) (content : String) (count : Nat) :
    Parallel Reordered (repeatText kind content count) (repeatText kind content count) := by
  refine .of_eq rfl fun value came => ?_
  unfold repeatText at came
  split at came
  next => cases came
  next =>
    split at came
    next =>
      cases came
      exact .scalar rfl
    next =>
      split at came <;> cases came
      exact .scalar rfl

private theorem multiply_parallel (one : Reordered left right) (two : Reordered first second) :
    Parallel Reordered (multiply left first) (multiply right second) := by
  cases one with
  | scalar scalar =>
    cases left with
    | number _ =>
      cases two with
      | scalar _ =>
        cases first with
        | number _ => exact orOverflow_parallel _ _
        | _ => exact .faults _ _
      | list _ _ | map _ _ _ _ => exact .faults _ _
    | text kind content =>
      exact (repetitionCount_parallel two).before fun count => repeatText_parallel kind content count
    | list _ | map _ _ => cases scalar
    | _ => exact .faults _ _
  | list sizes each =>
    exact (repetitionCount_parallel two).before (repeatList_parallel (List.forall₂_iff_get.mpr ⟨sizes, each⟩))
  | map _ _ _ _ => exact .faults _ _

/-- All of arithmetic but addition, which joins texts. -/
theorem arithmetic_parallel {operator : ArithmeticOperator} (wordless : operator ≠ .add) (one : Reordered left right)
    (two : Reordered first second) :
    Parallel Reordered (arithmetic operator left first) (arithmetic operator right second) := by
  have operands (operation : String) : Parallel Eq (numbers operation left first) (numbers operation right second) := by
    rw [numbers_reordered operation one two]
    exact .refl _
  cases operator with
  | add => exact absurd rfl wordless
  | multiply => exact multiply_parallel one two
  | subtract => exact (operands "Subtraction").before fun pair => orOverflow_parallel _ _
  | divide =>
    apply (operands "Division").before
    intro ⟨dividend, divisor⟩
    dsimp only
    split
    next => exact .faults _ _
    next => exact orOverflow_parallel _ _
  | modulo =>
    apply (operands "Modulo").before
    intro ⟨dividend, divisor⟩
    dsimp only
    split
    next => exact .faults _ _
    next =>
      split
      next => exact .returned (.scalar rfl)
      next =>
        split
        next =>
          split
          next => exact .returned (.scalar rfl)
          next => exact .error _
        next => exact .faults _ _

end Operations

end CommonExpr.Proofs.ReorderedOperators

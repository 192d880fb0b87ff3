import CommonExpr.Evaluation.Operators
import CommonExpr.Proofs.TextBreakdowns

/-! How the operators end. An operator finds fault with its operands or breaks down in one of
few ways, and else its value is a scalar or made of its operands. So one walk over the operators
serves for each set of breakdowns, and for each property of values that is handed on to parts. -/

namespace CommonExpr.Proofs.OperatorFailures
open OperatorBreakdowns Value

section Outcomes

/-- The faults that an operator or a standard function can find, and that of a loop called as a method.
Only three operations on numbers name themselves. -/
def ofOperation : Fault → Bool
  | .selectionFrom _ _ | .fieldNotFound _ | .indexOutOfBounds _ _ _ | .keyNotFound _ | .notIndexable _
  | .indexNotNumber _ | .indexNotFinite _ | .notOperand _ | .negationOperand _ | .overflow _ | .addition _ _
  | .multiplication _ _ | .repetitionCount _ | .divisionByZero | .moduloByZero | .notComparable _ _
  | .substringOperand _ | .membershipOperand _ | .loopOutsideList _ => true
  | .arithmeticOperands operation _ _ => ["Subtraction", "Division", "Modulo"].contains operation
  | _ => false

/-- What operators and calls fail with, given the ways in which they may break down. -/
inductive Arises (breaks : Breakdown → Prop) : Failure → Prop where
  | fault {cause : Fault} (known : ofOperation cause) : Arises breaks (.fault cause)
  | unknownFunction (name : String) : Arises breaks (.unknownFunction name)
  | unknownMethod (name : String) : Arises breaks (.unknownMethod name)
  | rejected (cause : Rejection) : Arises breaks (.rejected cause)
  | broken {cause : Breakdown} (among : breaks cause) : Arises breaks (.broken cause)

/-- The outcome is a value as promised, or such a failure. -/
inductive Ends (breaks : Breakdown → Prop) (promised : α → Prop) : Except Failure α → Prop where
  | returned {value : α} (reached : promised value) : Ends breaks promised (.ok value)
  | failed {failure : Failure} (arises : Arises breaks failure) : Ends breaks promised (.error failure)

/-- Some value, or such a failure. -/
abbrev Settles (breaks : Breakdown → Prop) (outcome : Except Failure α) : Prop :=
  Ends breaks (fun _ => True) outcome

/-- All scalars have the property, a list has it if its elements do, and what is found in a map
has it if the map does. -/
structure Hereditary (holds : Value → Prop) : Prop where
  scalar {value : Value} (scalar : value.isScalar) : holds value
  list {elements : List Value} : holds (.list elements) ↔ ∀ element ∈ elements, holds element
  found {kind : MapKind} {entries : List (Value × Value)} {key value : Value} (whole : holds (.map kind entries))
    (found : Entries.lookup? key entries = some value) : holds value

theorem Hereditary.anything : Hereditary fun _ => True where
  scalar _ := trivial
  list := iff_of_true trivial fun _ _ => trivial
  found _ _ := trivial

variable {breaks : Breakdown → Prop} {promised : α → Prop} {outcome : Except Failure α}

theorem Hereditary.ok {holds : Value → Prop} (hereditary : Hereditary holds) {value : Value} (scalar : value.isScalar) :
    Ends breaks holds (.ok value) :=
  .returned (hereditary.scalar scalar)

namespace Ends

theorem bind {last : β → Prop} {next : α → Except Failure β} (begun : Ends breaks promised outcome)
    (rest : ∀ value, promised value → Ends breaks last (next value)) : Ends breaks last (outcome >>= next) := by
  cases begun with
  | returned reached => exact rest _ reached
  | failed arises => exact .failed arises

theorem value (result : α) : Settles breaks (.ok result) :=
  .returned trivial

theorem weaken {more : Breakdown → Prop} (ends : Ends breaks promised outcome)
    (implies : ∀ cause, breaks cause → more cause) : Ends more promised outcome := by
  cases ends with
  | returned reached => exact .returned reached
  | failed arises =>
    refine .failed ?_
    cases arises with
    | fault known => exact .fault known
    | unknownFunction name => exact .unknownFunction name
    | unknownMethod name => exact .unknownMethod name
    | rejected cause => exact .rejected cause
    | broken among => exact .broken (implies _ among)

theorem fault {cause : Fault} (known : ofOperation cause) : Ends breaks promised (Value.fault cause) :=
  .failed (.fault known)

theorem rejected (cause : Rejection) : Ends breaks promised (.error (.rejected cause)) :=
  .failed (.rejected cause)

theorem broken {cause : Breakdown} (among : breaks cause) : Ends breaks promised (.error (.broken cause)) :=
  .failed (.broken among)

/-- What is made of a value as a scalar has every hereditary property. -/
theorem wrapped {holds : Value → Prop} (hereditary : Hereditary holds) (settles : Settles breaks outcome) {wrap : α → Value}
    (scalar : ∀ result, (wrap result).isScalar) : Ends breaks holds (do return wrap (← outcome)) :=
  settles.bind fun result _ => hereditary.ok (scalar result)

theorem format (long : breaks .numberTooLong) (value : Value) : Settles breaks value.format := by
  rcases format_fails value with ⟨_, text, written⟩ | ⟨_, broke⟩
  · exact written ▸ .value text
  · exact broke ▸ .broken long

theorem integerText (long : breaks .numberTooLong) (value : Int) : Settles breaks (CommonExpr.integerText value) := by
  rcases integerText_fails value with ⟨_, text, written⟩ | ⟨_, broke⟩
  · exact written ▸ .value text
  · exact broke ▸ .broken long

end Ends
end Outcomes

section Comparison
variable {breaks : Breakdown → Prop}

mutual

theorem compare_ends : (left right : Value) → Settles breaks (Value.compare left right)
  | .list first, .list second => by
    rw [Value.compare]
    exact compareElements_ends first second
  | .null, right => by cases right <;> exact .value _
  | .bool _, right => by cases right <;> first | exact .value _ | exact .fault rfl
  | .number _, right => by cases right <;> first | exact .value _ | exact .fault rfl
  | .text _ _, right => by cases right <;> first | exact .value _ | exact .fault rfl
  | .map _ _, right => by cases right <;> first | exact .value _ | exact .fault rfl
  | .date _, right => by cases right <;> first | exact .value _ | exact .fault rfl
  | .list _, .null => .value _
  | .list _, .bool _ | .list _, .number _ | .list _, .text _ _ | .list _, .map _ _ | .list _, .date _ => .fault rfl

private theorem compareElements_ends : (left right : List Value) → Settles breaks (compareElements left right)
  | [], [] | [], _ :: _ | _ :: _, [] => .value _
  | first :: rest, second :: others => by
    rw [compareElements]
    apply (compare_ends first second).bind
    intro order _
    cases order with
    | eq => exact compareElements_ends rest others
    | lt | gt => exact .value _

end

theorem relate_ends (operator : RelationalOperator) (left right : Value) : Settles breaks (relate operator left right) := by
  cases operator with
  | equal | notEqual => exact .value _
  | less | lessEqual | greater | greaterEqual => exact (compare_ends left right).bind fun _ _ => .value _
  | member =>
    cases right with
    | text _ _ => cases left <;> first | exact .value _ | exact .fault rfl
    | list _ | map _ _ => exact .value _
    | null | bool _ | number _ | date _ => exact .fault rfl

end Comparison

section Operators
variable {breaks : Breakdown → Prop} {holds : Value → Prop} (hereditary : Hereditary holds) {left right target : Value}

section
include hereditary

theorem select_ends (whole : holds target) (field : String) (test : Bool) :
    Ends breaks holds (target.select field test) := by
  cases target with
  | null =>
    cases test with
    | true => exact hereditary.ok rfl
    | false => exact .fault rfl
  | map kind entries =>
    unfold select
    dsimp only
    split
    next => exact hereditary.ok rfl
    next found => exact .returned (hereditary.found whole found)
    next => exact .fault rfl
  | _ => exact .fault rfl

theorem applyUnary_ends (operator : UnaryOperator) (operand : Value) :
    Ends breaks holds (applyUnary operator operand) := by
  cases operator <;> cases operand <;> first | exact hereditary.ok rfl | exact .fault rfl

theorem orOverflow_ends (operator : ArithmeticOperator) (result? : Option Number) :
    Ends breaks holds (orOverflow operator result?) := by
  cases result? with
  | some number => exact hereditary.ok rfl
  | none => exact .fault rfl

end

private theorem position_ends (key : Value) : Settles breaks (position key) := by
  unfold position
  split
  next => exact .value _
  next =>
    split
    next => exact .value _
    next => exact .fault rfl
  next => exact .fault rfl

private theorem numbers_ends {operation : String} (named : operation ∈ ["Subtraction", "Division", "Modulo"])
    (left right : Value) : Settles breaks (numbers operation left right) := by
  unfold numbers
  split
  next => exact .value _
  next => exact .fault (List.contains_iff_mem.mpr named)

section Lookup
variable (long : breaks .numberTooLong)
include long

private theorem itemAt_ends (typeName : String) {items : List Value} (each : ∀ item ∈ items, holds item) (key : Value) :
    Ends breaks holds (itemAt typeName items key) := by
  apply (position_ends key).bind
  intro place _
  dsimp only
  split
  next item found =>
    split at found
    next => exact .returned (each _ (List.mem_of_getElem? found))
    next => cases found
  next => exact (Ends.integerText long place).bind fun _ _ => .fault rfl

include hereditary in
theorem index_ends (whole : holds target) (key : Value) : Ends breaks holds (target.index key) := by
  cases target with
  | list items => exact itemAt_ends long _ (hereditary.list.mp whole) key
  | text kind content =>
    refine itemAt_ends long _ (fun item member => ?_) key
    obtain ⟨character, _, rfl⟩ := List.mem_map.mp member
    exact hereditary.scalar rfl
  | map kind entries =>
    unfold index
    dsimp only
    split
    next found => exact .returned (hereditary.found whole found)
    next => exact (Ends.format long key).bind fun _ _ => .fault rfl
  | _ => exact .fault rfl

end Lookup

section Arithmetic

include hereditary in
/-- Both lists give all that the sum has. -/
theorem add_ends (long : breaks .numberTooLong) (before : holds left) (behind : holds right) :
    Ends breaks holds (left.add right) := by
  have joined : Ends breaks holds (do return .string ((← left.format) ++ (← right.format))) :=
    (Ends.format long left).bind fun _ _ => (Ends.format long right).bind fun _ _ => hereditary.ok rfl
  unfold Value.add
  split
  next => exact hereditary.ok rfl
  next => exact joined
  next => exact joined
  next =>
    refine .returned (hereditary.list.mpr fun element member => ?_)
    rcases List.mem_append.mp member with inFirst | inSecond
    · exact hereditary.list.mp before element inFirst
    · exact hereditary.list.mp behind element inSecond
  next => exact orOverflow_ends hereditary _ _
  next => exact .fault rfl

private theorem repetitionCount_ends (long : breaks .numberTooLong) (count : Value) :
    Settles breaks (repetitionCount count) := by
  unfold repetitionCount
  split
  next => exact .value _
  next => exact (Ends.format long _).bind fun _ _ => .fault rfl

section
variable (room : breaks .memory)
include hereditary room

theorem repeatText_ends (kind : TextKind) (content : String) (count : Nat) :
    Ends breaks holds (repeatText kind content count) := by
  unfold repeatText
  split
  next => exact .fault rfl
  next =>
    split
    next => exact hereditary.ok rfl
    next =>
      split
      next => exact .broken room
      next => exact hereditary.ok rfl

/-- A repeated list has no element that it has not once. -/
theorem repeatList_ends {items : List Value} (whole : holds (.list items)) (count : Nat) :
    Ends breaks holds (repeatList items count) := by
  unfold repeatList
  split
  next => exact .fault rfl
  next =>
    split
    next => exact .returned (hereditary.list.mpr nofun)
    next =>
      split
      next => exact .broken room
      next =>
        refine .returned (hereditary.list.mpr fun element member => ?_)
        obtain ⟨copy, copied, inside⟩ := List.mem_flatten.mp member
        cases List.eq_of_mem_replicate copied
        exact hereditary.list.mp whole element inside

private theorem multiply_ends (long : breaks .numberTooLong) (before : holds left) :
    Ends breaks holds (left.multiply right) := by
  unfold multiply
  split
  next => exact orOverflow_ends hereditary _ _
  next => exact (repetitionCount_ends long right).bind fun _ _ => repeatText_ends hereditary room _ _ _
  next => exact (repetitionCount_ends long right).bind fun count _ => repeatList_ends hereditary room before count
  next => exact .fault rfl

end

include hereditary

theorem subtract_ends (left right : Value) : Ends breaks holds (left.subtract right) :=
  (numbers_ends (by simp) left right).bind fun _ _ => orOverflow_ends hereditary _ _

theorem divide_ends (left right : Value) : Ends breaks holds (left.divide right) := by
  apply (numbers_ends (by simp) left right).bind
  intro (dividend, divisor) _
  dsimp only
  split
  next => exact .fault rfl
  next => exact orOverflow_ends hereditary _ _

private theorem modulo_ends (infinite : breaks .infiniteDividend) (left right : Value) :
    Ends breaks holds (left.modulo right) := by
  apply (numbers_ends (by simp) left right).bind
  intro (dividend, divisor) _
  dsimp only
  split
  next => exact .fault rfl
  next =>
    split
    next => exact hereditary.ok rfl
    next =>
      split
      next =>
        split
        next => exact hereditary.ok rfl
        next => exact .broken infinite
      next => exact .fault rfl

theorem arithmetic_ends (long : breaks .numberTooLong) (room : breaks .memory) (infinite : breaks .infiniteDividend)
    (operator : ArithmeticOperator) (before : holds left) (behind : holds right) :
    Ends breaks holds (arithmetic operator left right) := by
  cases operator with
  | add => exact add_ends hereditary long before behind
  | subtract => exact subtract_ends hereditary left right
  | multiply => exact multiply_ends hereditary room long before
  | divide => exact divide_ends hereditary left right
  | modulo => exact modulo_ends hereditary infinite left right

end Arithmetic
end Operators
end CommonExpr.Proofs.OperatorFailures

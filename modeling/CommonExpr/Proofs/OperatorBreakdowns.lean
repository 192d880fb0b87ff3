import CommonExpr.Proofs.OperatorFailures

/-! Where the operators break down below the language: which operands have no text, no
remainder or no room for their product. Every other failure of an operator is a fault
of the expression. -/

namespace CommonExpr.Proofs.OperatorBreakdowns
open OperatorFailures Value

section Outcomes
variable {allowed : Breakdown → Prop} {outcome : Except Failure α}

/-- A breakdown is only ever one of the allowed kinds. -/
def Confined (allowed : Breakdown → Prop) (outcome : Except Failure α) : Prop :=
  ∀ cause, outcome = .error (.broken cause) → allowed cause

namespace Confined

theorem fault (cause : Fault) : Confined allowed (Value.fault cause : Except Failure α) :=
  nofun

theorem weaken {other : Breakdown → Prop} (confined : Confined allowed outcome)
    (implies : ∀ cause, allowed cause → other cause) : Confined other outcome :=
  fun cause failed => implies cause (confined cause failed)

theorem of_ends {promised : α → Prop} (ends : Ends allowed promised outcome) : Confined allowed outcome := by
  rintro cause rfl
  cases ends with
  | failed arises =>
    cases arises with
    | broken among => exact among

end Confined
end Outcomes

section Exactly

/-- Text takes in the other operand, unless both are bytes. -/
def JoinsText : Value → Value → Prop
  | .bytes _, .bytes _ => False
  | .text _ _, _ | _, .text _ _ => True
  | _, _ => False

/-- The operands at which arithmetic breaks down, whatever room there is. -/
inductive ArithmeticBreaks : ArithmeticOperator → Value → Value → Breakdown → Prop where
  | remainder {negative : Bool} {number : Number} {divisor : Double} (filled : number.isZero = false)
      (narrow : number.toDouble? = some divisor) (proper : Number.isNaN (.double divisor) = false) :
      ArithmeticBreaks .modulo (.double (.infinity negative)) (.number number) .infiniteDividend
  | join {left right : Value} (joins : JoinsText left right) (long : Overlong left ∨ Overlong right) :
      ArithmeticBreaks .add left right .numberTooLong
  | repetition {target count : Value} (repeats : target.isList ∨ ∃ kind content, target = .text kind content)
      (refused : ∀ times : Nat, count ≠ .int times) (long : Overlong count) :
      ArithmeticBreaks .multiply target count .numberTooLong

/-- The keys whose text is missing where a look-up fails. -/
inductive IndexBreaks : Value → Value → Prop where
  | element {elements : List Value} {place : Int} (outside : place < 0 ∨ elements.length ≤ place)
      (long : Overlong (.int place)) : IndexBreaks (.list elements) (.int place)
  | character {kind : TextKind} {content : String} {place : Int} (outside : place < 0 ∨ content.length ≤ place)
      (long : Overlong (.int place)) : IndexBreaks (.text kind content) (.int place)
  | key {kind : MapKind} {entries : List (Value × Value)} {key : Value} (missing : Entries.lookup? key entries = none)
      (long : Overlong key) : IndexBreaks (.map kind entries) key

private theorem add_joined {left right : Value} (joins : JoinsText left right) :
    left.add right = do return .string ((← left.format) ++ (← right.format)) := by
  cases left with
  | text kind content =>
    cases right with
    | text other more => cases kind <;> cases other <;> first | rfl | exact joins.elim
    | _ => cases kind <;> rfl
  | _ =>
    cases right with
    | text kind content => cases kind <;> rfl
    | _ => exact joins.elim

private theorem add_apart {allowed : Breakdown → Prop} {left right : Value} (apart : ¬ JoinsText left right) :
    Confined allowed (left.add right) := by
  cases left with
  | text kind content =>
    cases right with
    | text other more => cases kind <;> cases other <;> exact nofun
    | _ => cases kind <;> exact absurd trivial apart
  | number first =>
    cases right with
    | number second => exact .of_ends (orOverflow_ends .anything _ _)
    | text kind content => cases kind <;> exact absurd trivial apart
    | _ => exact nofun
  | _ =>
    cases right with
    | text kind content => cases kind <;> exact absurd trivial apart
    | _ => exact nofun

private theorem add_breaks_iff (left right : Value) (cause : Breakdown) :
    left.add right = .error (.broken cause) ↔ ArithmeticBreaks .add left right cause := by
  by_cases joins : JoinsText left right
  · have fails := (format_fails left).bind fun first => (format_fails right).map fun second => Value.string (first ++ second)
    rw [add_joined joins]
    refine fails.breaks_iff.trans ⟨?_, ?_⟩
    · rintro ⟨long, rfl⟩
      exact .join joins long
    · rintro ⟨⟩
      exact ⟨by assumption, rfl⟩
  · have regular : Confined (fun _ => False) (left.add right) := add_apart joins
    refine iff_of_false (regular cause) ?_
    rintro (_ | ⟨joined, _⟩)
    exact joins joined

private theorem bind_breaks_iff {outcome : Except Failure α} {next : α → Except Failure β} {cause : Breakdown}
    (goesOn : ∀ value, Confined (· ≠ cause) (next value)) :
    (outcome >>= next) = .error (.broken cause) ↔ outcome = .error (.broken cause) := by
  cases outcome with
  | ok value => exact iff_of_false (fun broken => goesOn value cause broken rfl) nofun
  | error failure =>
    constructor
    · intro same
      cases same
      rfl
    · intro same
      cases same
      rfl

private theorem repetitionCount_breaks_iff (count : Value) (cause : Breakdown) :
    repetitionCount count = .error (.broken cause) ↔
      ((∀ times : Nat, count ≠ .int times) ∧ Overlong count) ∧ cause = .numberTooLong := by
  by_cases counts : ∃ times : Nat, count = .int times
  · obtain ⟨times, rfl⟩ := counts
    exact iff_of_false nofun fun both => both.1.1 times rfl
  · have refused : ∀ times : Nat, count ≠ .int times := not_exists.mp counts
    have written : repetitionCount count = (do Value.fault (.repetitionCount (← count.format))) := by
      unfold repetitionCount
      split
      next times => exact absurd rfl (refused times)
      next => rfl
    rw [written, bind_breaks_iff fun text => .fault _, (format_fails count).breaks_iff]
    exact and_congr_left fun _ => (and_iff_right refused).symm

private theorem multiply_breaks_iff (left right : Value) (cause : Breakdown) (room : cause ≠ .memory) :
    left.multiply right = .error (.broken cause) ↔ ArithmeticBreaks .multiply left right cause := by
  have other {outcome : Except Failure Value} (confined : Confined (· = .memory) outcome) :
      Confined (· ≠ cause) outcome :=
    confined.weaken fun found memory same => room (same.symm.trans memory)
  have repeated {next : Nat → Except Failure Value} (within : ∀ times, Confined (· = .memory) (next times))
      (repeats : left.isList ∨ ∃ kind content, left = .text kind content) :
      (do next (← repetitionCount right)) = .error (.broken cause) ↔ ArithmeticBreaks .multiply left right cause := by
    rw [bind_breaks_iff fun times => other (within times), repetitionCount_breaks_iff]
    constructor
    · rintro ⟨⟨refused, long⟩, rfl⟩
      exact .repetition repeats refused long
    · rintro (_ | _ | ⟨_, refused, long⟩)
      exact ⟨⟨refused, long⟩, rfl⟩
  have apart (confined : Confined (fun _ => False) (left.multiply right))
      (single : ¬ (left.isList ∨ ∃ kind content, left = .text kind content)) :
      left.multiply right = .error (.broken cause) ↔ ArithmeticBreaks .multiply left right cause := by
    refine iff_of_false (confined cause) ?_
    rintro (_ | _ | ⟨repeats, _, _⟩)
    exact single repeats
  cases left with
  | text kind content =>
    exact repeated (fun times => .of_ends (repeatText_ends .anything (by rfl) kind content times)) (.inr ⟨kind, content, rfl⟩)
  | list elements =>
    exact repeated (fun times => .of_ends (repeatList_ends .anything (by rfl) trivial times)) (.inl rfl)
  | number first =>
    refine apart ?_ (by simp [isList])
    cases right with
    | number second => exact .of_ends (orOverflow_ends .anything _ _)
    | _ => exact nofun
  | _ => exact apart nofun (by simp [isList])

private theorem ofInt?_finite {value : Int} {negative : Bool} : Double.ofInt? value ≠ some (.infinity negative) := by
  intro same
  unfold Double.ofInt? at same
  split at same
  next => cases same
  next other =>
    exact other negative (Option.some.inj same)

private theorem remainder?_eq_none (left right : Double) :
    left.remainder? right = none ↔ (∃ negative, left = .infinity negative) ∧ Number.isNaN (.double right) = false := by
  cases left <;> cases right <;> simp [Double.remainder?, Number.isNaN]

private theorem toDouble?_infinite {number : Number} {negative : Bool}
    (same : number.toDouble? = some (.infinity negative)) :
    number = .double (.infinity negative) := by
  cases number with
  | int value => exact absurd same ofInt?_finite
  | double value => rw [Option.some.inj same]

private theorem modulo_breaks_iff (left right : Value) (cause : Breakdown) :
    left.modulo right = .error (.broken cause) ↔ ArithmeticBreaks .modulo left right cause := by
  constructor
  · intro broken
    unfold modulo numbers at broken
    split at broken
    next first second =>
      simp only [bind, Except.bind] at broken
      split at broken
      next => cases broken
      next filled =>
        split at broken
        next => cases broken
        next =>
          split at broken
          next dividend divisor whole narrow =>
            split at broken
            next => cases broken
            next none =>
              cases broken
              obtain ⟨⟨negative, rfl⟩, proper⟩ := (remainder?_eq_none dividend divisor).mp none
              rw [toDouble?_infinite whole]
              exact .remainder (Bool.eq_false_iff.mpr filled) narrow proper
          next => cases broken
    next => cases broken
  · rintro (⟨filled, narrow, proper⟩ | _ | _)
    rename_i negative number divisor
    have none : (Double.infinity negative).remainder? divisor = none :=
      (remainder?_eq_none _ divisor).mpr ⟨⟨negative, rfl⟩, proper⟩
    have same : (Number.double (.infinity negative)).toDouble? = some (.infinity negative) := rfl
    cases number <;> simp only [modulo, numbers, bind, Except.bind, filled, Bool.false_eq_true, if_false, same, narrow, none]

theorem arithmetic_breaks_iff (operator : ArithmeticOperator) (left right : Value) (cause : Breakdown)
    (room : cause ≠ .memory) :
    arithmetic operator left right = .error (.broken cause) ↔ ArithmeticBreaks operator left right cause := by
  cases operator with
  | add => exact add_breaks_iff left right cause
  | multiply => exact multiply_breaks_iff left right cause room
  | modulo => exact modulo_breaks_iff left right cause
  | subtract =>
    have confined : Confined (fun _ => False) (left.subtract right) := .of_ends (subtract_ends .anything left right)
    exact iff_of_false (confined cause) nofun
  | divide =>
    have confined : Confined (fun _ => False) (left.divide right) := .of_ends (divide_ends .anything left right)
    exact iff_of_false (confined cause) nofun

/-- The place that an index stands for is shown where no item is at it. -/
theorem itemAt_place {index : Value} {place : Int} (typeName : String) (items : List Value) (cause : Breakdown)
    (stands : position index = .ok place) : itemAt typeName items index = .error (.broken cause) ↔
      ((place < 0 ∨ items.length ≤ place) ∧ Overlong (.int place)) ∧ cause = .numberTooLong := by
  rw [itemAt, stands]
  change (pure place >>= _) = _ ↔ _
  rw [pure_bind]
  by_cases outside : place < 0 ∨ items.length ≤ place
  · have missing : (if 0 ≤ place then items[place.toNat]? else none) = none := by
      split
      next => exact List.getElem?_eq_none (by omega)
      next => rfl
    simp only [missing]
    refine (bind_breaks_iff fun _ => .fault _).trans ((integerText_fails place).breaks_iff.trans ?_)
    rw [and_iff_right outside]
  · have inside : place.toNat < items.length := by omega
    have found : (if 0 ≤ place then items[place.toNat]? else none) = some items[place.toNat] := by
      rw [if_pos (by omega), List.getElem?_eq_getElem inside]
    simp only [found]
    refine iff_of_false (fun broken => ?_) fun both => outside both.1.1
    cases broken

private theorem itemAt_breaks_iff (typeName : String) (items : List Value) (index : Value) (cause : Breakdown) :
    itemAt typeName items index = .error (.broken cause) ↔
      (∃ place : Int, index = .int place ∧ (place < 0 ∨ items.length ≤ place) ∧ Overlong (.int place)) ∧
        cause = .numberTooLong := by
  have apart (confined : Confined (fun _ => False) (itemAt typeName items index)) (other : ∀ place, index ≠ .int place) :
      itemAt typeName items index = .error (.broken cause) ↔
        (∃ place : Int, index = .int place ∧ (place < 0 ∨ items.length ≤ place) ∧ Overlong (.int place)) ∧
          cause = .numberTooLong := by
    refine iff_of_false (confined cause) ?_
    rintro ⟨⟨place, same, _⟩, _⟩
    exact other place same
  cases index with
  | number number =>
    cases number with
    | int place =>
      refine (itemAt_place typeName items cause rfl).trans (and_congr_left fun _ => ⟨fun found => ⟨place, rfl, found⟩, ?_⟩)
      rintro ⟨_, ⟨rfl⟩, found⟩
      exact found
    | double value =>
      refine apart ?_ nofun
      intro other broken
      cases truncated : value.truncate? with
      | none =>
        have stands : position (.double value) = fault (.indexNotFinite value.text) := by simp only [position, truncated]
        rw [itemAt, stands] at broken
        cases broken
      | some place =>
        have stands : position (.double value) = .ok place := by simp only [position, truncated]
        obtain ⟨⟨_, long⟩, _⟩ := (itemAt_place typeName items other stands).mp broken
        have short := truncate?_short value
        rw [truncated] at short
        cases long with
        | integer digits => exact absurd short (Nat.not_lt.mpr digits)
  | _ => exact apart nofun nofun

theorem index_breaks_iff (target key : Value) (cause : Breakdown) :
    target.index key = .error (.broken cause) ↔ IndexBreaks target key ∧ cause = .numberTooLong := by
  cases target with
  | list elements =>
    refine (itemAt_breaks_iff _ elements key cause).trans (and_congr_left fun _ => ⟨?_, ?_⟩)
    · rintro ⟨place, rfl, outside, long⟩
      exact .element outside long
    · rintro ⟨outside, long⟩
      exact ⟨_, rfl, outside, long⟩
  | text kind content =>
    refine (itemAt_breaks_iff _ _ key cause).trans (and_congr_left fun _ => ?_)
    rw [List.length_map, String.length_toList]
    constructor
    · rintro ⟨place, rfl, outside, long⟩
      exact .character outside long
    · rintro (_ | ⟨outside, long⟩)
      exact ⟨_, rfl, outside, long⟩
  | map kind entries =>
    cases found : Entries.lookup? key entries with
    | some value =>
      have held : (Value.map kind entries).index key = .ok value := by simp only [index, found]
      rw [held]
      refine iff_of_false nofun ?_
      rintro ⟨_ | _ | ⟨missing, _⟩, _⟩
      rw [missing] at found
      cases found
    | none =>
      have shown : (Value.map kind entries).index key = (do fault (.keyNotFound (← key.format))) := by
        simp only [index, found]
      rw [shown]
      refine (bind_breaks_iff fun _ => .fault _).trans ((format_fails key).breaks_iff.trans (and_congr_left fun _ => ?_))
      exact ⟨.key found, fun | .key _ long => long⟩
  | _ => exact iff_of_false nofun nofun

end Exactly
end CommonExpr.Proofs.OperatorBreakdowns

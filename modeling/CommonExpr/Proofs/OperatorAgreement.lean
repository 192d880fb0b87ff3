import CommonExpr.Proofs.KeyAgreement
import CommonExpr.Proofs.ScopeRefinement
import CommonExpr.Proofs.ValueOrder

/-! Equality and order side by side. Two values that are in order are either apart for both,
or level; and values that are level are equal unless something in them is no number, which
is level with every number and equal to none. -/

namespace CommonExpr.Proofs.OperatorAgreement
open NumberPlaces ValueOrder OverlayScopes ScopeRefinement

section Level

private theorem numbers_equal_iff_level (left right : Number) :
    left.equals right = ((left.compare? right).getD .eq == .eq && !left.isNaN && !right.isNaN) := by
  cases first : left.extent? with
  | none =>
    have nan := (extent?_eq_none_iff left).mp first
    simp [Number.equals, Number.compare?, first, nan]
  | some place =>
    cases second : right.extent? with
    | none =>
      have nan := (extent?_eq_none_iff right).mp second
      simp [Number.equals, Number.compare?, second, nan]
    | some other =>
      have isNumber {number : Number} {place : Extent} (here : number.extent? = some place) : number.isNaN = false := by
        rw [Bool.eq_false_iff]
        intro nan
        rw [(extent?_eq_none_iff number).mpr nan] at here
        cases here
      simp [Number.equals, compare?_places first second, isNumber first, isNumber second]

mutual

/-- Of two values in order, those are equal that are level, if they hold only numbers that are some. -/
theorem equal_iff_level : (left right : Value) → {order : Ordering} → Value.compare left right = .ok order →
    left.deepEquals right = (order == .eq && proper left && proper right)
  | .null, right, order, compared => by
    cases right <;> cases compared <;> rfl
  | .bool first, right, order, compared => by
    cases right with
    | bool second =>
      cases compared
      cases first <;> cases second <;> rfl
    | null => cases compared; rfl
    | number _ | text _ _ | list _ | map _ _ | date _ => cases compared
  | .number first, right, order, compared => by
    cases right with
    | number second =>
      cases compared
      exact numbers_equal_iff_level first second
    | null => cases compared; rfl
    | bool _ | text _ _ | list _ | map _ _ | date _ => cases compared
  | .text _ first, right, order, compared => by
    cases right with
    | text _ second =>
      cases compared
      rw [Value.deepEquals, Bool.eq_iff_iff]
      simp [proper]
    | null => cases compared; rfl
    | bool _ | number _ | list _ | map _ _ | date _ => cases compared
  | .list first, right, order, compared => by
    cases right with
    | list second => exact elements_equal_iff_level first second compared
    | null => cases compared; rfl
    | bool _ | number _ | text _ _ | map _ _ | date _ => cases compared
  | .map _ _, right, order, compared => by
    cases right with
    | null => cases compared; rfl
    | bool _ | number _ | text _ _ | list _ | map _ _ | date _ => cases compared
  | .date _, right, order, compared => by
    cases right with
    | null => cases compared; rfl
    | bool _ | number _ | text _ _ | list _ | map _ _ | date _ => cases compared

private theorem elements_equal_iff_level : (left right : List Value) → {order : Ordering} →
    Value.compareElements left right = .ok order →
    Value.elementsEqual left right = (order == .eq && properElements left && properElements right)
  | [], right, order, compared => by
    cases right <;> cases compared <;> rfl
  | first :: rest, [], order, compared => by
    cases compared
    rfl
  | first :: rest, second :: others, order, compared => by
    rw [compareElements_first] at compared
    rw [Value.elementsEqual, properElements, properElements]
    have heads {decided : Ordering} : Value.compare first second = .ok decided →
        first.deepEquals second = (decided == .eq && proper first && proper second) := equal_iff_level first second
    cases head : Value.compare first second with
    | error _ =>
      rw [head] at compared
      cases compared
    | ok decided =>
      rw [head] at compared
      rw [heads head]
      cases decided with
      | lt | gt =>
        cases compared
        rfl
      | eq =>
        rw [elements_equal_iff_level rest others compared]
        cases order <;> simp [Bool.and_assoc, Bool.and_left_comm]

end

end Level
section Operators
variable (functions : Functions)

/-- Two variables that have the given values stand in a relation. -/
def Holds (operator : RelationalOperator) (left right : Value) : Prop :=
  (Expr.run (.binary (.relational operator) (.identifier "left") (.identifier "right")) functions
    ⟨[("left", left), ("right", right)]⟩).1 = .ok (.bool true)

/-- One of the three relations holds and the other two do not, and those that allow for equality
hold where one of their two parts does. -/
structure OperatorsAgree (left right : Value) : Prop where
  one : (Holds functions .less left right ∧ ¬ Holds functions .equal left right ∧ ¬ Holds functions .greater left right) ∨
    (¬ Holds functions .less left right ∧ Holds functions .equal left right ∧ ¬ Holds functions .greater left right) ∨
    (¬ Holds functions .less left right ∧ ¬ Holds functions .equal left right ∧ Holds functions .greater left right)
  lessEqual : Holds functions .lessEqual left right ↔ Holds functions .less left right ∨ Holds functions .equal left right
  greaterEqual : Holds functions .greaterEqual left right ↔ Holds functions .greater left right ∨ Holds functions .equal left right

variable {left right : Value} {order : Ordering}

private theorem holds_iff (operator : RelationalOperator) :
    Holds functions operator left right ↔ Value.relate operator left right = .ok true := by
  have bound (name : String) (value : Value)
      (found : Environment.get? (.base ⟨[("left", left), ("right", right)]⟩) name = some value) :
      Reference.evaluate functions (.identifier name) (.base ⟨[("left", left), ("right", right)]⟩) (some 489) = pure value := by
    rw [Reference.evaluate, Reference.within, Reference.lookup?, found, pure_bind]
  rw [Holds, run_eq_answer, Reference.answer, Reference.evaluate, Expr.nestingAllowance, Reference.within,
    bound "left" left rfl, pure_bind, bound "right" right rfl, pure_bind]
  rcases Value.relate operator left right with failure | (_ | _)
  · constructor <;> intro wrong <;> cases wrong
  · constructor <;> intro wrong <;> cases wrong
  · exact ⟨fun _ => rfl, fun _ => rfl⟩

private theorem holds_order_iff (compared : Value.compare left right = .ok order) :
    (Holds functions .less left right ↔ order = .lt) ∧ (Holds functions .greater left right ↔ order = .gt) ∧
      (Holds functions .lessEqual left right ↔ order ≠ .gt) ∧ (Holds functions .greaterEqual left right ↔ order ≠ .lt) := by
  simp only [holds_iff, Value.relate, compared]
  cases order <;> simp [Bind.bind, Except.bind, Pure.pure, Except.pure]

private theorem holds_equal_iff (compared : Value.compare left right = .ok order) :
    Holds functions .equal left right ↔ order = .eq ∧ proper left ∧ proper right := by
  simp [holds_iff, Value.relate, equal_iff_level left right compared, and_assoc]

/-- The operators agree for two values in order, unless these are level and hold, at any depth,
something that is no number. Then neither is less and they are not equal, and yet either is less
or equal to the other. -/
theorem operators_agree_iff (compared : Value.compare left right = .ok order) :
    (OperatorsAgree functions left right ↔ order ≠ .eq ∨ (proper left ∧ proper right)) ∧
      (¬ OperatorsAgree functions left right →
        ¬ Holds functions .less left right ∧ ¬ Holds functions .equal left right ∧
          ¬ Holds functions .greater left right ∧ Holds functions .lessEqual left right ∧
          Holds functions .greaterEqual left right) := by
  obtain ⟨less, greater, lessEqual, greaterEqual⟩ := holds_order_iff functions compared
  have equal := holds_equal_iff functions compared
  have agree : OperatorsAgree functions left right ↔ order ≠ .eq ∨ (proper left ∧ proper right) := by
    constructor
    · rintro ⟨one, -, -⟩
      rw [less, equal, greater] at one
      cases order with
      | lt | gt => exact .inl nofun
      | eq => simpa using one
    · intro apart
      cases order with
      | lt | gt => constructor <;> simp [less, equal, greater, lessEqual, greaterEqual]
      | eq =>
        have numbers := apart.resolve_left fun different => different rfl
        constructor <;> simp [less, equal, greater, lessEqual, greaterEqual, numbers]
  refine ⟨agree, fun clash => ?_⟩
  rw [agree, not_or, not_not] at clash
  obtain ⟨rfl, nan⟩ := clash
  rw [less, equal, greater, lessEqual, greaterEqual]
  exact ⟨nofun, fun ⟨_, numbers⟩ => nan numbers, nofun, nofun, nofun⟩

end Operators

/-- What is no number hides in a list, behind an integer that is level with a double. -/
theorem lists_level_but_unequal :
    let one : Double := .finite false 4503599627370496 (-52) (by decide)
    let left : Value := .list [.int 1, .list [.double (.nan none)]]
    let right : Value := .list [.double one, .list [.int 2]]
    ¬ OperatorsAgree standardFunctions left right ∧ ¬ Holds standardFunctions .equal left right ∧
      Holds standardFunctions .lessEqual left right ∧ Holds standardFunctions .greaterEqual left right := by
  intro one left right
  have heads : Number.compare? (.int 1) (.double one) = some .eq := by decide +kernel
  have compared : Value.compare left right = .ok .eq := by
    simp only [left, right, Value.compare, Value.compareElements, heads]
    rfl
  obtain ⟨agree, clash⟩ := operators_agree_iff standardFunctions compared
  have apart : ¬ OperatorsAgree standardFunctions left right := by
    rw [agree]
    decide +kernel
  obtain ⟨_, unequal, _, less, greater⟩ := clash apart
  exact ⟨apart, unequal, less, greater⟩

/-- In sources, too, what is no number is neither less than one nor equal to it nor greater, but it
is less or equal. -/
theorem nan_less_or_equal_but_neither :
    (KeyAgreement.holds "double('nan') <= 1" ∧ ¬ KeyAgreement.holds "double('nan') < 1" ∧
      ¬ KeyAgreement.holds "double('nan') == 1" ∧ ¬ KeyAgreement.holds "double('nan') > 1") ∧
    ¬ ∀ left right order, Value.compare left right = .ok order → OperatorsAgree standardFunctions left right := by
  refine ⟨by decide +kernel, fun agree => ?_⟩
  obtain ⟨_, lessEqual, _⟩ := agree (.double (.nan none)) (.int 1) .eq rfl
  rw [holds_iff, holds_iff, holds_iff] at lessEqual
  rcases lessEqual.mp rfl with less | equal
  · cases less
  · cases equal

end CommonExpr.Proofs.OperatorAgreement

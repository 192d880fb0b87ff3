import CommonExpr.Proofs.NumberPlaces
import CommonExpr.Value.Order

/-! The order of values is a total preorder as far as it reaches. It answers in both
directions or in none, and where it places one value before a second and the second
before a third, it also answers for the first and the third. -/

namespace CommonExpr.Proofs.ValueOrder
open Std NumberPlaces

theorem compareElements_first (first second : Value) (rest others : List Value) :
    Value.compareElements (first :: rest) (second :: others) = match Value.compare first second with
      | .ok .eq => Value.compareElements rest others
      | outcome => outcome := by
  rw [Value.compareElements]
  cases Value.compare first second with
  | error failure => rfl
  | ok order => cases order <;> rfl

/-- Two answers that are each other's mirror image, or two refusals. -/
inductive Mirrored : Except Failure Ordering → Except Failure Ordering → Prop where
  | refused (first second : Failure) : Mirrored (.error first) (.error second)
  | answered (order : Ordering) : Mirrored (.ok order) (.ok order.swap)

mutual

theorem compare_mirrored : (left right : Value) → Mirrored (Value.compare left right) (Value.compare right left)
  | .null, right => by cases right <;> exact .answered _
  | .bool first, right => by
    cases right with
    | null => exact .answered .gt
    | bool second =>
      simp only [Value.compare, OrientedOrd.eq_swap (a := second)]
      exact .answered _
    | number _ | text _ _ | list _ | map _ _ | date _ => exact .refused _ _
  | .number first, right => by
    cases right with
    | null => exact .answered .gt
    | number second =>
      simp only [Value.compare, compare?_swap first second]
      cases first.compare? second with
      | none => exact .answered .eq
      | some order => exact .answered order
    | bool _ | text _ _ | list _ | map _ _ | date _ => exact .refused _ _
  | .text _ first, right => by
    cases right with
    | null => exact .answered .gt
    | text _ second =>
      simp only [Value.compare, OrientedOrd.eq_swap (a := second)]
      exact .answered _
    | bool _ | number _ | list _ | map _ _ | date _ => exact .refused _ _
  | .list first, right => by
    cases right with
    | null => exact .answered .gt
    | list second =>
      simp only [Value.compare]
      exact compareElements_mirrored first second
    | bool _ | number _ | text _ _ | map _ _ | date _ => exact .refused _ _
  | .map _ _, right => by cases right <;> first | exact .answered .gt | exact .refused _ _
  | .date _, right => by cases right <;> first | exact .answered .gt | exact .refused _ _

private theorem compareElements_mirrored : (left right : List Value) →
    Mirrored (Value.compareElements left right) (Value.compareElements right left)
  | [], right => by cases right <;> exact .answered _
  | first :: rest, [] => .answered .gt
  | first :: rest, second :: others => by
    rw [compareElements_first, compareElements_first]
    have heads := compare_mirrored first second
    generalize Value.compare first second = forward at heads ⊢
    generalize Value.compare second first = backward at heads ⊢
    cases heads with
    | refused => exact .refused _ _
    | answered order =>
      cases order with
      | lt => exact .answered .lt
      | gt => exact .answered .gt
      | eq => exact compareElements_mirrored rest others

end

/-- What follows for two values that stand in order by way of a third: they have an
order, and it is strict if one of the two steps is. -/
def Composes (first second : Ordering) (outcome : Except Failure Ordering) : Prop :=
  ∃ order, outcome = .ok order ∧ order.isLE ∧ (first = .lt ∨ second = .lt → order = .lt)

/-- In a total preorder two steps compose to the comparison of their ends. -/
private theorem composes_of_trans {compare : α → α → Ordering} [TransCmp compare] {a b c : α}
    (below : (compare a b).isLE) (above : (compare b c).isLE) :
    Composes (compare a b) (compare b c) (.ok (compare a c)) := by
  refine ⟨_, rfl, TransCmp.isLE_trans below above, ?_⟩
  rintro (strict | strict)
  · exact TransCmp.lt_of_lt_of_isLE strict above
  · exact TransCmp.lt_of_isLE_of_lt below strict

private theorem compare_numbers {left right : Number} (leftProper : proper (.number left))
    (rightProper : proper (.number right)) :
    ∃ first second, left.extent? = some first ∧ right.extent? = some second ∧
      Value.compare (.number left) (.number right) = .ok (first.compare second) := by
  obtain ⟨first, leftPlace⟩ := extent_of_number left (by simpa [proper] using leftProper)
  obtain ⟨second, rightPlace⟩ := extent_of_number right (by simpa [proper] using rightProper)
  exact ⟨first, second, leftPlace, rightPlace, by simp [Value.compare, compare?_places leftPlace rightPlace]⟩

private theorem null_of_compare {value : Value} {order : Ordering} (answer : Value.compare value .null = .ok order)
    (below : order.isLE) : value = .null ∧ order = .eq := by
  cases value <;> cases answer <;> first | exact ⟨rfl, rfl⟩ | cases below

mutual

theorem compare_composes : (a b c : Value) → (first second : Ordering) → proper a → proper b → proper c →
    Value.compare a b = .ok first → Value.compare b c = .ok second → first.isLE → second.isLE →
    Composes first second (Value.compare a c)
  | .null, b, c, first, second, _, _, _, left, right, _, above => by
    cases c with
    | null =>
      obtain ⟨rfl, rfl⟩ := null_of_compare right above
      cases left
      exact ⟨.eq, rfl, rfl, by simp⟩
    | bool _ | number _ | text _ _ | list _ | map _ _ | date _ => exact ⟨.lt, rfl, rfl, fun _ => rfl⟩
  | .bool x, b, c, first, second, _, _, _, left, right, below, above => by
    cases b with
    | bool y =>
      cases c with
      | bool z =>
        cases left
        cases right
        exact composes_of_trans below above
      | null => cases right; cases above
      | number _ | text _ _ | list _ | map _ _ | date _ => cases right
    | null => cases left; cases below
    | number _ | text _ _ | list _ | map _ _ | date _ => cases left
  | .number x, b, c, first, second, properA, properB, properC, left, right, below, above => by
    cases b with
    | number y =>
      cases c with
      | number z =>
        obtain ⟨placeX, placeY, hereX, hereY, comparedXY⟩ := compare_numbers properA properB
        obtain ⟨_, placeZ, sameY, hereZ, comparedYZ⟩ := compare_numbers properB properC
        cases hereY.symm.trans sameY
        cases comparedXY.symm.trans left
        cases comparedYZ.symm.trans right
        rw [Value.compare, compare?_places hereX hereZ]
        exact composes_of_trans below above
      | null => cases right; cases above
      | bool _ | text _ _ | list _ | map _ _ | date _ => cases right
    | null => cases left; cases below
    | bool _ | text _ _ | list _ | map _ _ | date _ => cases left
  | .text _ x, b, c, first, second, _, _, _, left, right, below, above => by
    cases b with
    | text _ y =>
      cases c with
      | text _ z =>
        cases left
        cases right
        exact composes_of_trans below above
      | null => cases right; cases above
      | bool _ | number _ | list _ | map _ _ | date _ => cases right
    | null => cases left; cases below
    | bool _ | number _ | list _ | map _ _ | date _ => cases left
  | .list xs, b, c, first, second, properA, properB, properC, left, right, below, above => by
    cases b with
    | list ys =>
      cases c with
      | list zs =>
        exact compareElements_composes xs ys zs first second (by simpa [proper] using properA)
          (by simpa [proper] using properB) (by simpa [proper] using properC) left right below above
      | null => cases right; cases above
      | bool _ | number _ | text _ _ | map _ _ | date _ => cases right
    | null => cases left; cases below
    | bool _ | number _ | text _ _ | map _ _ | date _ => cases left
  | .map _ _, b, _, _, _, _, _, _, left, _, below, _ => by
    cases b with
    | null => cases left; cases below
    | bool _ | number _ | text _ _ | list _ | map _ _ | date _ => cases left
  | .date _, b, _, _, _, _, _, _, left, _, below, _ => by
    cases b with
    | null => cases left; cases below
    | bool _ | number _ | text _ _ | list _ | map _ _ | date _ => cases left

/-- Where the heads of three lists are level the tails decide, and a step that is
strict at the heads stays so whatever follows. -/
private theorem compareElements_composes : (a b c : List Value) → (first second : Ordering) →
    properElements a → properElements b → properElements c →
    Value.compareElements a b = .ok first → Value.compareElements b c = .ok second →
    first.isLE → second.isLE → Composes first second (Value.compareElements a c)
  | [], [], c, first, second, _, _, _, left, right, _, above => by
    cases left
    exact ⟨second, right, above, by simp⟩
  | [], _ :: _, c, first, second, _, _, _, left, right, _, above => by
    cases c with
    | nil => cases right; cases above
    | cons _ _ => exact ⟨.lt, rfl, rfl, fun _ => rfl⟩
  | x :: xs, [], c, first, second, _, _, _, left, _, below, _ => by
    cases left
    cases below
  | x :: xs, y :: ys, [], first, second, _, _, _, _, right, _, above => by
    cases right
    cases above
  | x :: xs, y :: ys, z :: zs, first, second, properA, properB, properC, left, right, below, above => by
    rw [compareElements_first] at left right ⊢
    simp only [properElements, Bool.and_eq_true] at properA properB properC
    have heads := compare_composes x y z
    have tails := compareElements_composes xs ys zs first second properA.2 properB.2 properC.2
    cases forward : Value.compare x y with
    | error _ => rw [forward] at left; cases left
    | ok one =>
      cases onward : Value.compare y z with
      | error _ => rw [onward] at right; cases right
      | ok two =>
        rw [forward] at left
        rw [onward] at right
        have headBelow : one.isLE := by cases one <;> first | rfl | (cases left; cases below)
        have headAbove : two.isLE := by cases two <;> first | rfl | (cases right; cases above)
        obtain ⟨order, compared, least, strict⟩ :=
          heads one two properA.1 properB.1 properC.1 forward onward headBelow headAbove
        rw [compared]
        cases order with
        | lt => exact ⟨.lt, rfl, rfl, fun _ => rfl⟩
        | gt => cases least
        | eq =>
          have levelHead : one = .eq := by
            cases one with
            | lt => exact absurd (strict (.inl rfl)) (by decide)
            | eq => rfl
            | gt => cases headBelow
          have levelNext : two = .eq := by
            cases two with
            | lt => exact absurd (strict (.inr rfl)) (by decide)
            | eq => rfl
            | gt => cases headAbove
          subst levelHead levelNext
          exact tails left right below above

end

/-- Comparison is a total preorder wherever it answers. It refuses a pair in both
directions or in neither, turning a pair round turns the answer round, and two steps
upwards through a common value compose: the ends are comparable, in order, and in
strict order if one of the steps is strict. -/
theorem comparison_is_total_preorder (a b c : Value) (properA : proper a) (properB : proper b) (properC : proper c) :
    ((∃ failure, Value.compare a b = .error failure) ↔ ∃ failure, Value.compare b a = .error failure) ∧
    (∀ order, Value.compare a b = .ok order → Value.compare b a = .ok order.swap) ∧
    ∀ first second, Value.compare a b = .ok first → Value.compare b c = .ok second →
      first.isLE → second.isLE →
      ∃ order, Value.compare a c = .ok order ∧ order.isLE ∧ (first = .lt ∨ second = .lt → order = .lt) := by
  have mirrored := compare_mirrored a b
  refine ⟨?_, ?_, fun first second => compare_composes a b c first second properA properB properC⟩
  · generalize Value.compare a b = forward at mirrored ⊢
    generalize Value.compare b a = backward at mirrored ⊢
    cases mirrored with
    | refused first second => exact ⟨fun _ => ⟨second, rfl⟩, fun _ => ⟨first, rfl⟩⟩
    | answered order => constructor <;> (rintro ⟨_, impossible⟩; cases impossible)
  · intro order answer
    rw [answer] at mirrored
    generalize Value.compare b a = backward at mirrored ⊢
    cases mirrored with
    | answered => rfl

/-- An integer that is no double stands between two doubles, inside lists of unequal
length whose heads are level. -/
theorem comparison_between_doubles :
    ∃ order, Value.compare (.list [.null, .int 9007199254740993])
        (.list [.null, .double (.infinity false), .bool true]) = .ok order ∧ order = .lt := by
  let next : Double := .finite false 4503599627370497 1 (by decide)
  have below : Number.compare? (.int 9007199254740993) (.double next) = some .lt := by decide +kernel
  have above : Number.compare? (.double next) (.double (.infinity false)) = some .lt := by decide +kernel
  obtain ⟨_, _, steps⟩ := comparison_is_total_preorder (.list [.null, .int 9007199254740993])
    (.list [.null, .double next, .string "a"]) (.list [.null, .double (.infinity false), .bool true])
    (by decide) (by decide) (by decide)
  obtain ⟨order, answer, _, strict⟩ := steps .lt .lt
    (by simp only [Value.compare, Value.compareElements, below]; rfl)
    (by simp only [Value.compare, Value.compareElements, above]; rfl) rfl rfl
  exact ⟨order, answer, strict (.inl rfl)⟩

end CommonExpr.Proofs.ValueOrder

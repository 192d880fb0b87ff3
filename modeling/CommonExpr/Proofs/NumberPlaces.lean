import CommonExpr.Value.Basic

/-! Numbers compared by the places where they stand. Whatever is a number has a
place, integers and doubles on one line, and the places are in a total order. -/

namespace CommonExpr.Proofs.NumberPlaces
open Std

private theorem compareRat_eq (left right : Rat) : compareRat left right = compareOfLessAndEq left right := by
  unfold compareRat compareOfLessAndEq
  split
  · rfl
  · next least =>
    split
    next greater => simp [(Rat.ne_of_lt greater).symm]
    next equal => simp [Rat.le_antisymm (Rat.not_lt.mp equal) (Rat.not_lt.mp least)]

instance compareRat_trans : TransCmp compareRat := by
  have same : compareRat = fun left right => compareOfLessAndEq left right := by
    funext left right
    exact compareRat_eq left right
  rw [same]
  exact TransOrd.compareOfLessAndEq_of_antisymm_of_trans_of_total_of_not_le
    Rat.le_antisymm Rat.le_trans (fun _ _ => Rat.le_total) Rat.not_le

instance compareRat_lawful : LawfulEqCmp compareRat where
  compare_self := ReflCmp.compare_self
  eq_of_compare {left right} same := by
    rw [compareRat_eq] at same
    exact (compareOfLessAndEq_eq_eq (fun _ => Rat.le_refl) Rat.not_le).mp same

instance extent_trans : TransCmp Extent.compare where
  eq_swap {left right} := by
    cases left <;> cases right <;> first | rfl | exact compareRat_trans.eq_swap
  isLE_trans {left middle right} first second := by
    cases left <;> cases middle <;> cases right <;>
      first | rfl | contradiction | exact compareRat_trans.isLE_trans first second

instance extent_lawful : LawfulEqCmp Extent.compare where
  compare_self := ReflCmp.compare_self
  eq_of_compare {left right} same := by
    cases left <;> cases right <;>
      first | rfl | contradiction | exact congrArg _ (compareRat_lawful.eq_of_compare same)

/-- Only what is not a number has no place. -/
theorem extent?_eq_none_iff (number : Number) : number.extent? = none ↔ number.isNaN = true := by
  cases number with
  | int value => simp [Number.extent?, Number.isNaN]
  | double value => cases value <;> simp [Number.extent?, Number.isNaN, Double.toRat?]

theorem extent_of_number (number : Number) (isNumber : number.isNaN = false) : ∃ place, number.extent? = some place := by
  cases found : number.extent? with
  | some place => exact ⟨place, rfl⟩
  | none =>
    have nan := (extent?_eq_none_iff number).mp found
    rw [isNumber] at nan
    cases nan

theorem compare?_swap (left right : Number) : right.compare? left = (left.compare? right).map Ordering.swap := by
  unfold Number.compare?
  cases left.extent? <;> cases right.extent? <;> first | rfl | exact congrArg some extent_trans.eq_swap

theorem compare?_places {left right : Number} {first second : Extent}
    (leftPlace : left.extent? = some first) (rightPlace : right.extent? = some second) :
    left.compare? right = some (first.compare second) := by
  simp [Number.compare?, leftPlace, rightPlace]

/-- Equal numbers stand at one place. -/
theorem equals_iff {left right : Number} :
    left.equals right = true ↔ ∃ place, left.extent? = some place ∧ right.extent? = some place := by
  cases first : left.extent? with
  | none => simp [Number.equals, Number.compare?, first]
  | some place =>
    cases second : right.extent? with
    | none => simp [Number.equals, Number.compare?, first, second]
    | some other =>
      simp only [Number.equals, Number.compare?, first, second, beq_iff_eq, Option.some.injEq,
        LawfulEqCmp.compare_eq_iff_eq, exists_eq_left']
      exact eq_comm

theorem int_equals (first second : Int) : (Number.int first).equals (.int second) = (first == second) := by
  rw [Bool.eq_iff_iff, equals_iff, beq_iff_eq]
  constructor
  · rintro ⟨place, here, there⟩
    cases here
    simpa [Number.extent?, eq_comm] using there
  · rintro rfl
    exact ⟨_, rfl, rfl⟩

mutual

/-- Whether every number in a value, at any depth, is one. -/
def proper : Value → Bool
  | .number value => !value.isNaN
  | .list elements => properElements elements
  | .map _ entries => properEntries entries
  | _ => true

def properElements : List Value → Bool
  | [] => true
  | value :: rest => proper value && properElements rest

def properEntries : List (Value × Value) → Bool
  | [] => true
  | (key, value) :: rest => proper key && proper value && properEntries rest

end

theorem proper_list_iff (elements : List Value) : proper (.list elements) ↔ ∀ element ∈ elements, proper element := by
  rw [proper]
  induction elements with
  | nil => simp [properElements]
  | cons element rest ih => simp [properElements, ih]

theorem proper_map_iff (kind : MapKind) (entries : List (Value × Value)) :
    proper (.map kind entries) ↔ ∀ entry ∈ entries, proper entry.1 ∧ proper entry.2 := by
  rw [proper]
  induction entries with
  | nil => simp [properEntries]
  | cons entry rest ih => simp [properEntries, ih]

end CommonExpr.Proofs.NumberPlaces

import CommonExpr.Evaluation.Operators
import CommonExpr.Proofs.DeepEquality
import CommonExpr.Proofs.KeyAgreement
import CommonExpr.Proofs.ValueOrder
import CommonExpr.Value.Convert
import Mathlib.Data.Rat.Floor

/-! Equal values are interchangeable. They may be of different kinds, an integer and a
double, a text and bytes, a map and a struct, yet no operation that takes values apart tells
one from the other: it fails for both, or what it gives for one is equal to what it gives for
the other. -/

namespace CommonExpr.Proofs.EqualValues
open NumberPlaces MapKeys DeepEquality KeyAgreement ValueOrder

/-- Both fail, or both come to values that are related. -/
inductive Both (related : α → β → Prop) : Except Failure α → Except Failure β → Prop where
  | failed (first second : Failure) : Both related (.error first) (.error second)
  | returned {value : α} {answer : β} (reached : related value answer) : Both related (.ok value) (.ok answer)

theorem Both.refl (outcome : Except Failure α) : Both Eq outcome outcome := by
  cases outcome with
  | ok value => exact .returned rfl
  | error failure => exact .failed failure failure

section Equality

/-- Equal values are equal to the same values, on either side. -/
theorem deepEquals_congr {left right : Value} (leftKeyed : WellKeyed left) (rightKeyed : WellKeyed right)
    (same : left.deepEquals right) (other : Value) : left.deepEquals other = right.deepEquals other :=
  Bool.eq_iff_iff.mpr ⟨deepEquals_trans rightKeyed (deepEquals_symm leftKeyed rightKeyed same),
    deepEquals_trans leftKeyed same⟩

private theorem deepEquals_congr_right {left right : Value} (leftKeyed : WellKeyed left) (rightKeyed : WellKeyed right)
    (same : left.deepEquals right) {other : Value} (keyed : WellKeyed other) :
    other.deepEquals left = other.deepEquals right :=
  Bool.eq_iff_iff.mpr ⟨fun found => deepEquals_trans keyed found same,
    fun found => deepEquals_trans keyed found (deepEquals_symm leftKeyed rightKeyed same)⟩

end Equality

section Order

private theorem compare?_congr {left right : Number} (same : left.equals right) (other : Number) :
    left.compare? other = right.compare? other := by
  obtain ⟨place, first, second⟩ := equals_iff.mp same
  simp only [Number.compare?, first, second]

mutual

private theorem compare_congr : (left right other : Value) → left.deepEquals right →
    Both Eq (left.compare other) (right.compare other)
  | .null, right, other, same => by
    cases right with
    | null => exact .refl _
    | _ => cases same
  | .bool first, right, other, same => by
    cases right with
    | bool second =>
      obtain rfl : first = second := by simpa [Value.deepEquals] using same
      exact .refl _
    | _ => cases same
  | .number first, right, other, same => by
    cases right with
    | number second =>
      cases other with
      | null => exact .returned rfl
      | number third =>
        rw [Value.compare, Value.compare, compare?_congr (by simpa [Value.deepEquals] using same)]
        exact .refl _
      | bool _ | text _ _ | list _ | map _ _ | date _ => exact .failed _ _
    | _ => cases same
  | .text kind first, right, other, same => by
    cases right with
    | text _ second =>
      obtain rfl : first = second := by simpa [Value.deepEquals] using same
      cases other with
      | null | text _ _ => exact .returned rfl
      | bool _ | number _ | list _ | map _ _ | date _ => exact .failed _ _
    | _ => cases same
  | .list first, right, other, same => by
    cases right with
    | list second =>
      cases other with
      | null => exact .returned rfl
      | list third => exact compareElements_congr first second third same
      | bool _ | number _ | text _ _ | map _ _ | date _ => exact .failed _ _
    | _ => cases same
  | .map _ _, right, other, same => by
    cases right with
    | map _ _ => cases other <;> first | exact .returned rfl | exact .failed _ _
    | _ => cases same
  | .date _, right, other, same => by
    cases right with
    | date _ => cases other <;> first | exact .returned rfl | exact .failed _ _
    | _ => cases same

private theorem compareElements_congr : (left right others : List Value) → Value.elementsEqual left right →
    Both Eq (Value.compareElements left others) (Value.compareElements right others)
  | [], [], others, _ => .refl _
  | [], _ :: _, _, same => by cases same
  | _ :: _, [], _, same => by cases same
  | first :: rest, second :: remaining, [], _ => .returned rfl
  | first :: rest, second :: remaining, third :: others, same => by
    rw [Value.elementsEqual, Bool.and_eq_true] at same
    rw [compareElements_first, compareElements_first]
    have heads := compare_congr first second third same.1
    generalize Value.compare first third = one at heads ⊢
    generalize Value.compare second third = two at heads ⊢
    cases heads with
    | failed => exact .failed _ _
    | returned reached =>
      subst reached
      split
      next => exact compareElements_congr rest remaining others same.2
      next => exact .refl _

end

end Order
section Keys

/-- Equal values are one key, if they are keys at all. -/
theorem keyEquals_of_equal {left right : Value} (same : left.deepEquals right) (stored : Value) :
    stored.keyEquals left = stored.keyEquals right := by
  by_cases scalar : left.isScalar
  · refine keyEquals_congr ?_ stored
    cases equated_of_equal scalar same with
    | null => rfl
    | bool value => cases value <;> rfl
    | number equal => simp [Value.keyEquals, Value.keyNumber?, equal]
    | text kind other content => simp [Value.keyEquals, Value.keyNumber?]
    | date moment => simp [Value.keyEquals, Value.keyNumber?, moment]
  · -- Neither is known by an identity, and so neither is any key.
    have nameless {value : Value} (composed : identity? value = none) : stored.keyEquals value = false := by
      rw [Bool.eq_false_iff]
      intro found
      obtain ⟨identity, _, known⟩ := (keyEquals_iff stored value).mp found
      rw [composed] at known
      cases known
    cases left with
    | list _ | map _ _ =>
      cases right with
      | list _ | map _ _ => rw [nameless rfl, nameless rfl]
      | _ => cases same
    | _ => exact absurd rfl scalar

private theorem lookup?_of_equal {left right : Value} (same : left.deepEquals right) (entries : List (Value × Value)) :
    Entries.lookup? left entries = Entries.lookup? right entries := by
  induction entries with
  | nil => rfl
  | cons entry rest ih => simp only [Entries.lookup?, keyEquals_of_equal same, ih]

/-- Under any key equal maps have equal values, or both have none. -/
theorem lookup?_related {kind other : MapKind} {first second : List (Value × Value)}
    (leftKeyed : WellKeyed (.map kind first)) (rightKeyed : WellKeyed (.map other second))
    (same : (Value.map kind first).deepEquals (.map other second)) (key : Value) :
    (Entries.lookup? key first = none ∧ Entries.lookup? key second = none) ∨
      ∃ value answer, Entries.lookup? key first = some value ∧ Entries.lookup? key second = some answer ∧
        value.deepEquals answer := by
  have onward {kind other : MapKind} {first second : List (Value × Value)}
      (equal : (Value.map kind first).deepEquals (.map other second)) {value : Value}
      (found : Entries.lookup? key first = some value) :
      ∃ answer, Entries.lookup? key second = some answer ∧ value.deepEquals answer := by
    obtain ⟨stored, member, sameKey⟩ := mem_of_lookup? found
    obtain ⟨answer, there, equal⟩ := ((maps_equal_iff _ _ _ _).mp equal).2 _ member
    exact ⟨answer, (lookup?_congr sameKey _) ▸ there, equal⟩
  cases here : Entries.lookup? key first with
  | some value =>
    obtain ⟨answer, there, equal⟩ := onward same here
    exact .inr ⟨value, answer, rfl, there, equal⟩
  | none =>
    cases there : Entries.lookup? key second with
    | none => exact .inl ⟨rfl, rfl⟩
    | some answer =>
      obtain ⟨value, found, _⟩ := onward (deepEquals_symm leftKeyed rightKeyed same) there
      cases here.symm.trans found

end Keys

section Shapes

/-- The pairs of equal values, by what they are made of. -/
inductive Alike : Value → Value → Prop where
  | scalar {left right : Value} (equated : Equated left right) : Alike left right
  | list {first second : List Value} (same : Value.elementsEqual first second) : Alike (.list first) (.list second)
  | map {kind other : MapKind} {first second : List (Value × Value)}
      (same : (Value.map kind first).deepEquals (.map other second)) : Alike (.map kind first) (.map other second)

private theorem alike_of_equal {left right : Value} (same : left.deepEquals right) : Alike left right := by
  by_cases scalar : left.isScalar
  · exact .scalar (equated_of_equal scalar same)
  · cases left with
    | list first =>
      cases right with
      | list second => exact .list same
      | _ => cases same
    | map kind first =>
      cases right with
      | map other second => exact .map same
      | _ => cases same
    | _ => exact absurd rfl scalar

private theorem elements_keyed {elements : List Value} (keyed : WellKeyed (.list elements)) :
    ∀ element ∈ elements, WellKeyed element := by
  cases keyed with
  | scalar scalar => cases scalar
  | list each => exact each

private theorem entries_keyed {kind : MapKind} {entries : List (Value × Value)}
    (keyed : WellKeyed (.map kind entries)) :
    ∀ entry ∈ entries, WellKeyed entry.2 := by
  cases keyed with
  | scalar scalar => cases scalar
  | map _ each => exact each

private theorem sizeOf_congr {left right : Value} (same : left.deepEquals right) :
    Both Eq left.sizeOf right.sizeOf := by
  cases alike_of_equal same with
  | scalar equated =>
    cases equated with
    | null | text _ _ _ => exact .returned rfl
    | bool _ | number _ | date _ => exact .failed _ _
  | @list first second _ => exact .returned ((lists_equal_iff first second).mp same).1
  | @map kind other first second _ => exact .returned ((maps_equal_iff kind other first second).mp same).1

end Shapes

section Membership
variable {left right : Value}

private theorem any_equal_congr {first second : List Value} (firstKeyed : ∀ element ∈ first, WellKeyed element)
    (secondKeyed : ∀ element ∈ second, WellKeyed element) (same : Value.elementsEqual first second) (item : Value) :
    first.any (·.deepEquals item) = second.any (·.deepEquals item) := by
  induction first generalizing second with
  | nil =>
    cases second with
    | nil => rfl
    | cons _ _ => cases same
  | cons element rest ih =>
    cases second with
    | nil => cases same
    | cons other others =>
      rw [Value.elementsEqual, Bool.and_eq_true] at same
      obtain ⟨here, remaining⟩ := List.forall_mem_cons.mp firstKeyed
      obtain ⟨there, onward⟩ := List.forall_mem_cons.mp secondKeyed
      rw [List.any_cons, List.any_cons, deepEquals_congr here there same.1, ih remaining onward same.2]

/-- Equal values have the same members. -/
theorem holds_congr (leftKeyed : WellKeyed left) (rightKeyed : WellKeyed right) (same : left.deepEquals right)
    (item : Value) : Both Eq (item.memberOf left) (item.memberOf right) := by
  cases alike_of_equal same with
  | scalar equated =>
    cases equated with
    | text kind other content => cases item <;> first | exact .returned rfl | exact .failed _ _
    | null | bool _ | number _ | date _ => exact .failed _ _
  | list elements =>
    exact .returned (any_equal_congr (elements_keyed leftKeyed) (elements_keyed rightKeyed) elements item)
  | map _ =>
    refine .returned ?_
    rw [Entries.hasKey, Entries.hasKey]
    rcases lookup?_related leftKeyed rightKeyed same item with ⟨here, there⟩ | ⟨_, _, here, there, _⟩
    · rw [here, there]
    · rw [here, there]
      rfl

/-- Equal values are members of the same values. -/
theorem member_congr (leftKeyed : WellKeyed left) (rightKeyed : WellKeyed right) (same : left.deepEquals right)
    {collection : Value} (keyed : WellKeyed collection) : Both Eq (left.memberOf collection) (right.memberOf collection) := by
  cases collection with
  | list elements =>
    refine .returned ?_
    rw [Bool.eq_iff_iff, List.any_eq_true, List.any_eq_true]
    refine exists_congr fun element => and_congr_right fun member => ?_
    rw [deepEquals_congr_right leftKeyed rightKeyed same (elements_keyed keyed element member)]
  | map _ entries => exact .returned (by rw [Entries.hasKey, Entries.hasKey, lookup?_of_equal same])
  | text _ _ =>
    cases alike_of_equal same with
    | scalar equated => cases equated <;> first | exact .returned rfl | exact .failed _ _
    | list _ | map _ => exact .failed _ _
  | null | bool _ | number _ | date _ => exact .failed _ _

end Membership

section Items

/-- A rational number without its fraction. -/
def towardZero (value : Rat) : Int :=
  if value < 0 then -(-value).floor else value.floor

private theorem magnitude_nonneg (significand : Nat) (exponent : Int) : 0 ≤ Double.magnitude significand exponent := by
  unfold Double.magnitude
  split
  next => exact Rat.natCast_nonneg
  next => exact Rat.mkRat_nonneg (Int.natCast_nonneg significand) _

private theorem towardZero_signed (negative : Bool) {size : Rat} (nonneg : 0 ≤ size) :
    towardZero (if negative then -size else size) = if negative then -size.floor else size.floor := by
  unfold towardZero
  cases negative with
  | false => simp [Rat.not_lt.mpr nonneg]
  | true =>
    by_cases zero : size = 0
    · subst zero
      rfl
    · have below : -size < 0 := neg_neg_of_pos (lt_of_le_of_ne nonneg (Ne.symm zero))
      simp only [if_true, if_pos below, neg_neg]

/-- Which place an index stands for is decided by its exact value. -/
theorem position_eq_ok_iff (number : Number) (place : Int) : Value.position (.number number) = .ok place ↔
    ∃ value, number.extent? = some (.point value) ∧ towardZero value = place := by
  rcases number with whole | (mark | negative | ⟨negative, significand, exponent, canonical⟩)
  · have exact : towardZero (whole : Rat) = whole := by
      unfold towardZero
      split
      next => rw [← Rat.intCast_neg, Rat.floor_intCast, Int.neg_neg]
      next => exact Rat.floor_intCast whole
    simp [Value.position, Number.extent?, exact]
  · simp [Value.position, Number.extent?, Double.truncate?, Value.fault]
  · cases negative <;> simp [Value.position, Number.extent?, Double.truncate?, Value.fault]
  · have truncated := towardZero_signed negative (magnitude_nonneg significand exponent)
    simp [Value.position, Number.extent?, Double.truncate?, Double.toRat?, truncated]

private theorem position_congr {left right : Value} (same : left.deepEquals right) :
    Both Eq (Value.position left) (Value.position right) := by
  cases alike_of_equal same with
  | scalar equated =>
    cases equated with
    | @number first second equal =>
      obtain ⟨extent, here, there⟩ := equals_iff.mp equal
      have agree (place : Int) : Value.position (.number first) = .ok place ↔ Value.position (.number second) = .ok place := by
        rw [position_eq_ok_iff, position_eq_ok_iff, here, there]
      cases one : Value.position (.number first) with
      | ok place =>
        rw [(agree place).mp one]
        exact .returned rfl
      | error failure =>
        cases two : Value.position (.number second) with
        | ok place => cases one.symm.trans ((agree place).mpr two)
        | error other => exact .failed _ _
    | null | bool _ | text _ _ _ | date _ => exact .failed _ _
  | list _ | map _ => exact .failed _ _

/-- At one place two rows of items that are equal one by one have equal items. -/
theorem itemAt_related {names others : String} {first second : List Value} {index other : Value}
    (places : Both Eq (Value.position index) (Value.position other)) (sizes : first.length = second.length)
    (each : ∀ (place : Nat) (inFirst : place < first.length) (inSecond : place < second.length),
      first[place].deepEquals second[place]) :
    Both (fun value answer => value.deepEquals answer) (Value.itemAt names first index) (Value.itemAt others second other) := by
  unfold Value.itemAt
  generalize Value.position index = one at places ⊢
  generalize Value.position other = two at places ⊢
  cases places with
  | failed => exact .failed _ _
  | @returned place _ reached =>
    subst reached
    by_cases inside : 0 ≤ place ∧ place.toNat < first.length
    · obtain ⟨positive, inFirst⟩ := inside
      have inSecond : place.toNat < second.length := sizes ▸ inFirst
      simp [Bind.bind, Except.bind, positive, List.getElem?_eq_getElem inFirst, List.getElem?_eq_getElem inSecond]
      exact .returned (each _ inFirst inSecond)
    · have outside (items : List Value) (sized : items.length = first.length) :
          (if 0 ≤ place then items[place.toNat]? else none) = none := by
        split
        next positive => exact List.getElem?_eq_none (by omega)
        next => rfl
      simp only [Bind.bind, Except.bind, outside first rfl, outside second sizes.symm, Value.fault]
      cases integerText place <;> exact .failed _ _

variable {left right : Value}

/-- Equal values have equal items. -/
theorem index_congr (leftKeyed : WellKeyed left) (rightKeyed : WellKeyed right) (same : left.deepEquals right)
    (key : Value) : Both (fun value answer => value.deepEquals answer) (left.index key) (right.index key) := by
  cases alike_of_equal same with
  | scalar equated =>
    cases equated with
    | text kind other content =>
      refine itemAt_related (.refl _) rfl fun place inFirst inSecond => ?_
      simp [Value.deepEquals]
    | null | bool _ | number _ | date _ => exact .failed _ _
  | @list first second _ =>
    obtain ⟨sizes, each⟩ := (lists_equal_iff first second).mp same
    exact itemAt_related (.refl _) sizes each
  | map _ =>
    rw [Value.index, Value.index]
    rcases lookup?_related leftKeyed rightKeyed same key with ⟨here, there⟩ | ⟨_, _, here, there, equal⟩
    · rw [here, there]
      cases key.format <;> exact .failed _ _
    · rw [here, there]
      exact .returned equal

/-- Under equal values there are equal items. -/
theorem index_key_congr (same : left.deepEquals right) {target : Value} (keyed : WellKeyed target) (number : proper target) :
    Both (fun value answer => value.deepEquals answer) (target.index left) (target.index right) := by
  cases target with
  | list elements =>
    refine itemAt_related (position_congr same) rfl fun place inside _ => ?_
    have member := List.getElem_mem inside
    exact deepEquals_refl (elements_keyed keyed _ member) ((proper_list_iff elements).mp number _ member)
  | text kind content =>
    refine itemAt_related (position_congr same) rfl fun place inFirst inSecond => ?_
    simp [Value.deepEquals]
  | map kind entries =>
    rw [Value.index, Value.index, lookup?_of_equal same]
    cases found : Entries.lookup? right entries with
    | some value =>
      obtain ⟨stored, member, _⟩ := mem_of_lookup? found
      exact .returned (deepEquals_refl (entries_keyed keyed _ member) ((proper_map_iff kind entries).mp number _ member).2)
    | none => cases left.format <;> cases right.format <;> exact .failed _ _
  | null | bool _ | number _ | date _ => exact .failed _ _

end Items

/-- Two values that no operation with a third one tells apart. -/
structure Interchangeable (left right other : Value) : Prop where
  equal : left.deepEquals other = right.deepEquals other
  order : Both Eq (left.compare other) (right.compare other)
  holds : Both Eq (other.memberOf left) (other.memberOf right)
  member : Both Eq (left.memberOf other) (right.memberOf other)
  size : Both Eq left.sizeOf right.sizeOf
  item : Both (fun value answer => value.deepEquals answer) (left.index other) (right.index other)
  place : Both (fun value answer => value.deepEquals answer) (other.index left) (other.index right)

/-- Equal values are interchangeable: equality, order, membership on either side, size and indexing
on either side fail for both or give equal results. -/
theorem equal_values_interchangeable {left right other : Value} (leftKeyed : WellKeyed left) (rightKeyed : WellKeyed right)
    (keyed : WellKeyed other) (number : proper other) (same : left.deepEquals right) : Interchangeable left right other where
  equal := deepEquals_congr leftKeyed rightKeyed same other
  order := compare_congr left right other same
  holds := holds_congr leftKeyed rightKeyed same other
  member := member_congr leftKeyed rightKeyed same keyed
  size := sizeOf_congr same
  item := index_congr leftKeyed rightKeyed same other
  place := index_key_congr same keyed number

/-- A map and a struct with their entries in another order, the one keyed by an integer and bytes,
the other by a string and a double, next to a list that holds one of them and a zero with a sign. -/
theorem map_for_struct :
    let one : Double := .finite false 4503599627370496 (-52) (by decide)
    let left : Value := .map .plain [(.int 1, .list [.int 0, .date "2024-02-29"]), (.bytes "k", .null)]
    let right : Value := .map (.struct (some "P")) [(.string "k", .null), (.double one, .list [.double (.zero true), .date "2024-02-29"])]
    let other : Value := .list [.map .plain [(.bool true, .null)], left, .double (.zero true)]
    Interchangeable left right other ∧ left.deepEquals right := by
  intro one left right other
  have item (value : Value) (scalar : value.isScalar) : WellKeyed (.list [value, .date "2024-02-29"]) :=
    .list (by simpa using ⟨.scalar scalar, .scalar rfl⟩)
  have leftKeyed : WellKeyed left := .map (by decide +kernel) (by simpa using ⟨item _ rfl, .scalar rfl⟩)
  have rightKeyed : WellKeyed right := .map (by decide +kernel) (by simpa using ⟨.scalar rfl, item _ rfl⟩)
  have small : WellKeyed (.map .plain [(.bool true, .null)]) := .map (by decide +kernel) (by simpa using .scalar rfl)
  have keyed : WellKeyed other := .list (by simpa [other] using ⟨small, leftKeyed, .scalar rfl⟩)
  have same : left.deepEquals right := by decide +kernel
  exact ⟨equal_values_interchangeable leftKeyed rightKeyed keyed (by decide +kernel) same, same⟩

end CommonExpr.Proofs.EqualValues

import CommonExpr.Proofs.NumberPlaces
import CommonExpr.Value.Key
import Mathlib.Data.Fintype.EquivFin

/-! Keys of maps. What a map knows a key by is one identity, so that being the same key
is symmetric and transitive for all values, and reflexive for those that can be keys.
A map in which no key comes twice gives back under every key what stands beside it, and
keys that are all found in as many others leave none of those out. -/

namespace CommonExpr.Proofs.MapKeys
open NumberPlaces

/-- What a number is known by: its place, or its mark if it is not a number. -/
inductive Identity.OfNumber where
  | placed (place : Extent)
  | marked (mark : Mark)

/-- What a key is known by. -/
inductive Identity where
  | null
  | number (identity : Identity.OfNumber)
  | text (content : String)
  | date (moment : Moment)

def numberIdentity? : Number → Option Identity.OfNumber
  | .double (.nan mark) => mark.map .marked
  | number => number.extent?.map .placed

def identity? : Value → Option Identity
  | .null => some .null
  | .bool value => (numberIdentity? (.int (if value then 1 else 0))).map .number
  | .number value => (numberIdentity? value).map .number
  | .text _ content => some (.text content)
  | .date content => some (.date (Moment.ofText content))
  | .list _ | .map _ _ => none

private theorem number_cases (number : Number) :
    (∃ mark, number = .double (.nan mark)) ∨
      ∃ place, number.extent? = some place ∧ numberIdentity? number = some (.placed place) := by
  rcases number with value | (mark | negative | ⟨negative, significand, exponent, canonical⟩)
  · exact .inr ⟨_, rfl, rfl⟩
  · exact .inl ⟨mark, rfl⟩
  · exact .inr ⟨_, rfl, rfl⟩
  · exact .inr ⟨_, rfl, rfl⟩

theorem sameMark_of_place {number : Number} {place : Extent} (here : number.extent? = some place) (other : Number) :
    number.sameMark other = false ∧ other.sameMark number = false := by
  rcases number with value | (mark | negative | ⟨negative, significand, exponent, canonical⟩)
  case double.nan => cases here
  all_goals exact ⟨by simp [Number.sameMark], by rcases other with _ | (_ | _ | _) <;> simp [Number.sameMark]⟩

private theorem extent?_nan (mark : Option Mark) : (Number.double (.nan mark)).extent? = none := rfl

private theorem numberIdentity?_nan (mark : Option Mark) :
    numberIdentity? (.double (.nan mark)) = mark.map .marked := rfl

private theorem sameMark_nan (first second : Option Mark) :
    (Number.double (.nan first)).sameMark (.double (.nan second)) = true ↔ ∃ mark, first = some mark ∧ second = some mark := by
  cases first with
  | none => simp [Number.sameMark]
  | some mark =>
    cases second with
    | none => simp [Number.sameMark]
    | some other => simpa [Number.sameMark] using eq_comm

private theorem sameNumber_iff (left right : Number) : (left.equals right || left.sameMark right) = true ↔
    ∃ identity, numberIdentity? left = some identity ∧ numberIdentity? right = some identity := by
  rw [Bool.or_eq_true, equals_iff]
  rcases number_cases left with ⟨first, rfl⟩ | ⟨first, leftPlace, leftKnown⟩
  · rcases number_cases right with ⟨second, rfl⟩ | ⟨second, rightPlace, rightKnown⟩
    · cases first <;> simp [extent?_nan, sameMark_nan, numberIdentity?_nan]
    · simp [extent?_nan, (sameMark_of_place rightPlace _).2, rightKnown, numberIdentity?_nan]
  · rcases number_cases right with ⟨second, rfl⟩ | ⟨second, rightPlace, rightKnown⟩
    · simp [extent?_nan, (sameMark_of_place leftPlace _).1, leftKnown, numberIdentity?_nan]
    · simp [leftPlace, rightPlace, (sameMark_of_place leftPlace right).1, leftKnown, rightKnown]

/-- Two values are one key if they are known by one identity. -/
theorem keyEquals_iff (left right : Value) :
    left.keyEquals right = true ↔ ∃ identity, identity? left = some identity ∧ identity? right = some identity := by
  unfold Value.keyEquals
  cases left <;> cases right <;> simp [Value.keyNumber?, identity?, sameNumber_iff, -Bool.or_eq_true]
  case text.text => exact eq_comm
  case date.date => exact eq_comm

theorem keyEquals_symm {left right : Value} (same : left.keyEquals right) : right.keyEquals left := by
  obtain ⟨identity, known, other⟩ := (keyEquals_iff left right).mp same
  exact (keyEquals_iff right left).mpr ⟨identity, other, known⟩

theorem keyEquals_trans {left middle right : Value} (first : left.keyEquals middle) (second : middle.keyEquals right) :
    left.keyEquals right := by
  obtain ⟨identity, known, between⟩ := (keyEquals_iff left middle).mp first
  obtain ⟨_, again, other⟩ := (keyEquals_iff middle right).mp second
  cases between.symm.trans again
  exact (keyEquals_iff left right).mpr ⟨identity, known, other⟩

/-- A scalar is the same key as itself, unless it is no number and has no mark. -/
theorem keyEquals_self {key : Value} (scalar : key.isScalar) (number : proper key) : key.keyEquals key := by
  obtain ⟨identity, known⟩ : ∃ identity, identity? key = some identity := by
    cases key with
    | number value =>
      obtain ⟨place, here⟩ := extent_of_number value (by simpa [proper] using number)
      rcases number_cases value with ⟨mark, rfl⟩ | ⟨_, _, known⟩
      · cases here
      · exact ⟨_, by rw [identity?, known]; rfl⟩
    | null | bool _ | text _ _ | date _ => exact ⟨_, rfl⟩
    | list _ | map _ _ => cases scalar
  exact (keyEquals_iff key key).mpr ⟨identity, known, known⟩

theorem keyEquals_congr {first second : Value} (same : first.keyEquals second) (other : Value) :
    other.keyEquals first = other.keyEquals second :=
  Bool.eq_iff_iff.mpr ⟨fun found => keyEquals_trans found same, fun found => keyEquals_trans found (keyEquals_symm same)⟩

/-- Every key is a scalar, and none comes twice. -/
def Keyed (entries : List (Value × Value)) : Prop :=
  (∀ entry ∈ entries, entry.1.isScalar) ∧ entries.Pairwise fun first second => first.1.keyEquals second.1 = false

instance (entries : List (Value × Value)) : Decidable (Keyed entries) :=
  inferInstanceAs (Decidable (_ ∧ _))

section Lookup
variable {entries : List (Value × Value)} {key stored value : Value}

/-- It does not matter which of the values that are one key is looked up. -/
theorem lookup?_congr {other : Value} (same : key.keyEquals other) (entries : List (Value × Value)) :
    Entries.lookup? key entries = Entries.lookup? other entries := by
  induction entries with
  | nil => rfl
  | cons entry rest ih => simp only [Entries.lookup?, keyEquals_congr same, ih]

theorem mem_of_lookup? (found : Entries.lookup? key entries = some value) :
    ∃ stored, (stored, value) ∈ entries ∧ stored.keyEquals key := by
  induction entries with
  | nil => cases found
  | cons entry rest ih =>
    rw [Entries.lookup?] at found
    split at found
    next same =>
      cases found
      exact ⟨entry.1, List.mem_cons_self, same⟩
    next =>
      obtain ⟨stored, member, same⟩ := ih found
      exact ⟨stored, List.mem_cons_of_mem _ member, same⟩

/-- Where no key comes twice, no other entry stands in the way. -/
theorem lookup?_of_mem (apart : entries.Pairwise fun first second => first.1.keyEquals second.1 = false)
    (member : (stored, value) ∈ entries) (same : stored.keyEquals key) : Entries.lookup? key entries = some value := by
  induction entries with
  | nil => cases member
  | cons entry rest ih =>
    rw [List.pairwise_cons] at apart
    rw [Entries.lookup?]
    rcases List.mem_cons.mp member with rfl | later
    · rw [if_pos same]
    · have other : entry.1.keyEquals key = false := by
        rw [← keyEquals_congr same]
        exact apart.1 _ later
      rw [if_neg (by simp [other]), ih apart.2 later]

theorem lookup?_eq_some_iff (keyed : Keyed entries) :
    Entries.lookup? key entries = some value ↔ ∃ stored, (stored, value) ∈ entries ∧ stored.keyEquals key :=
  ⟨mem_of_lookup?, fun ⟨_, member, same⟩ => lookup?_of_mem keyed.2 member same⟩

end Lookup

section Matching
variable {first second : List (Value × Value)}

/-- Different keys are found in different places. -/
theorem places_injective (keyed : Keyed first) {place : Fin first.length → Fin second.length}
    (matched : ∀ index, second[place index].1.keyEquals first[index].1) : Function.Injective place := by
  have different (i j : Fin first.length) (before : i < j) : place i ≠ place j := by
    intro equal
    have apart := List.pairwise_iff_getElem.mp keyed.2 i j i.isLt j.isLt before
    have there := matched j
    simp only [← equal] at there
    have one := keyEquals_trans (keyEquals_symm (matched i)) there
    simp only [Fin.getElem_fin] at one
    rw [apart] at one
    cases one
  intro i j equal
  rcases lt_trichotomy i j with before | here | after
  · exact absurd equal (different i j before)
  · exact here
  · exact absurd equal.symm (different j i after)

/-- Of as many entries as there are keys that are all found in them, none is left out. -/
theorem found_from_all (keyed : Keyed first) (same : first.length = second.length)
    (found : ∀ entry ∈ first, ∃ value, Entries.lookup? entry.1 second = some value) :
    ∀ other ∈ second, ∃ entry ∈ first, other.1.keyEquals entry.1 := by
  have placed (index : Fin first.length) : ∃ position : Fin second.length, second[position].1.keyEquals first[index].1 := by
    obtain ⟨value, here⟩ := found first[index] (List.getElem_mem _)
    obtain ⟨stored, member, matched⟩ := mem_of_lookup? here
    obtain ⟨position, inside, equal⟩ := List.mem_iff_getElem.mp member
    exact ⟨⟨position, inside⟩, by simpa [equal] using matched⟩
  choose place matched using placed
  have injective := places_injective keyed matched
  have onto := ((Fintype.bijective_iff_injective_and_card place).mpr ⟨injective, by simp [same]⟩).surjective
  intro other member
  obtain ⟨position, inside, rfl⟩ := List.mem_iff_getElem.mp member
  obtain ⟨index, here⟩ := onto ⟨position, inside⟩
  have one := matched index
  rw [here] at one
  exact ⟨first[index], List.getElem_mem _, one⟩

end Matching

/-- Values whose maps, at any depth, are keyed. -/
inductive WellKeyed : Value → Prop where
  | scalar {value : Value} (scalar : value.isScalar) : WellKeyed value
  | list {elements : List Value} (each : ∀ element ∈ elements, WellKeyed element) : WellKeyed (.list elements)
  | map {kind : MapKind} {entries : List (Value × Value)} (keyed : Keyed entries)
      (each : ∀ entry ∈ entries, WellKeyed entry.2) : WellKeyed (.map kind entries)

end CommonExpr.Proofs.MapKeys

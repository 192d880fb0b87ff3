import CommonExpr.Proofs.MapKeys
import CommonExpr.Value.Equality

/-! Deep equality is an equivalence relation. Lists are equal place by place. For maps one
direction looks the keys of the left one up in the right one; the way back is there
because keys that come once each and are all found leave nothing out in a map of the
same size. -/

namespace CommonExpr.Proofs.DeepEquality
open NumberPlaces MapKeys

private theorem elementsEqual_iff (first second : List Value) : Value.elementsEqual first second ↔
    first.length = second.length ∧
      ∀ (index : Nat) (inFirst : index < first.length) (inSecond : index < second.length),
        first[index].deepEquals second[index] := by
  induction first generalizing second with
  | nil => cases second <;> simp [Value.elementsEqual]
  | cons value rest ih =>
    cases second with
    | nil => simp [Value.elementsEqual]
    | cons other others =>
      simp only [Value.elementsEqual, Bool.and_eq_true, ih, List.length_cons, Nat.add_right_cancel_iff]
      constructor
      · rintro ⟨heads, sizes, tails⟩
        refine ⟨sizes, fun index inFirst inSecond => ?_⟩
        cases index with
        | zero => exact heads
        | succ index => exact tails index (Nat.lt_of_succ_lt_succ inFirst) (Nat.lt_of_succ_lt_succ inSecond)
      · rintro ⟨sizes, each⟩
        refine ⟨each 0 (Nat.zero_lt_succ _) (Nat.zero_lt_succ _), sizes, fun index inFirst inSecond => ?_⟩
        exact each (index + 1) (Nat.succ_lt_succ inFirst) (Nat.succ_lt_succ inSecond)

theorem entriesWithin_iff (first second : List (Value × Value)) : Value.entriesWithin first second ↔
    ∀ entry ∈ first, ∃ other, Entries.lookup? entry.1 second = some other ∧ entry.2.deepEquals other := by
  induction first with
  | nil => simp [Value.entriesWithin]
  | cons entry rest ih =>
    obtain ⟨key, value⟩ := entry
    rw [Value.entriesWithin, Bool.and_eq_true, ih, List.forall_mem_cons]
    cases Entries.lookup? key second <;> simp

theorem lists_equal_iff (first second : List Value) : (Value.list first).deepEquals (.list second) ↔
    first.length = second.length ∧
      ∀ (index : Nat) (inFirst : index < first.length) (inSecond : index < second.length),
        first[index].deepEquals second[index] := by
  rw [Value.deepEquals, elementsEqual_iff]

theorem maps_equal_iff (kind other : MapKind) (first second : List (Value × Value)) :
    (Value.map kind first).deepEquals (.map other second) ↔ first.length = second.length ∧
      ∀ entry ∈ first, ∃ value, Entries.lookup? entry.1 second = some value ∧ entry.2.deepEquals value := by
  rw [Value.deepEquals, Bool.and_eq_true, entriesWithin_iff, beq_iff_eq]

private theorem list_of_equal {elements : List Value} {right : Value} (same : (Value.list elements).deepEquals right) :
    ∃ others, right = .list others := by
  cases right with
  | list others => exact ⟨others, rfl⟩
  | _ => simp [Value.deepEquals] at same

private theorem map_of_equal {kind : MapKind} {entries : List (Value × Value)} {right : Value}
    (same : (Value.map kind entries).deepEquals right) : ∃ other others, right = .map other others := by
  cases right with
  | map other others => exact ⟨other, others, rfl⟩
  | _ => simp [Value.deepEquals] at same

/-- The pairs of equal scalars. -/
inductive Equated : Value → Value → Prop where
  | null : Equated .null .null
  | bool (value : Bool) : Equated (.bool value) (.bool value)
  | number {first second : Number} (equal : first.equals second) : Equated (.number first) (.number second)
  | text (kind other : TextKind) (content : String) : Equated (.text kind content) (.text other content)
  | date {first second : String} (same : Moment.ofText first = Moment.ofText second) :
      Equated (.date first) (.date second)

theorem equated_of_equal {left right : Value} (scalar : left.isScalar) (same : left.deepEquals right) :
    Equated left right := by
  cases left with
  | null => cases right <;> first | exact .null | simp [Value.deepEquals] at same
  | bool value =>
    cases right with
    | bool other =>
      obtain rfl : value = other := by simpa [Value.deepEquals] using same
      exact .bool value
    | _ => simp [Value.deepEquals] at same
  | number value =>
    cases right with
    | number other => exact .number (by simpa [Value.deepEquals] using same)
    | _ => simp [Value.deepEquals] at same
  | text kind content =>
    cases right with
    | text other content' =>
      obtain rfl : content = content' := by simpa [Value.deepEquals] using same
      exact .text kind other content
    | _ => simp [Value.deepEquals] at same
  | date content =>
    cases right with
    | date other => exact .date (by simpa [Value.deepEquals] using same)
    | _ => simp [Value.deepEquals] at same
  | list _ | map _ _ => cases scalar

theorem Equated.equal {left right : Value} (equated : Equated left right) : left.deepEquals right := by
  cases equated with
  | number equal => simpa [Value.deepEquals] using equal
  | date same => simpa [Value.deepEquals] using same
  | null | bool _ | text _ _ _ => simp [Value.deepEquals]

theorem Equated.scalar {left right : Value} (equated : Equated left right) : right.isScalar := by
  cases equated <;> rfl

theorem Equated.symm {left right : Value} (equated : Equated left right) : Equated right left := by
  cases equated with
  | null => exact .null
  | bool value => exact .bool value
  | number equal =>
    obtain ⟨place, first, second⟩ := equals_iff.mp equal
    exact .number (equals_iff.mpr ⟨place, second, first⟩)
  | text kind other content => exact .text other kind content
  | date same => exact .date same.symm

theorem Equated.trans {left middle right : Value} (equated : Equated left middle) (onward : Equated middle right) :
    Equated left right := by
  cases equated with
  | null => exact onward
  | bool value => exact onward
  | number equal =>
    cases onward with
    | number further =>
      obtain ⟨place, first, second⟩ := equals_iff.mp equal
      obtain ⟨_, again, third⟩ := equals_iff.mp further
      cases second.symm.trans again
      exact .number (equals_iff.mpr ⟨place, first, third⟩)
  | text kind _ content =>
    cases onward with
    | text _ other _ => exact .text kind other content
  | date same =>
    cases onward with
    | date further => exact .date (same.trans further)

theorem deepEquals_refl {value : Value} (wellKeyed : WellKeyed value) (number : proper value) :
    value.deepEquals value := by
  induction wellKeyed with
  | @scalar value scalar =>
    cases value with
    | number value =>
      obtain ⟨place, here⟩ := extent_of_number value (by simpa [proper] using number)
      rw [Value.deepEquals]
      exact equals_iff.mpr ⟨place, here, here⟩
    | null | bool _ | text _ _ | date _ => simp [Value.deepEquals]
    | list _ | map _ _ => cases scalar
  | @list elements _ ih =>
    have numbers := (proper_list_iff elements).mp number
    exact (lists_equal_iff elements elements).mpr ⟨rfl, fun index inside _ =>
      ih _ (List.getElem_mem inside) (numbers _ (List.getElem_mem inside))⟩
  | @map kind entries keyed _ ih =>
    have numbers := (proper_map_iff kind entries).mp number
    refine (maps_equal_iff kind kind entries entries).mpr ⟨rfl, fun entry member => ⟨entry.2, ?_, ?_⟩⟩
    · have self := keyEquals_self (keyed.1 entry member) (numbers entry member).1
      exact lookup?_of_mem keyed.2 member self
    · exact ih entry member (numbers entry member).2

theorem deepEquals_symm {left right : Value} (leftKeyed : WellKeyed left) (rightKeyed : WellKeyed right)
    (same : left.deepEquals right) : right.deepEquals left := by
  induction leftKeyed generalizing right with
  | scalar scalar => exact (equated_of_equal scalar same).symm.equal
  | @list elements _ ih =>
    obtain ⟨others, rfl⟩ := list_of_equal same
    cases rightKeyed with
    | scalar scalar => cases scalar
    | list rightEach =>
      obtain ⟨sizes, each⟩ := (lists_equal_iff _ _).mp same
      refine (lists_equal_iff _ _).mpr ⟨sizes.symm, fun index inFirst inSecond => ?_⟩
      exact ih _ (List.getElem_mem inSecond) (rightEach _ (List.getElem_mem inFirst)) (each index inSecond inFirst)
  | @map kind entries keyed _ ih =>
    obtain ⟨other, others, rfl⟩ := map_of_equal same
    cases rightKeyed with
    | scalar scalar => cases scalar
    | map othersKeyed rightEach =>
      obtain ⟨sizes, each⟩ := (maps_equal_iff _ _ _ _).mp same
      refine (maps_equal_iff _ _ _ _).mpr ⟨sizes.symm, fun entry member => ?_⟩
      have found (entry) (member : entry ∈ entries) : ∃ value, Entries.lookup? entry.1 others = some value :=
        (each entry member).imp fun _ => And.left
      -- The scan went over the left map only; as many keys were found, so this one is among them.
      obtain ⟨origin, inside, sameKey⟩ := found_from_all keyed sizes found entry member
      obtain ⟨value, here, equal⟩ := each origin inside
      have reached : Entries.lookup? origin.1 others = some entry.2 := lookup?_of_mem othersKeyed.2 member sameKey
      cases here.symm.trans reached
      refine ⟨origin.2, lookup?_of_mem keyed.2 inside (keyEquals_symm sameKey), ?_⟩
      exact ih origin inside (rightEach entry member) equal

theorem deepEquals_trans {left middle right : Value} (leftKeyed : WellKeyed left)
    (first : left.deepEquals middle) (second : middle.deepEquals right) : left.deepEquals right := by
  induction leftKeyed generalizing middle right with
  | scalar scalar =>
    have here := equated_of_equal scalar first
    exact (here.trans (equated_of_equal here.scalar second)).equal
  | @list elements _ ih =>
    obtain ⟨between, rfl⟩ := list_of_equal first
    obtain ⟨others, rfl⟩ := list_of_equal second
    obtain ⟨sizes, each⟩ := (lists_equal_iff _ _).mp first
    obtain ⟨furtherSizes, further⟩ := (lists_equal_iff _ _).mp second
    refine (lists_equal_iff _ _).mpr ⟨sizes.trans furtherSizes, fun index inFirst inSecond => ?_⟩
    have inside : index < between.length := sizes ▸ inFirst
    exact ih _ (List.getElem_mem inFirst) (each index inFirst inside) (further index inside inSecond)
  | @map kind entries keyed _ ih =>
    obtain ⟨_, between, rfl⟩ := map_of_equal first
    obtain ⟨_, others, rfl⟩ := map_of_equal second
    obtain ⟨sizes, each⟩ := (maps_equal_iff _ _ _ _).mp first
    obtain ⟨furtherSizes, further⟩ := (maps_equal_iff _ _ _ _).mp second
    refine (maps_equal_iff _ _ _ _).mpr ⟨sizes.trans furtherSizes, fun entry member => ?_⟩
    obtain ⟨value, here, equal⟩ := each entry member
    obtain ⟨stored, inside, sameKey⟩ := mem_of_lookup? here
    obtain ⟨last, there, onward⟩ := further _ inside
    exact ⟨last, (lookup?_congr sameKey others) ▸ there, ih entry member equal onward⟩

/-- Deep equality is reflexive, symmetric and transitive on values whose maps, at any
depth, have each key once and whose doubles are all numbers. -/
theorem deep_equality_is_equivalence (a b c : Value) (keyedA : WellKeyed a) (keyedB : WellKeyed b) (properA : proper a) :
    a.deepEquals a ∧ a.deepEquals b = b.deepEquals a ∧ (a.deepEquals b → b.deepEquals c → a.deepEquals c) :=
  ⟨deepEquals_refl keyedA properA,
    Bool.eq_iff_iff.mpr ⟨deepEquals_symm keyedA keyedB, deepEquals_symm keyedB keyedA⟩,
    deepEquals_trans keyedA⟩

/-- A map with the key one, a struct with the key one point zero, and a map with the key
true. Their other key is bytes in the first and a string elsewhere. -/
theorem equal_under_different_keys :
    let one : Double := .finite false 4503599627370496 (-52) (by decide)
    let first : Value := .map .plain [(.int 1, .list [.null, .date "2024-02-29"]), (.bytes "k", .double (.zero true))]
    let second : Value := .map (.struct (some "P")) [(.string "k", .int 0), (.double one, .list [.null, .date "2024-02-29"])]
    let third : Value := .map .plain [(.bool true, .list [.null, .date "2024-02-29"]), (.string "k", .double (.zero false))]
    first.deepEquals first ∧ first.deepEquals second = second.deepEquals first ∧ first.deepEquals third := by
  intro one first second third
  have shared : WellKeyed (.list [.null, .date "2024-02-29"]) := .list (by simpa using ⟨.scalar rfl, .scalar rfl⟩)
  have firstKeyed : WellKeyed first := .map (by decide +kernel) (by simpa using ⟨shared, .scalar rfl⟩)
  have secondKeyed : WellKeyed second := .map (by decide +kernel) (by simpa using ⟨.scalar rfl, shared⟩)
  obtain ⟨self, swapped, onward⟩ :=
    deep_equality_is_equivalence first second third firstKeyed secondKeyed (by decide +kernel)
  exact ⟨self, swapped, onward (by decide +kernel) (by decide +kernel)⟩

end CommonExpr.Proofs.DeepEquality

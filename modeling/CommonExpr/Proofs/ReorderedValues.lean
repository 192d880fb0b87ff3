import CommonExpr.Proofs.EqualValues
import CommonExpr.Proofs.OperatorBreakdowns

/-! Values that are the same but for the order of the entries in their maps, at any depth. A
map is looked into by key, so that equality, the order of values, membership and size do not
see in which order its entries stand. Only a text of the map does. -/

namespace CommonExpr.Proofs.ReorderedValues
open MapKeys DeepEquality OperatorBreakdowns

/-- The same value with the entries of its maps in another order. The keys of a map are scalars,
and none comes twice. -/
inductive Reordered : Value → Value → Prop where
  | scalar {value : Value} (scalar : value.isScalar) : Reordered value value
  | list {first second : List Value} (sizes : first.length = second.length)
      (each : ∀ (index : Nat) (inFirst : index < first.length) (inSecond : index < second.length),
        Reordered first[index] second[index]) : Reordered (.list first) (.list second)
  | map {kind : MapKind} {first moved second : List (Value × Value)} (keyed : Keyed first) (order : first.Perm moved)
      (keys : moved.map Prod.fst = second.map Prod.fst)
      (each : ∀ (index : Nat) (inMoved : index < moved.length) (inSecond : index < second.length),
        Reordered moved[index].2 second[index].2) : Reordered (.map kind first) (.map kind second)

section Entries

/-- Every key of the one map is a key of the other, and has related values in both. -/
structure Matched (related : Value → Value → Prop) (first second : List (Value × Value)) : Prop where
  keyed : Keyed first
  rekeyed : Keyed second
  sizes : first.length = second.length
  onto : ∀ entry ∈ first, ∃ value, (entry.1, value) ∈ second ∧ related entry.2 value
  back : ∀ entry ∈ second, ∃ value, (entry.1, value) ∈ first ∧ related value entry.2

variable {related : Value → Value → Prop} {first moved second : List (Value × Value)}

private theorem keyed_iff (entries : List (Value × Value)) : Keyed entries ↔
    (∀ key ∈ entries.map Prod.fst, key.isScalar) ∧
      (entries.map Prod.fst).Pairwise fun first second => first.keyEquals second = false := by
  rw [Keyed, List.pairwise_map, List.forall_mem_map]

private theorem keyed_of_keys (keyed : Keyed first) (keys : first.map Prod.fst = second.map Prod.fst) :
    Keyed second := by
  rw [keyed_iff] at keyed ⊢
  exact keys ▸ keyed

private theorem keyed_of_perm (keyed : Keyed first) (order : first.Perm second) : Keyed second := by
  refine ⟨fun entry member => keyed.1 entry (order.mem_iff.mpr member), ?_⟩
  refine (order.pairwise_iff ?_).mp keyed.2
  intro one two apart
  rw [Bool.eq_false_iff] at apart ⊢
  exact fun same => apart (keyEquals_symm same)

theorem Matched.intro (keyed : Keyed first) (order : first.Perm moved) (keys : moved.map Prod.fst = second.map Prod.fst)
    (each : ∀ (index : Nat) (inMoved : index < moved.length) (inSecond : index < second.length),
      related moved[index].2 second[index].2) : Matched related first second := by
  have sizes : moved.length = second.length := by simpa using congrArg List.length keys
  have sameKey (index : Nat) (inMoved : index < moved.length) (inSecond : index < second.length) :
      moved[index].1 = second[index].1 := by
    have same := List.getElem_of_eq keys (show index < (moved.map Prod.fst).length by simpa using inMoved)
    simpa using same
  refine ⟨keyed, keyed_of_keys (keyed_of_perm keyed order) keys, order.length_eq.trans sizes, ?_, ?_⟩
  · intro entry member
    obtain ⟨index, inMoved, rfl⟩ := List.getElem_of_mem (order.mem_iff.mp member)
    have inSecond : index < second.length := sizes ▸ inMoved
    refine ⟨second[index].2, ?_, each index inMoved inSecond⟩
    rw [sameKey index inMoved inSecond]
    exact List.getElem_mem inSecond
  · intro entry member
    obtain ⟨index, inSecond, rfl⟩ := List.getElem_of_mem member
    have inMoved : index < moved.length := sizes ▸ inSecond
    refine ⟨moved[index].2, order.mem_iff.mpr ?_, each index inMoved inSecond⟩
    rw [← sameKey index inMoved inSecond]
    exact List.getElem_mem inMoved

theorem Matched.found (matched : Matched related first second) {key value : Value}
    (here : Entries.lookup? key first = some value) :
    ∃ other, Entries.lookup? key second = some other ∧ related value other := by
  obtain ⟨stored, member, same⟩ := mem_of_lookup? here
  obtain ⟨other, there, reached⟩ := matched.onto _ member
  exact ⟨other, lookup?_of_mem matched.rekeyed.2 there same, reached⟩

theorem Matched.found_back (matched : Matched related first second) {key other : Value}
    (there : Entries.lookup? key second = some other) :
    ∃ value, Entries.lookup? key first = some value ∧ related value other := by
  obtain ⟨stored, member, same⟩ := mem_of_lookup? there
  obtain ⟨value, here, reached⟩ := matched.back _ member
  exact ⟨value, lookup?_of_mem matched.keyed.2 here same, reached⟩

/-- Under any key both maps have related values, or neither has one. -/
theorem Matched.lookups (matched : Matched related first second) (key : Value) :
    Option.Rel related (Entries.lookup? key first) (Entries.lookup? key second) := by
  cases here : Entries.lookup? key first with
  | some value =>
    obtain ⟨other, there, reached⟩ := matched.found here
    rw [there]
    exact .some reached
  | none =>
    cases there : Entries.lookup? key second with
    | none => exact .none
    | some other =>
      obtain ⟨value, found, _⟩ := matched.found_back there
      cases here.symm.trans found

end Entries

section Shapes
variable {left right : Value} {kind : MapKind} {items others : List Value} {first moved second : List (Value × Value)}

theorem Reordered.of_elements (each : List.Forall₂ Reordered items others) : Reordered (.list items) (.list others) := by
  obtain ⟨sizes, each⟩ := List.forall₂_iff_get.mp each
  exact .list sizes each

/-- Entries in another order, and then values in another order under the same keys. -/
theorem Reordered.of_entries (keyed : Keyed first) (order : first.Perm moved)
    (each : List.Forall₂ (fun entry other => entry.1 = other.1 ∧ Reordered entry.2 other.2) moved second) :
    Reordered (.map kind first) (.map kind second) := by
  obtain ⟨sizes, reached⟩ := List.forall₂_iff_get.mp each
  have keys : moved.map Prod.fst = second.map Prod.fst := by
    refine List.ext_getElem (by simpa using sizes) fun index inMoved inSecond => ?_
    rw [List.getElem_map, List.getElem_map]
    exact (reached index (by simpa using inMoved) (by simpa using inSecond)).1
  exact .map keyed order keys fun index inMoved inSecond => (reached index inMoved inSecond).2

theorem Reordered.scalar_eq (reordered : Reordered left right) (scalar : left.isScalar) : right = left := by
  cases reordered with
  | scalar _ => rfl
  | list _ _ => cases scalar
  | map _ _ _ _ => cases scalar

theorem reordered_refl {value : Value} (keyed : WellKeyed value) : Reordered value value := by
  induction keyed with
  | scalar scalar => exact .scalar scalar
  | list _ each => exact .list rfl fun index inside _ => each _ (List.getElem_mem inside)
  | map keyed _ each => exact .map keyed (.refl _) rfl fun index inside _ => each _ (List.getElem_mem inside)

theorem typeName_reordered (reordered : Reordered left right) : right.typeName = left.typeName := by
  cases reordered with
  | scalar _ | list _ _ => rfl
  | @map kind _ _ _ _ _ _ _ => rcases kind with _ | _ | _ <;> rfl

theorem isScalar_reordered (reordered : Reordered left right) : right.isScalar = left.isScalar := by
  cases reordered <;> rfl

theorem isTrue_reordered (reordered : Reordered left right) : right.isTrue = left.isTrue := by
  cases reordered <;> rfl

theorem sizeOf_reordered (reordered : Reordered left right) : right.sizeOf = left.sizeOf := by
  cases reordered with
  | scalar _ => rfl
  | list sizes _ => rw [Value.sizeOf, Value.sizeOf, sizes]
  | map keyed order keys each => rw [Value.sizeOf, Value.sizeOf, (Matched.intro keyed order keys each).sizes]

theorem isEmpty_of_sizes {α : Type} {few many : List α} (sizes : few.length = many.length) :
    many.isEmpty = few.isEmpty := by
  cases few <;> cases many <;> first | rfl | cases sizes

theorem toBool_reordered (reordered : Reordered left right) : right.toBool = left.toBool := by
  cases reordered with
  | scalar _ => rfl
  | list sizes _ => rw [Value.toBool, Value.toBool, isEmpty_of_sizes sizes]
  | map keyed order keys each =>
    rw [Value.toBool, Value.toBool, isEmpty_of_sizes (Matched.intro keyed order keys each).sizes]

end Shapes

section Lookup
variable {key other : Value} {first second : List (Value × Value)}

/-- What is no scalar is under no key. -/
theorem lookup?_composed (composed : key.isScalar = false) (entries : List (Value × Value)) :
    Entries.lookup? key entries = none := by
  induction entries with
  | nil => rfl
  | cons entry rest ih =>
    have apart : entry.1.keyEquals key = false := by
      rw [Bool.eq_false_iff]
      intro same
      obtain ⟨identity, _, known⟩ := (keyEquals_iff _ _).mp same
      cases key with
      | list _ | map _ _ => cases known
      | _ => cases composed
    rw [Entries.lookup?, if_neg (by simp [apart]), ih]

/-- Neither the order of the entries nor one inside of the key matters to what is found. -/
theorem lookup?_reordered (keys : Reordered key other) (matched : Matched Reordered first second) :
    Option.Rel Reordered (Entries.lookup? key first) (Entries.lookup? other second) := by
  cases scalar : key.isScalar with
  | true =>
    cases keys.scalar_eq scalar
    exact matched.lookups key
  | false =>
    rw [lookup?_composed scalar, lookup?_composed ((isScalar_reordered keys).trans scalar)]
    exact .none

theorem hasKey_reordered (keys : Reordered key other) (matched : Matched Reordered first second) :
    Entries.hasKey other second = Entries.hasKey key first := by
  have found := lookup?_reordered keys matched
  rw [Entries.hasKey, Entries.hasKey]
  generalize Entries.lookup? key first = one at found ⊢
  generalize Entries.lookup? other second = two at found ⊢
  cases found <;> rfl

end Lookup

section Equality

/-- Equality with whatever is reordered, too, stays the same. -/
def EqualsAlike (left right : Value) : Prop :=
  ∀ first second, Reordered first second → left.deepEquals first = right.deepEquals second

private theorem elementsEqual_alike {left right first second : List Value} (alike : List.Forall₂ EqualsAlike left right)
    (reordered : List.Forall₂ Reordered first second) :
    Value.elementsEqual left first = Value.elementsEqual right second := by
  induction alike generalizing first second with
  | nil => cases reordered <;> rfl
  | cons same _ ih =>
    cases reordered with
    | nil => rfl
    | cons reached others => rw [Value.elementsEqual, Value.elementsEqual, same _ _ reached, ih others]

private theorem entriesWithin_alike {left right first second : List (Value × Value)}
    (alike : Matched EqualsAlike left right)
    (matched : Matched Reordered first second) : Value.entriesWithin left first = Value.entriesWithin right second := by
  rw [Bool.eq_iff_iff, entriesWithin_iff, entriesWithin_iff]
  constructor
  · intro within entry member
    obtain ⟨value, here, same⟩ := alike.back entry member
    obtain ⟨found, there, equal⟩ := within _ here
    obtain ⟨other, refound, reached⟩ := matched.found there
    exact ⟨other, refound, (same _ _ reached).symm.trans equal⟩
  · intro within entry member
    obtain ⟨value, there, same⟩ := alike.onto entry member
    obtain ⟨found, here, equal⟩ := within _ there
    obtain ⟨other, refound, reached⟩ := matched.found_back here
    exact ⟨other, refound, (same _ _ reached).trans equal⟩

private theorem equals_reordered {left right : Value} (reordered : Reordered left right) : EqualsAlike left right := by
  induction reordered with
  | @scalar value scalar =>
    intro first second others
    cases others with
    | scalar _ => rfl
    | list _ _ | map _ _ _ _ =>
      cases value with
      | list _ | map _ _ => cases scalar
      | _ => rfl
  | @list left right sizes _ ih =>
    intro first second others
    cases others with
    | scalar scalar =>
      cases first with
      | list _ | map _ _ => cases scalar
      | _ => rfl
    | list further each =>
      rw [Value.deepEquals, Value.deepEquals]
      exact elementsEqual_alike (List.forall₂_iff_get.mpr ⟨sizes, ih⟩) (List.forall₂_iff_get.mpr ⟨further, each⟩)
    | map _ _ _ _ => rfl
  | @map kind left moved right keyed order keys _ ih =>
    intro first second others
    cases others with
    | scalar scalar =>
      cases first with
      | list _ | map _ _ => cases scalar
      | _ => rfl
    | list _ _ => rfl
    | map further reorder rekeys each =>
      have alike : Matched EqualsAlike left right := .intro keyed order keys ih
      have matched := Matched.intro further reorder rekeys each
      rw [Value.deepEquals, Value.deepEquals, alike.sizes, matched.sizes, entriesWithin_alike alike matched]

theorem deepEquals_reordered {left right first second : Value} (reordered : Reordered left right)
    (others : Reordered first second) : right.deepEquals second = left.deepEquals first :=
  (equals_reordered reordered first second others).symm

theorem any_equal_reordered {left right : Value} {first second : List Value} (item : Reordered left right)
    (reordered : List.Forall₂ Reordered first second) :
    second.any (·.deepEquals right) = first.any (·.deepEquals left) := by
  induction reordered with
  | nil => rfl
  | cons reached _ ih => rw [List.any_cons, List.any_cons, deepEquals_reordered reached item, ih]

end Equality

section Order

/-- The order with whatever is reordered, too, stays the same. -/
def OrderedAlike (left right : Value) : Prop :=
  ∀ first second, Reordered first second → left.compare first = right.compare second

private theorem compareElements_alike {left right first second : List Value}
    (alike : List.Forall₂ OrderedAlike left right)
    (reordered : List.Forall₂ Reordered first second) :
    Value.compareElements left first = Value.compareElements right second := by
  induction alike generalizing first second with
  | nil => cases reordered <;> rfl
  | cons same _ ih =>
    cases reordered with
    | nil => rfl
    | cons reached others => rw [Value.compareElements, Value.compareElements, same _ _ reached, ih others]

private theorem ordered_reordered {left right : Value} (reordered : Reordered left right) :
    OrderedAlike left right := by
  induction reordered with
  | @scalar value scalar =>
    intro first second others
    cases others with
    | scalar _ => rfl
    | list _ _ =>
      cases value with
      | list _ | map _ _ => cases scalar
      | _ => rfl
    | @map kind _ _ _ _ _ _ _ =>
      cases value with
      | list _ | map _ _ => cases scalar
      | _ => rcases kind with _ | _ | _ <;> rfl
  | @list left right sizes _ ih =>
    intro first second others
    cases others with
    | scalar scalar =>
      cases first with
      | list _ | map _ _ => cases scalar
      | _ => rfl
    | list further each =>
      rw [Value.compare, Value.compare]
      exact compareElements_alike (List.forall₂_iff_get.mpr ⟨sizes, ih⟩) (List.forall₂_iff_get.mpr ⟨further, each⟩)
    | @map kind _ _ _ _ _ _ _ => rcases kind with _ | _ | _ <;> rfl
  | @map kind _ _ _ _ _ _ _ _ =>
    intro first second others
    rcases kind with _ | _ | _
    all_goals
      cases others with
      | scalar scalar => cases first <;> rfl
      | list _ _ => rfl
      | @map other _ _ _ _ _ _ _ => rcases other with _ | _ | _ <;> rfl

theorem compare_reordered {left right first second : Value} (reordered : Reordered left right)
    (others : Reordered first second) : right.compare second = left.compare first :=
  (ordered_reordered reordered first second others).symm

end Order

end CommonExpr.Proofs.ReorderedValues

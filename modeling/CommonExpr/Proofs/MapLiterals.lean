import CommonExpr.Proofs.KeyAgreement
import Mathlib.Data.Set.Card

/-! What a map literal comes to. Its entries are evaluated in their order, the key of each before
its value, up to the first one that fails. Of keys that are one key the map keeps the first, and
of the values under them the last; indexing, membership and size all see that. -/

namespace CommonExpr.Proofs.MapLiterals
open EvaluationClosure NumberPlaces MapKeys KeyAgreement

section Pairs

/-- The keys that are one key with none before them, in their order. -/
def newKeys (before : List Value) : List Value → List Value
  | [] => []
  | key :: rest =>
    if before.any (·.keyEquals key) then newKeys (key :: before) rest else key :: newKeys (key :: before) rest

/-- The value of the last pair whose key is one key with the given one. -/
inductive LastUnder (key : Value) : List (Value × Value) → Value → Prop where
  | here {stored value : Value} {behind : List (Value × Value)} (same : stored.keyEquals key)
      (last : ∀ pair ∈ behind, pair.1.keyEquals key = false) : LastUnder key ((stored, value) :: behind) value
  | later {pair : Value × Value} {behind : List (Value × Value)} {value : Value} (rest : LastUnder key behind value) :
      LastUnder key (pair :: behind) value

/-- The sets of all values that are one key, for each of the given keys. -/
def classes (keys : List Value) : Set (Set Value) :=
  { together | ∃ key ∈ keys, { other : Value | key.keyEquals other } = together }

/-- A map that has the first key of each class, and the last value under it. -/
structure KeepsFirstAndLast (pairs entries : List (Value × Value)) : Prop where
  keys : entries.map Prod.fst = newKeys [] (pairs.map Prod.fst)
  values : ∀ entry ∈ entries, LastUnder entry.1 pairs entry.2
  index : ∀ key value, Value.index (.map .plain entries) key = .ok value ↔ LastUnder key pairs value
  found : ∀ key, (∃ value, Value.index (.map .plain entries) key = .ok value) ↔ ∃ pair ∈ pairs, pair.1.keyEquals key
  member : ∀ key, Value.relate .member key (.map .plain entries) = .ok (pairs.any (·.1.keyEquals key))
  size : Value.sizeOf (.map .plain entries) = .ok (classes (pairs.map Prod.fst)).ncard

variable {key value : Value} {keys before : List Value} {pairs built : List (Value × Value)}

private theorem keys_insert (key value : Value) (built : List (Value × Value)) :
    (Entries.insert key value built).map Prod.fst =
      if built.any (·.1.keyEquals key) then built.map Prod.fst else built.map Prod.fst ++ [key] := by
  induction built with
  | nil => rfl
  | cons entry rest ih =>
    obtain ⟨stored, old⟩ := entry
    rw [Entries.insert]
    by_cases same : stored.keyEquals key
    · simp [same]
    · simp only [same, Bool.false_eq_true, if_false, List.map_cons, ih, List.any_cons, Bool.false_or]
      split <;> rfl

/-- The keys that are added are new among all those before them, whether these were added or not. -/
theorem keys_written (covered : ∀ key, built.any (·.1.keyEquals key) = before.any (·.keyEquals key)) :
    (written built pairs).map Prod.fst = built.map Prod.fst ++ newKeys before (pairs.map Prod.fst) := by
  induction pairs generalizing built before with
  | nil => simp [written, newKeys]
  | cons pair rest ih =>
    obtain ⟨key, value⟩ := pair
    have further : ∀ other, (Entries.insert key value built).any (·.1.keyEquals other) =
        (key :: before).any (·.keyEquals other) := by
      intro other
      rw [List.any_cons, ← covered, ← hasKey_eq, ← hasKey_eq, Entries.hasKey, Entries.hasKey, lookup?_insert]
      cases key.keyEquals other <;> rfl
    rw [written, List.foldl_cons, ← written, ih further, keys_insert, covered, List.map_cons, newKeys]
    split
    next => rfl
    next => rw [List.append_assoc, List.singleton_append]

private theorem keys_of_written : (written [] pairs).map Prod.fst = newKeys [] (pairs.map Prod.fst) :=
  keys_written fun _ => rfl

/-- What is found was written last, or was there and has not been written over. -/
theorem lookup?_written_iff : Entries.lookup? key (written built pairs) = some value ↔
    LastUnder key pairs value ∨
      Entries.lookup? key built = some value ∧ ∀ pair ∈ pairs, pair.1.keyEquals key = false := by
  induction pairs generalizing built with
  | nil =>
    have none : ¬ LastUnder key [] value := by
      intro last
      cases last
    simp [written, none]
  | cons pair rest ih =>
    obtain ⟨stored, content⟩ := pair
    rw [written, List.foldl_cons, ← written, ih, lookup?_insert]
    constructor
    · rintro (later | ⟨kept, none⟩)
      · exact .inl (.later later)
      · split at kept
        next same =>
          cases kept
          exact .inl (.here same none)
        next different => exact .inr ⟨kept, List.forall_mem_cons.mpr ⟨by simpa using different, none⟩⟩
    · rintro ((⟨same, none⟩ | later) | ⟨kept, none⟩)
      · exact .inr ⟨by rw [if_pos same], none⟩
      · exact .inl later
      · obtain ⟨different, others⟩ := List.forall_mem_cons.mp none
        exact .inr ⟨by simpa [different] using kept, others⟩

private theorem newKeys_subset : newKeys before keys ⊆ keys := by
  induction keys generalizing before with
  | nil => simp [newKeys]
  | cons key rest ih =>
    rw [newKeys]
    split
    next => exact List.Subset.trans ih (List.subset_cons_self ..)
    next => exact List.cons_subset_cons _ ih

private theorem class_congr {first second : Value} (same : first.keyEquals second) :
    { other : Value | first.keyEquals other } = { other : Value | second.keyEquals other } :=
  Set.ext fun _ => ⟨keyEquals_trans (keyEquals_symm same), keyEquals_trans same⟩

/-- Keys of which no two are one key are in classes of their own. -/
theorem ncard_classes (self : ∀ key ∈ keys, key.keyEquals key)
    (apart : keys.Pairwise fun first second => first.keyEquals second = false) :
    (classes keys).ncard = keys.length := by
  classical
  let together (key : Value) : Set Value := { other | key.keyEquals other }
  have listed : classes keys = ((keys.map together).toFinset : Set (Set Value)) := by
    ext
    simp [classes, together]
  have different : (keys.map together).Nodup := by
    refine List.pairwise_map.mpr (apart.imp_of_mem fun {first second} _ inside none same => ?_)
    have met : second ∈ together first := same ▸ self second inside
    cases none.symm.trans met
  rw [listed, Set.ncard_coe_finset, List.toFinset_card_of_nodup different, List.length_map]

/-- The keys of the map stand for the classes of all keys. -/
theorem classes_written (self : ∀ pair ∈ pairs, pair.1.keyEquals pair.1) :
    classes ((written [] pairs).map Prod.fst) = classes (pairs.map Prod.fst) := by
  ext together
  constructor
  · rintro ⟨key, member, same⟩
    rw [keys_of_written] at member
    exact ⟨key, newKeys_subset member, same⟩
  · rintro ⟨key, member, same⟩
    obtain ⟨pair, inside, rfl⟩ := List.mem_map.mp member
    have present : Entries.hasKey pair.1 (written [] pairs) := by
      rw [Entries.hasKey, lookup?_written]
      exact List.any_eq_true.mpr ⟨pair, inside, self pair inside⟩
    obtain ⟨entry, written, stored⟩ := List.any_eq_true.mp ((hasKey_eq _ _).symm.trans present)
    exact ⟨entry.1, List.mem_map_of_mem written, (class_congr stored).trans same⟩

private theorem written_keeps (scalars : ∀ pair ∈ pairs, pair.1.isScalar) (numbers : ∀ pair ∈ pairs, proper pair.1) :
    KeepsFirstAndLast pairs (written [] pairs) := by
  have self : ∀ pair ∈ pairs, pair.1.keyEquals pair.1 := fun pair member =>
    keyEquals_self (scalars pair member) (numbers pair member)
  have keyed : Keyed (written [] pairs) := keyed_written ⟨nofun, .nil⟩ scalars
  have ownKeys : ∀ key ∈ (written [] pairs).map Prod.fst, key.keyEquals key := by
    intro key member
    obtain ⟨pair, inside, rfl⟩ := List.mem_map.mp (newKeys_subset (keys_of_written ▸ member))
    exact self pair inside
  have last (key value : Value) : Entries.lookup? key (written [] pairs) = some value ↔ LastUnder key pairs value :=
    lookup?_written_iff.trans (or_iff_left fun kept => nomatch kept.1)
  have index (key value : Value) :
      Value.index (.map .plain (written [] pairs)) key = .ok value ↔ LastUnder key pairs value :=
    (index_map_eq_ok_iff ..).trans (last key value)
  have present (key : Value) : Entries.hasKey key (written [] pairs) = pairs.any (·.1.keyEquals key) :=
    lookup?_written key [] pairs
  refine ⟨keys_of_written, fun entry member => ?_, index, fun key => ?_, fun key => ?_, ?_⟩
  · have own := ownKeys entry.1 (List.mem_map_of_mem member)
    exact (last _ _).mp (lookup?_of_mem keyed.2 member own)
  · simp only [index_map_eq_ok_iff, ← Option.isSome_iff_exists, ← List.any_eq_true, ← present, Entries.hasKey]
  · rw [Value.relate, Value.memberOf, present]
  · rw [Value.sizeOf, ← classes_written self, ncard_classes ownKeys (List.pairwise_map.mpr keyed.2), List.length_map]

end Pairs

section Runs
variable (functions : Functions) (allowance : Option Nat)

/-- The entries come to these keys and values, one after the other. -/
inductive Comes : List (Expr × Expr) → Scope → List (Value × Value) → Scope → Prop where
  | none (scope : Scope) : Comes [] scope [] scope
  | more {key value : Expr} {others : List (Expr × Expr)} {scope between after last : Scope} {name content : Value}
      {pairs : List (Value × Value)} (named : (key.evaluate functions allowance).run scope = (.ok name, between))
      (scalar : name.isScalar) (valued : (value.evaluate functions allowance).run between = (.ok content, after))
      (rest : Comes others after pairs last) : Comes ((key, value) :: others) scope ((name, content) :: pairs) last

/-- An entry fails in its key, for what its key is, or in its value. -/
inductive EntryFails (key value : Expr) (scope : Scope) : Failure → Scope → Prop where
  | key {failure : Failure} {after : Scope}
      (failed : (key.evaluate functions allowance).run scope = (.error failure, after)) :
      EntryFails key value scope failure after
  | notScalar {name : Value} {after : Scope} (named : (key.evaluate functions allowance).run scope = (.ok name, after))
      (compound : name.isScalar = false) : EntryFails key value scope (.fault (.keyNotScalar name.typeName)) after
  | value {name : Value} {failure : Failure} {between after : Scope}
      (named : (key.evaluate functions allowance).run scope = (.ok name, between)) (scalar : name.isScalar)
      (failed : (value.evaluate functions allowance).run between = (.error failure, after)) :
      EntryFails key value scope failure after

/-- The first entry that fails, behind others that have come to their keys and values. -/
def FirstFails (literal : List (Expr × Expr)) (scope : Scope) (failure : Failure) (after : Scope) : Prop :=
  ∃ before key value behind pairs between, literal = before ++ (key, value) :: behind ∧
    Comes functions allowance before scope pairs between ∧
      EntryFails functions allowance key value between failure after

variable {functions allowance} {literal : List (Expr × Expr)} {scope after : Scope} {pairs : List (Value × Value)}
  {failure : Failure}

/-- What has come to keys and values is written, and the entries behind it go on from there. -/
theorem Comes.run_append (comes : Comes functions allowance literal scope pairs after) (behind : List (Expr × Expr))
    (built : List (Value × Value)) :
    (Expr.evaluateEntries functions (literal ++ behind) allowance built).run scope =
      (Expr.evaluateEntries functions behind allowance (written built pairs)).run after := by
  induction comes generalizing built with
  | none scope => rfl
  | more named scalar valued _ ih =>
    rw [List.cons_append, Expr.evaluateEntries, run_bind_of_ok named]
    simp only [scalar, Bool.not_true, Bool.false_eq_true, if_false]
    rw [run_bind_of_ok valued, ih]
    rfl

theorem EntryFails.run {key value : Expr} (fails : EntryFails functions allowance key value scope failure after)
    (behind : List (Expr × Expr)) (built : List (Value × Value)) :
    (Expr.evaluateEntries functions ((key, value) :: behind) allowance built).run scope = (.error failure, after) := by
  rw [Expr.evaluateEntries]
  cases fails with
  | key failed => rw [run_bind_of_error failed]
  | notScalar named compound =>
    rw [run_bind_of_ok named]
    simp only [compound, Bool.not_false, if_true]
    rfl
  | value named scalar failed =>
    rw [run_bind_of_ok named]
    simp only [scalar, Bool.not_true, Bool.false_eq_true, if_false]
    rw [run_bind_of_error failed]

theorem FirstFails.run (fails : FirstFails functions allowance literal scope failure after)
    (built : List (Value × Value)) :
    (Expr.evaluateEntries functions literal allowance built).run scope = (.error failure, after) := by
  obtain ⟨before, key, value, behind, pairs, between, rfl, comes, fails⟩ := fails
  rw [comes.run_append, fails.run]

private theorem entry_ends (key value : Expr) (scope : Scope) :
    (∃ failure after, EntryFails functions allowance key value scope failure after) ∨
      ∃ name content between after, (key.evaluate functions allowance).run scope = (.ok name, between) ∧
        name.isScalar ∧ (value.evaluate functions allowance).run between = (.ok content, after) := by
  rcases named : (key.evaluate functions allowance).run scope with ⟨failure | name, between⟩
  · exact .inl ⟨failure, between, .key named⟩
  · cases scalar : name.isScalar with
    | false => exact .inl ⟨_, between, .notScalar named scalar⟩
    | true =>
      rcases valued : (value.evaluate functions allowance).run between with ⟨failure | content, after⟩
      · exact .inl ⟨failure, after, .value named scalar valued⟩
      · exact .inr ⟨name, content, between, after, rfl, scalar, valued⟩

/-- Either all entries come to keys and values, or one is the first that fails. -/
theorem entries_end (literal : List (Expr × Expr)) (scope : Scope) :
    (∃ pairs after, Comes functions allowance literal scope pairs after) ∨
      ∃ failure after, FirstFails functions allowance literal scope failure after := by
  induction literal generalizing scope with
  | nil => exact .inl ⟨[], scope, .none scope⟩
  | cons entry rest ih =>
    obtain ⟨key, value⟩ := entry
    rcases entry_ends key value scope with ⟨failure, after, fails⟩ | ⟨name, content, _, after, named, scalar, valued⟩
    · exact .inr ⟨failure, after, [], key, value, rest, [], scope, rfl, .none scope, fails⟩
    · rcases ih after with ⟨pairs, last, comes⟩ | ⟨failure, last, before, _, _, behind, pairs, between, rfl, comes, fails⟩
      · exact .inl ⟨_, last, .more named scalar valued comes⟩
      · exact .inr ⟨failure, last, (key, value) :: before, _, _, behind, _, between, rfl,
          .more named scalar valued comes, fails⟩

theorem Comes.scalars (comes : Comes functions allowance literal scope pairs after) :
    ∀ pair ∈ pairs, pair.1.isScalar := by
  induction comes with
  | none _ => exact nofun
  | more _ scalar _ _ ih => exact List.forall_mem_cons.mpr ⟨scalar, ih⟩

/-- A literal takes one step down, and evaluates its entries there. -/
theorem literal_run (functions : Functions) (literal : List (Expr × Expr)) (inner : Option Nat) :
    (Expr.map literal).evaluate functions (inner.map (· + 1)) =
      (do return .map .plain (← Expr.evaluateEntries functions literal inner [])) := by
  rw [Expr.evaluate]
  cases inner <;> rfl

end Runs

/-- A map literal keeps the first key and the last value. Where its entries come to scalar keys, which
are numbers if they are numeric, and to values, it is the map that has of the keys that are one key the
first, and under it the last of their values. Otherwise it fails as the first entry does that fails, be
that its key or its value. -/
theorem literal_keeps_first_key_and_last_value (functions : Functions) (literal : List (Expr × Expr))
    (inner : Option Nat) (scope after : Scope) :
    let outcome := ((Expr.map literal).evaluate functions (inner.map (· + 1))).run scope
    (∀ pairs, Comes functions inner literal scope pairs after → (∀ pair ∈ pairs, proper pair.1) →
      ∃ entries, outcome = (.ok (.map .plain entries), after) ∧ KeepsFirstAndLast pairs entries) ∧
    ∀ failure, outcome = (.error failure, after) ↔ FirstFails functions inner literal scope failure after := by
  intro outcome
  have same : outcome = _ := congrArg (·.run scope) (literal_run functions literal inner)
  have finished {pairs : List (Value × Value)} {last : Scope} (comes : Comes functions inner literal scope pairs last) :
      outcome = (.ok (.map .plain (written [] pairs)), last) := by
    have ended := comes.run_append [] []
    rw [List.append_nil] at ended
    rw [same, run_bind_of_ok ended]
    rfl
  have failed {failure : Failure} {last : Scope} (fails : FirstFails functions inner literal scope failure last) :
      outcome = (.error failure, last) := by
    rw [same, run_bind_of_error (fails.run [])]
  refine ⟨fun pairs comes numbers => ⟨_, finished comes, written_keeps comes.scalars numbers⟩, fun failure => ?_⟩
  refine ⟨fun ended => ?_, failed⟩
  rcases entries_end literal scope with ⟨pairs, last, comes⟩ | ⟨cause, last, fails⟩
  · cases (finished comes).symm.trans ended
  · cases (failed fails).symm.trans ended
    exact fails

/-- Five entries under two keys: an integer, a double and a bool are one, and a text and bytes. -/
theorem five_entries_under_two_keys :
    let text (content : String) : Expr := .literal .string (.string content)
    let literal : List (Expr × Expr) :=
      [(.literal .int (.int 1), text "a"), (text "k", text "b"),
        (.literal .double (.double (.ofParts false (2 ^ 52) (-52))), text "c"),
        (.literal .bool (.bool true), text "d"), (.literal .bytes (.bytes "k"), text "e")]
    let scope : Scope := ⟨.empty, 0⟩
    let entries : List (Value × Value) := [(.int 1, .string "d"), (.string "k", .string "e")]
    ((Expr.map literal).evaluate standardFunctions (some 2)).run scope = (.ok (.map .plain entries), scope) ∧
      ∃ pairs, Comes standardFunctions (some 1) literal scope pairs scope ∧ (∀ pair ∈ pairs, proper pair.1) ∧
        KeepsFirstAndLast pairs entries := by
  intro text literal scope entries
  have came : ((Expr.map literal).evaluate standardFunctions (some 2)).run scope =
      (.ok (.map .plain entries), scope) := by
    rfl
  let pairs : List (Value × Value) :=
    [(.int 1, .string "a"), (.string "k", .string "b"), (.double (.ofParts false (2 ^ 52) (-52)), .string "c"),
      (.bool true, .string "d"), (.bytes "k", .string "e")]
  have comes : Comes standardFunctions (some 1) literal scope pairs scope :=
    .more rfl rfl rfl (.more rfl rfl rfl (.more rfl rfl rfl (.more rfl rfl rfl (.more rfl rfl rfl (.none scope)))))
  have numbers : ∀ pair ∈ pairs, proper pair.1 := by decide +kernel
  obtain ⟨others, ended, keeps⟩ :=
    (literal_keeps_first_key_and_last_value standardFunctions literal (some 1) scope scope).1 pairs comes numbers
  cases came.symm.trans ended
  exact ⟨came, pairs, comes, numbers, keeps⟩

end CommonExpr.Proofs.MapLiterals

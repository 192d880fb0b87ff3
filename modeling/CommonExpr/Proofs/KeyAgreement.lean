import CommonExpr.Program
import CommonExpr.Proofs.DeepEquality
import CommonExpr.Proofs.EvaluationClosure

/-! Keys against equality. Looking up a key, asking for it and writing it into a literal
all go by the same keys, and two scalars are one key exactly if they are equal or one of
them is a bool and the other the number that stands for it. So a map takes true for one,
which equality does not. -/

namespace CommonExpr.Proofs.KeyAgreement
open EvaluationClosure NumberPlaces MapKeys

/-- A bool and the number that it is as a key. -/
def confused : Value → Value → Bool
  | .bool value, .number number => number.equals (.int (if value then 1 else 0))
  | .number number, .bool value => number.equals (.int (if value then 1 else 0))
  | _, _ => false

section Keys

private theorem equals_comm (left right : Number) : left.equals right = right.equals left := by
  rw [Bool.eq_iff_iff, equals_iff, equals_iff]
  exact exists_congr fun _ => and_comm

private theorem sameMark_of_proper {key : Number} (number : proper (.number key)) (other : Number) :
    other.sameMark key = false := by
  obtain ⟨place, here⟩ := extent_of_number key (by simpa [proper] using number)
  exact (sameMark_of_place here other).2

private theorem sameMark_int (value : Int) (other : Number) :
    (Number.int value).sameMark other = false ∧ other.sameMark (.int value) = false :=
  sameMark_of_place rfl other

/-- Being one key is being equal, but for a bool and a number. -/
theorem keyEquals_eq {key : Value} (scalar : key.isScalar) (number : proper key) (stored : Value) :
    stored.keyEquals key = (stored.deepEquals key || confused stored key) := by
  cases key with
  | null => cases stored <;> simp [Value.keyEquals, Value.keyNumber?, Value.deepEquals, confused]
  | bool value =>
    cases stored with
    | bool other => cases value <;> cases other <;> rfl
    | number other => simp [Value.keyEquals, Value.keyNumber?, Value.deepEquals, confused, (sameMark_int _ other).2]
    | _ => simp [Value.keyEquals, Value.keyNumber?, Value.deepEquals, confused]
  | number value =>
    cases stored with
    | bool other =>
      simp [Value.keyEquals, Value.keyNumber?, Value.deepEquals, confused, (sameMark_int _ value).1, equals_comm value]
    | number other => simp [Value.keyEquals, Value.keyNumber?, Value.deepEquals, confused, sameMark_of_proper number]
    | _ => simp [Value.keyEquals, Value.keyNumber?, Value.deepEquals, confused]
  | text kind content => cases stored <;> simp [Value.keyEquals, Value.keyNumber?, Value.deepEquals, confused]
  | date content => cases stored <;> simp [Value.keyEquals, Value.keyNumber?, Value.deepEquals, confused]
  | list _ | map _ _ => cases scalar

theorem hasKey_eq (key : Value) (entries : List (Value × Value)) :
    Entries.hasKey key entries = entries.any fun entry => entry.1.keyEquals key := by
  induction entries with
  | nil => rfl
  | cons entry rest ih =>
    rw [Entries.hasKey] at ih ⊢
    by_cases same : entry.1.keyEquals key
    · simp [Entries.lookup?, same]
    · simpa [Entries.lookup?, same] using ih

/-- Indexing a map gives what is found under the key, and fails where nothing is. -/
theorem index_map_eq_ok_iff (kind : MapKind) (entries : List (Value × Value)) (key value : Value) :
    Value.index (.map kind entries) key = .ok value ↔ Entries.lookup? key entries = some value := by
  rw [Value.index]
  cases Entries.lookup? key entries with
  | some found => simp
  | none =>
    cases key.format with
    | ok text => simp [Bind.bind, Except.bind, Value.fault]
    | error failure => simp [Bind.bind, Except.bind]

end Keys

section Insertion
variable {key value : Value} {entries : List (Value × Value)}

/-- Only what is looked up by the same key changes. -/
theorem lookup?_insert (key value other : Value) (entries : List (Value × Value)) :
    Entries.lookup? other (Entries.insert key value entries) =
      if key.keyEquals other then some value else Entries.lookup? other entries := by
  induction entries with
  | nil => rfl
  | cons entry rest ih =>
    obtain ⟨stored, old⟩ := entry
    rw [Entries.insert]
    split
    next same =>
      -- The key that was there stays, and is the same key for every other one.
      have agree : stored.keyEquals other = key.keyEquals other :=
        Bool.eq_iff_iff.mpr ⟨keyEquals_trans (keyEquals_symm same), keyEquals_trans same⟩
      simp only [Entries.lookup?, agree]
      split <;> rfl
    next different =>
      by_cases first : stored.keyEquals other
      · have apart : ¬ key.keyEquals other := fun last =>
          different (keyEquals_trans first (keyEquals_symm last))
        simp [Entries.lookup?, first, apart]
      · simp [Entries.lookup?, first, ih]

private theorem mem_insert {entry : Value × Value} (member : entry ∈ Entries.insert key value entries) :
    (∃ old, (entry.1, old) ∈ entries) ∨ entry = (key, value) := by
  induction entries with
  | nil => exact .inr (List.mem_singleton.mp member)
  | cons first rest ih =>
    obtain ⟨stored, old⟩ := first
    rw [Entries.insert] at member
    split at member
    · rcases List.mem_cons.mp member with rfl | later
      · exact .inl ⟨old, List.mem_cons_self⟩
      · exact .inl ⟨entry.2, List.mem_cons_of_mem _ later⟩
    · rcases List.mem_cons.mp member with rfl | later
      · exact .inl ⟨old, List.mem_cons_self⟩
      · exact (ih later).imp_left fun ⟨held, inside⟩ => ⟨held, List.mem_cons_of_mem _ inside⟩

/-- Writing under a scalar leaves a map keyed. -/
theorem keyed_insert (keyed : Keyed entries) (scalar : key.isScalar) (value : Value) :
    Keyed (Entries.insert key value entries) := by
  refine ⟨fun entry member => ?_, ?_⟩
  · rcases mem_insert member with ⟨old, inside⟩ | rfl
    · exact keyed.1 (entry.1, old) inside
    · exact scalar
  · have apart := keyed.2
    clear keyed
    induction entries with
    | nil => exact List.pairwise_singleton _ _
    | cons first rest ih =>
      obtain ⟨stored, old⟩ := first
      obtain ⟨fromFirst, others⟩ := List.pairwise_cons.mp apart
      rw [Entries.insert]
      split
      next => exact List.pairwise_cons.mpr ⟨fromFirst, others⟩
      next different =>
        refine List.pairwise_cons.mpr ⟨fun entry member => ?_, ih others⟩
        rcases mem_insert member with ⟨held, inside⟩ | rfl
        · exact fromFirst (entry.1, held) inside
        · simpa using different

/-- Where a key stands among the entries. -/
def place? (key : Value) (entries : List (Value × Value)) : Option Nat :=
  entries.findIdx? fun entry => entry.1.keyEquals key

private theorem place?_isSome (key : Value) (entries : List (Value × Value)) :
    (place? key entries).isSome = (Entries.lookup? key entries).isSome := by
  rw [place?, List.findIdx?_isSome, ← hasKey_eq, Entries.hasKey]

/-- Two keys that are there stand in one place exactly if they are one key. -/
theorem place?_eq_iff {first second : Value} (present : (place? first entries).isSome) :
    place? first entries = place? second entries ↔ first.keyEquals second := by
  constructor
  · intro same
    obtain ⟨index, here⟩ := Option.isSome_iff_exists.mp present
    obtain ⟨inside, matchesFirst, _⟩ := List.findIdx?_eq_some_iff_getElem.mp here
    obtain ⟨_, matchesSecond, _⟩ := List.findIdx?_eq_some_iff_getElem.mp (same ▸ here)
    exact keyEquals_trans (keyEquals_symm matchesFirst) matchesSecond
  · intro same
    simp only [place?, keyEquals_congr same]

/-- The map that comes of writing pairs one after the other into what was there. -/
def written (built pairs : List (Value × Value)) : List (Value × Value) :=
  pairs.foldl (fun built pair => Entries.insert pair.1 pair.2 built) built

theorem keyed_written {pairs : List (Value × Value)} (keyed : Keyed entries)
    (scalars : ∀ pair ∈ pairs, pair.1.isScalar) : Keyed (written entries pairs) := by
  induction pairs generalizing entries with
  | nil => exact keyed
  | cons pair rest ih =>
    obtain ⟨scalar, others⟩ := List.forall_mem_cons.mp scalars
    exact ih (keyed_insert keyed scalar pair.2) others

theorem lookup?_written (key : Value) (entries pairs : List (Value × Value)) :
    (Entries.lookup? key (written entries pairs)).isSome =
      ((Entries.lookup? key entries).isSome || pairs.any fun pair => pair.1.keyEquals key) := by
  induction pairs generalizing entries with
  | nil => simp [written]
  | cons pair rest ih =>
    rw [written, List.foldl_cons, ← written, ih, lookup?_insert, List.any_cons]
    split
    next same => simp [same]
    next different => simp [different]

end Insertion

section Literals
variable (functions : Functions)

/-- The keys and values of the entries of a literal, in the order in which they are
evaluated. -/
def evaluatePairs : List (Expr × Expr) → Option Nat → Evaluation (List (Value × Value))
  | [], _ => return []
  | (key, value) :: rest, allowance => do
    let name ← key.evaluate functions allowance
    if !name.isScalar then Evaluation.fault (.keyNotScalar name.typeName)
    let content ← value.evaluate functions allowance
    return (name, content) :: (← evaluatePairs rest allowance)

/-- A map literal evaluates its entries and writes them one after the other. -/
theorem evaluateEntries_eq (literal : List (Expr × Expr)) (allowance : Option Nat) (built : List (Value × Value)) :
    Expr.evaluateEntries functions literal allowance built =
      (do return written built (← evaluatePairs functions literal allowance)) := by
  induction literal generalizing built with
  | nil => simp [Expr.evaluateEntries, evaluatePairs, written]
  | cons entry rest ih =>
    obtain ⟨key, value⟩ := entry
    simp only [Expr.evaluateEntries, evaluatePairs, bind_assoc]
    refine bind_congr fun name => ?_
    split <;> simp [ih, written]

/-- A literal that has a value has scalars for keys. -/
theorem evaluatePairs_scalar {literal : List (Expr × Expr)} {allowance : Option Nat} {scope after : Scope}
    {pairs : List (Value × Value)} (ended : (evaluatePairs functions literal allowance).run scope = (.ok pairs, after)) :
    ∀ pair ∈ pairs, pair.1.isScalar := by
  induction literal generalizing scope pairs with
  | nil =>
    cases ended
    simp
  | cons entry rest ih =>
    obtain ⟨key, value⟩ := entry
    rw [evaluatePairs] at ended
    obtain ⟨name, between, _, ended⟩ := ok_of_run_bind ended
    split at ended
    next =>
      obtain ⟨_, _, failed, _⟩ := ok_of_run_bind ended
      cases failed
    next scalar =>
      obtain ⟨content, later, _, ended⟩ := ok_of_run_bind ended
      obtain ⟨others, last, read, ended⟩ := ok_of_run_bind ended
      cases ended
      exact List.forall_mem_cons.mpr ⟨by simpa using scalar, ih read⟩

/-- Two entries of a literal come together exactly if their keys are one. -/
theorem literal_places {literal : List (Expr × Expr)} {allowance : Option Nat} {scope after : Scope}
    {built : List (Value × Value)}
    (ended : (Expr.evaluateEntries functions literal allowance []).run scope = (.ok built, after)) :
    ∃ pairs, (evaluatePairs functions literal allowance).run scope = (.ok pairs, after) ∧ Keyed built ∧
      (∀ pair ∈ pairs, pair.1.isScalar) ∧
      ∀ first ∈ pairs, proper first.1 → (place? first.1 built).isSome ∧
        ∀ second, place? first.1 built = place? second built ↔ first.1.keyEquals second := by
  rw [evaluateEntries_eq] at ended
  obtain ⟨pairs, between, read, ended⟩ := ok_of_run_bind ended
  cases ended
  have scalars := evaluatePairs_scalar functions read
  refine ⟨pairs, read, keyed_written ⟨by simp, .nil⟩ scalars, scalars, fun first member number => ?_⟩
  have self := keyEquals_self (scalars first member) number
  have present : (place? first.1 (written [] pairs)).isSome := by
    rw [place?_isSome, lookup?_written, Bool.or_eq_true, List.any_eq_true]
    exact .inr ⟨first, member, self⟩
  exact ⟨present, fun second => place?_eq_iff present⟩

/-- Keys agree with equality but for bools and numbers. Membership, indexing and the
entries of a literal go by whether a key of the map is equal to the given one or is
confused with it. -/
theorem keys_agree_with_equality_but_for_bools {key : Value} (scalar : key.isScalar) (number : proper key)
    (kind : MapKind) {entries : List (Value × Value)} (keyed : Keyed entries) :
    Value.relate .member key (.map kind entries) =
        .ok (entries.any fun entry => entry.1.deepEquals key || confused entry.1 key) ∧
      (∀ value, Value.index (.map kind entries) key = .ok value ↔
        ∃ stored, (stored, value) ∈ entries ∧ (stored.deepEquals key || confused stored key)) ∧
      ∀ literal allowance scope built after,
        (Expr.evaluateEntries functions literal allowance []).run scope = (.ok built, after) →
        ∃ pairs, (evaluatePairs functions literal allowance).run scope = (.ok pairs, after) ∧ Keyed built ∧
          ∀ first ∈ pairs, ∀ second ∈ pairs, proper first.1 → proper second.1 →
            (place? first.1 built).isSome ∧
            (place? first.1 built = place? second.1 built ↔
              (first.1.deepEquals second.1 || confused first.1 second.1)) := by
  refine ⟨?_, fun value => ?_, fun literal allowance scope built after ended => ?_⟩
  · simp only [Value.relate, Value.memberOf, hasKey_eq, keyEquals_eq scalar number]
  · simp only [index_map_eq_ok_iff, lookup?_eq_some_iff keyed, keyEquals_eq scalar number]
  · obtain ⟨pairs, read, rekeyed, scalars, places⟩ := literal_places functions ended
    refine ⟨pairs, read, rekeyed, fun first inFirst second inSecond firstNumber secondNumber => ?_⟩
    obtain ⟨present, apart⟩ := places first inFirst firstNumber
    rw [← keyEquals_eq (scalars second inSecond) secondNumber]
    exact ⟨present, apart second.1⟩

/-- A zero with a sign is found under false, behind a text that shows a zero. -/
theorem zero_found_under_false :
    let entries : List (Value × Value) := [(.string "0", .null), (.bool false, .date "2024-02-29")]
    let key : Value := .double (.zero true)
    Value.relate .member key (.map .plain entries) = .ok true ∧
      Value.index (.map .plain entries) key = .ok (.date "2024-02-29") := by
  intro entries key
  have scalar : key.isScalar := rfl
  have number : proper key := by decide +kernel
  have keyed : Keyed entries := by decide +kernel
  obtain ⟨asked, found, _⟩ := keys_agree_with_equality_but_for_bools standardFunctions scalar number .plain keyed
  exact ⟨asked.trans (by decide +kernel), (found _).mpr ⟨.bool false, by simp [entries], by decide +kernel⟩⟩

end Literals

/-- Whether a source without bindings comes to true. -/
def holds (source : String) : Bool :=
  match evaluate source .empty with
  | .ok value => value.isTrue
  | .error _ => false

/-- A map takes true for its key one, gives what stands under it, and keeps one entry of
the two, although one is not true. -/
theorem true_taken_for_one : holds "1 != true" ∧ holds "true in \x7b1: 'a'\x7d" ∧ holds "\x7b1: 'a'\x7d[true] == 'a'" ∧
    holds "size(\x7b1: 'a', true: 'b'\x7d) == 1" := by
  decide +kernel

end CommonExpr.Proofs.KeyAgreement

import CommonExpr.Number.Text
import CommonExpr.Value.Format

/-! Which values have no text: those that are or hold an integer of more digits than are
written out. Every other value has one. -/

namespace CommonExpr.Proofs.OperatorBreakdowns
open Value

/-- A value that is or holds an integer of more digits than are written out. -/
inductive Overlong : Value → Prop where
  | integer {value : Int} (digits : Nat.pow 10 digitLimit ≤ value.natAbs) : Overlong (.int value)
  | element {elements : List Value} {value : Value} (member : value ∈ elements) (long : Overlong value) :
      Overlong (.list elements)
  | key {kind : MapKind} {entries : List (Value × Value)} {key content : Value} (member : (key, content) ∈ entries)
      (long : Overlong key) : Overlong (.map kind entries)
  | content {kind : MapKind} {entries : List (Value × Value)} {key content : Value} (member : (key, content) ∈ entries)
      (long : Overlong content) : Overlong (.map kind entries)

/-- There is a result unless something is too long, which is then the failure. -/
def FailsIf (long : Prop) (outcome : Except Failure α) : Prop :=
  (¬ long ∧ ∃ result, outcome = .ok result) ∨ (long ∧ outcome = .error (.broken .numberTooLong))

theorem FailsIf.ok {long : Prop} (result : α) (short : ¬ long) : FailsIf long (.ok result) :=
  .inl ⟨short, result, rfl⟩

theorem FailsIf.congr {first second : Prop} {outcome : Except Failure α} (fails : FailsIf first outcome)
    (same : first ↔ second) : FailsIf second outcome :=
  propext same ▸ fails

theorem FailsIf.bind {first second : Prop} {outcome : Except Failure α} {next : α → Except Failure β}
    (begins : FailsIf first outcome) (goesOn : ∀ value, FailsIf second (next value)) :
    FailsIf (first ∨ second) (outcome >>= next) := by
  rcases begins with ⟨short, value, rfl⟩ | ⟨long, rfl⟩
  · rcases goesOn value with ⟨others, result, ended⟩ | ⟨long, ended⟩
    · exact .inl ⟨not_or.mpr ⟨short, others⟩, result, ended⟩
    · exact .inr ⟨.inr long, ended⟩
  · exact .inr ⟨.inl long, rfl⟩

theorem FailsIf.map {long : Prop} {outcome : Except Failure α} (fails : FailsIf long outcome) (change : α → β) :
    FailsIf long (do return change (← outcome)) := by
  have whole : FailsIf (long ∨ False) (do return change (← outcome)) :=
    fails.bind fun value => .ok (change value) not_false
  exact whole.congr (iff_of_eq (or_false long))

theorem FailsIf.breaks_iff {long : Prop} {outcome : Except Failure α} {cause : Breakdown} (fails : FailsIf long outcome) :
    outcome = .error (.broken cause) ↔ long ∧ cause = .numberTooLong := by
  rcases fails with ⟨short, result, rfl⟩ | ⟨long, rfl⟩
  · exact iff_of_false nofun fun both => short both.1
  · constructor
    · intro same
      cases same
      exact ⟨long, rfl⟩
    · rintro ⟨_, rfl⟩
      rfl

private theorem integerText?_eq_none (value : Int) :
    integerText? value = none ↔ Nat.pow 10 digitLimit ≤ value.natAbs := by
  unfold integerText?
  generalize Nat.pow 10 digitLimit = bound
  split
  next long => exact iff_of_true rfl long
  next short => exact iff_of_false nofun short

theorem integerText_fails (value : Int) : FailsIf (Overlong (.int value)) (integerText value) := by
  have long := integerText?_eq_none value
  unfold integerText
  cases written : integerText? value with
  | none => exact .inr ⟨.integer (long.mp written), rfl⟩
  | some text =>
    refine .inl ⟨?_, text, rfl⟩
    intro overlong
    cases overlong with
    | integer digits =>
      rw [long.mpr digits] at written
      cases written

private theorem magnitude_num_le (significand : Nat) (exponent : Int) :
    (Double.magnitude significand exponent).num.natAbs ≤ significand <<< exponent.toNat := by
  unfold Double.magnitude
  split
  next => exact Nat.le_of_eq (by rw [Rat.num_natCast, Int.natAbs_natCast])
  next =>
    rw [Rat.num_mkRat]
    split
    next => exact Nat.zero_le _
    next =>
      refine Nat.le_trans (Int.natAbs_ediv_le_natAbs _ _) ?_
      rw [Int.natAbs_natCast, Nat.shiftLeft_eq]
      exact Nat.le_mul_of_pos_right significand (Nat.two_pow_pos exponent.toNat)

theorem truncate?_short (value : Double) : (value.truncate?.getD 0).natAbs < Nat.pow 10 digitLimit := by
  have powers {small large : Nat} (less : small < large) : 2 ^ small < Nat.pow 10 large :=
    Nat.lt_of_le_of_lt (Nat.pow_le_pow_left (by decide) small) (Nat.pow_lt_pow_right (by decide) less)
  have positive : 0 < Nat.pow 10 digitLimit := Nat.lt_of_le_of_lt (Nat.zero_le _) (powers (show 0 < digitLimit by decide))
  cases value with
  | nan _ => exact positive
  | infinity _ => exact positive
  | finite negative significand exponent canonical =>
    have signed : ((Double.finite negative significand exponent canonical).truncate?.getD 0).natAbs =
        (Double.magnitude significand exponent).floor.natAbs := by
      cases negative
      · rfl
      · exact Int.natAbs_neg _
    obtain ⟨small, _, below, _⟩ := canonical
    have whole : (Double.magnitude significand exponent).floor.natAbs ≤ significand <<< exponent.toNat := by
      rw [Rat.floor_def]
      exact Nat.le_trans (Int.natAbs_ediv_le_natAbs _ _) (magnitude_num_le significand exponent)
    have scaled : significand <<< exponent.toNat ≤ 2 ^ (53 + exponent.toNat) := by
      rw [Nat.shiftLeft_eq, Nat.pow_add]
      exact Nat.mul_le_mul_right _ (Nat.le_of_lt small)
    have reach : 53 + exponent.toNat < digitLimit := by
      unfold digitLimit
      omega
    rw [signed]
    exact Nat.lt_of_le_of_lt (Nat.le_trans whole scaled) (powers reach)

private theorem double_short (value : Double) : ¬ Overlong (.double value) :=
  nofun

private theorem number_fails (value : Number) : FailsIf (Overlong (.number value)) value.format := by
  cases value with
  | int value => exact integerText_fails value
  | double value =>
    have short := double_short value
    rw [Number.format]
    split
    next =>
      rcases integerText_fails (value.truncate?.getD 0) with ⟨_, text, written⟩ | ⟨long, _⟩
      · exact .inl ⟨short, text, written⟩
      · cases long with
        | integer digits => exact absurd (truncate?_short value) (Nat.not_lt.mpr digits)
    next => exact .ok value.text short

mutual

private theorem render_fails (inside : Bool) : (value : Value) → FailsIf (Overlong value) (value.render inside)
  | .null => .ok _ nofun
  | .bool _ => .ok _ nofun
  | .number value => number_fails value
  | .text _ _ => .ok _ nofun
  | .list elements => by
    rw [Value.render]
    refine ((renderElements_fails elements).map _).congr ⟨?_, ?_⟩
    · rintro ⟨value, member, long⟩
      exact .element member long
    · rintro (_ | ⟨member, long⟩)
      exact ⟨_, member, long⟩
  | .map kind entries => by
    rw [Value.render]
    refine ((renderEntries_fails entries).map _).congr ⟨?_, ?_⟩
    · rintro ⟨⟨key, content⟩, member, long | long⟩
      · exact .key member long
      · exact .content member long
    · rintro (_ | _ | ⟨member, long⟩ | ⟨member, long⟩)
      · exact ⟨_, member, .inl long⟩
      · exact ⟨_, member, .inr long⟩
  | .date _ => .ok _ nofun

private theorem renderElements_fails : (elements : List Value) →
    FailsIf (∃ value ∈ elements, Overlong value) (renderElements elements)
  | [] => .ok _ nofun
  | value :: rest => by
    rw [renderElements]
    refine ((render_fails true value).bind fun _ => (renderElements_fails rest).map _).congr ?_
    simp only [List.mem_cons, exists_eq_or_imp]

private theorem renderEntries_fails : (entries : List (Value × Value)) →
    FailsIf (∃ entry ∈ entries, Overlong entry.1 ∨ Overlong entry.2) (renderEntries entries)
  | [] => .ok _ nofun
  | (key, value) :: rest => by
    rw [renderEntries]
    refine ((render_fails true key).bind fun _ =>
      (render_fails true value).bind fun _ => (renderEntries_fails rest).map _).congr ?_
    simp only [List.mem_cons, exists_eq_or_imp, or_assoc]

end

theorem format_fails (value : Value) : FailsIf (Overlong value) value.format :=
  render_fails false value

end CommonExpr.Proofs.OperatorBreakdowns

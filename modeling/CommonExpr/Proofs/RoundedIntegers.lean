import CommonExpr.Proofs.ShortestDecimal
import CommonExpr.Registry.Standard
import CommonExpr.Value.Equality

/-! Integers that are rounded, and the doubles equal to them. An integer stays as it is whatever number
of places it is rounded to. The double stays as it is too unless the number of places is negative, and
then it is rounded to a multiple of a power of ten. -/

namespace CommonExpr.Proofs.RoundedIntegers
open NearestDouble ShortestDecimal

section Multiples
variable {unit number : Nat}

/-- The multiple of a unit that is nearest to a number, the greater one of two. -/
def multiple (unit number : Nat) : Nat :=
  (2 * number + unit) / (2 * unit) * unit

private theorem multiple_eq_iff (some : 0 < unit) : multiple unit number = number ↔ unit ∣ number := by
  constructor
  · intro same
    rw [← same]
    exact Nat.dvd_mul_left _ _
  · rintro ⟨count, rfl⟩
    have halves : 2 * (unit * count) + unit = unit + count * (2 * unit) := by ring
    rw [multiple, halves, Nat.add_mul_div_right _ _ (by omega), Nat.div_eq_of_lt (by omega), Nat.zero_add, Nat.mul_comm]

private theorem multiple_le (unit number : Nat) : multiple unit number ≤ 2 * number := by
  have product := Nat.div_mul_le_self (2 * number + unit) (2 * unit)
  unfold multiple
  generalize (2 * number + unit) / (2 * unit) = count at product ⊢
  rcases Nat.eq_zero_or_pos count with rfl | some
  · omega
  · have least : unit ≤ count * unit := Nat.le_mul_of_pos_left unit some
    have double : count * (2 * unit) = 2 * (count * unit) := by ring
    omega

end Multiples

section Rounding
variable {negative : Bool} {significand : Nat} {exponent : Int} {number : Nat} {places : Int} {result : Double}

/-- The coefficient of a number that is rounded to a number of places. -/
def roundedCoefficient (decimal : Decimal) (places : Int) : Nat :=
  let shift := decimal.exponent + places
  if 0 ≤ shift then decimal.coefficient * Nat.pow 10 shift.toNat
  else
    let unit := Nat.pow 10 (min (-shift) 400).toNat
    (2 * decimal.coefficient + unit) / (2 * unit)

private theorem roundHalfUp_of_ok {canonical : Canonical significand exponent}
    (rounds : (Double.finite negative significand exponent canonical).roundHalfUp places = .ok result)
    (some : (Double.shortest significand exponent).coefficient ≠ 0) :
    result = Decimal.toDouble negative ⟨roundedCoefficient (Double.shortest significand exponent) places, -places⟩ := by
  rw [Double.roundHalfUp] at rounds
  dsimp only at rounds
  split at rounds
  next => cases rounds
  next =>
    split at rounds
    next => cases rounds
    next =>
      split at rounds
      next => cases rounds
      next => exact (Except.ok.inj rounds).symm

private theorem value_rounded {decimal : Decimal} (kept : 0 ≤ decimal.exponent + places) :
    value ⟨roundedCoefficient decimal places, -places⟩ = value decimal := by
  obtain ⟨shift, same⟩ := Int.eq_ofNat_of_zero_le kept
  have split : decimal.exponent = shift + -places := by omega
  unfold value roundedCoefficient
  dsimp only
  rw [if_pos kept, same, Int.toNat_natCast, split, zpow_add₀ (by norm_num), zpow_natCast, Nat.pow_eq]
  push_cast
  ring

/-- Places behind the point make room for zeros only. -/
theorem unchanged_of_ok (integer : IsInteger significand exponent number) (nonneg : 0 ≤ places)
    (rounds : (Double.finite negative significand exponent integer.canonical).roundHalfUp places = .ok result) :
    result = .finite negative significand exponent integer.canonical := by
  obtain ⟨decimal, same, whole, read, _⟩ := integer.shortest_found
  have kept : 0 ≤ (Double.shortest significand exponent).exponent + places :=
    Int.add_nonneg integer.exponent_shortest nonneg
  rw [roundHalfUp_of_ok rounds integer.coefficient_shortest]
  calc Decimal.toDouble negative ⟨roundedCoefficient (Double.shortest significand exponent) places, -places⟩
      = decimal.toDouble negative := by
        refine toDouble_congr ?_ negative
        rw [value_rounded kept, same, normalize_value]
    _ = .finite negative significand exponent integer.canonical := toDouble_sign read negative

/-- The unit may be cut down to any power that is more than twice the number: nothing is left of the
number in either unit then. -/
theorem quotient_cut {coefficient zeros power limit : Nat} (cut : zeros ≤ power)
    (huge : 2 * (coefficient * 10 ^ zeros) < 10 ^ limit) :
    (2 * coefficient + 10 ^ min (power - zeros) limit) / (2 * 10 ^ min (power - zeros) limit) =
      (2 * (coefficient * 10 ^ zeros) + 10 ^ power) / (2 * 10 ^ power) := by
  rcases Nat.le_total (power - zeros) limit with near | far
  · have unit : 10 ^ power = 10 ^ (power - zeros) * 10 ^ zeros := by rw [← pow_add, Nat.sub_add_cancel cut]
    rw [Nat.min_eq_left near, unit, ← mul_assoc, ← mul_assoc, ← add_mul, Nat.mul_div_mul_right _ _ (by positivity)]
  · have more : 10 ^ limit ≤ 10 ^ power := Nat.pow_le_pow_right (by decide) (by omega)
    have fewer : coefficient ≤ coefficient * 10 ^ zeros := Nat.le_mul_of_pos_right _ (by positivity)
    rw [Nat.min_eq_right far]
    generalize 10 ^ limit = bound at huge more ⊢
    rw [Nat.div_eq_of_lt (by omega), Nat.div_eq_of_lt (by omega)]

/-- The coefficient counts the units of which a multiple is chosen. -/
theorem roundedCoefficient_multiple {decimal : Decimal} (whole : 0 ≤ decimal.exponent) (same : value decimal = number)
    (small : number ≤ Nat.pow 2 52) (below : places < 0) :
    roundedCoefficient decimal places * 10 ^ places.natAbs = multiple (10 ^ places.natAbs) number := by
  have natural := value_natural whole
  obtain ⟨coefficient, exponent⟩ := decimal
  obtain ⟨zeros, rfl⟩ := Int.eq_ofNat_of_zero_le whole
  obtain ⟨power, rfl⟩ : ∃ power : Nat, places = -power := ⟨places.natAbs, by omega⟩
  obtain rfl : number = coefficient * 10 ^ zeros := by
    rw [same] at natural
    exact_mod_cast natural
  rw [Int.natAbs_neg, Int.natAbs_natCast]
  unfold roundedCoefficient
  dsimp only
  split
  next kept =>
    have exact : 10 ^ power ∣ coefficient * 10 ^ zeros :=
      Nat.dvd_mul_left_of_dvd (pow_dvd_pow 10 (by omega)) coefficient
    have shift : ((zeros : Int) + -power).toNat = zeros - power := by omega
    have split : zeros - power + power = zeros := by omega
    rw [(multiple_eq_iff (by positivity)).mpr exact, shift, Nat.pow_eq, mul_assoc, ← pow_add, split]
  next cut =>
    obtain ⟨limit, limited, huge⟩ : ∃ limit : Nat, (400 : Int) = limit ∧ 2 * Nat.pow 2 52 < 10 ^ limit :=
      ⟨400, rfl, by decide +kernel⟩
    have shift : (min (-((zeros : Int) + -power)) limit).toNat = min (power - zeros) limit := by omega
    rw [limited, shift, Nat.pow_eq, quotient_cut (by omega) (by omega)]
    rfl

end Rounding

section Agreement
variable {number : Int} {value result : Double} {places : Int}

def signed (negative : Bool) (size : Rat) : Rat :=
  if negative then -size else size

private theorem signed_inj {negative : Bool} {first second : Rat} :
    signed negative first = signed negative second ↔ first = second := by
  cases negative <;> simp [signed]

private theorem toRat?_finite {significand : Nat} {exponent : Int} (negative : Bool)
    (canonical : Canonical significand exponent) : (Double.finite negative significand exponent canonical).toRat? =
      some (signed negative (significand * 2 ^ exponent)) := by
  rw [← magnitude_eq]
  rfl

/-- The number that the double comes to is a multiple of the unit, with the sign it had. -/
theorem rounded_to_multiple {negative : Bool} {significand size : Nat} {exponent : Int}
    (integer : IsInteger significand exponent size) (small : size ≤ Nat.pow 2 52) (below : places < 0)
    (rounds : (Double.finite negative significand exponent integer.canonical).roundHalfUp places = .ok result) :
    result.toRat? = some (signed negative (multiple (10 ^ places.natAbs) size)) := by
  have units := roundedCoefficient_multiple integer.exponent_shortest (integer.shortest_exact small) small below
  rw [roundHalfUp_of_ok rounds integer.coefficient_shortest]
  generalize roundedCoefficient (Double.shortest significand exponent) places = coefficient at units ⊢
  have same : ShortestDecimal.value ⟨coefficient, -places⟩ = (multiple (10 ^ places.natAbs) size : Nat) := by
    have opposite : -places = places.natAbs := by omega
    rw [← units, ShortestDecimal.value, opposite, zpow_natCast]
    push_cast
    rfl
  have few : multiple (10 ^ places.natAbs) size ≤ Nat.pow 2 53 := by
    calc multiple (10 ^ places.natAbs) size ≤ 2 * size := multiple_le _ _
      _ ≤ 2 * Nat.pow 2 52 := Nat.mul_le_mul_left 2 small
  rcases Nat.eq_zero_or_pos (multiple (10 ^ places.natAbs) size) with none | some
  · rw [none, Nat.cast_zero, value_eq_zero_iff] at same
    rw [none, toDouble_eq, if_pos same, Double.zero, toRat?_finite]
    simp
  · obtain ⟨_, _, _, read, exact⟩ := toDouble_of_small some few same negative
    rw [read, toRat?_finite, exact]

private theorem integer_of_toRat (same : value.toRat? = some (number : Rat)) (some : number ≠ 0) :
    ∃ negative significand exponent, ∃ integer : IsInteger significand exponent number.natAbs,
      value = .finite negative significand exponent integer.canonical ∧ (number : Rat) = signed negative number.natAbs := by
  cases value with
  | nan _ => cases same
  | infinity _ => cases same
  | finite negative significand exponent canonical =>
    rw [toRat?_finite, Option.some.injEq] at same
    have nonneg : 0 ≤ (significand : Rat) * 2 ^ exponent := by positivity
    have size : (significand : Rat) * 2 ^ exponent = number.natAbs := by
      have whole : |(number : Rat)| = number.natAbs := by rw [Nat.cast_natAbs, Int.cast_abs]
      rw [← whole, ← same]
      cases negative <;> simp [signed, abs_of_nonneg nonneg]
    rw [size] at same
    exact ⟨negative, significand, exponent, isInteger_of_whole canonical (Int.natAbs_pos.mpr some) size, rfl, same.symm⟩

private theorem deepEquals_iff {exact : Rat} (same : result.toRat? = some exact) :
    (Value.int number).deepEquals (.double result) = true ↔ (number : Rat) = exact := by
  cases result with
  | nan _ => cases same
  | infinity _ => cases same
  | finite negative significand exponent canonical =>
    have compared : (Value.int number).deepEquals (.double (.finite negative significand exponent canonical)) =
        (some (compareRat number exact) == some .eq) := by
      rw [Value.deepEquals, Number.equals, Number.compare?]
      simp only [Number.extent?, same, Option.map_some]
      rfl
    rw [compared, compareRat]
    rcases lt_trichotomy (number : Rat) exact with less | rfl | more
    · simp [less, less.ne]
    · simp
    · simp [more, more.ne', more.not_gt]

private theorem roundHalfUp_of_rounding {outcome : Value}
    (rounds : Standard.rounding (.double value) (.int places) = .ok outcome) :
    ∃ result, outcome = .double result ∧ value.roundHalfUp places = .ok result := by
  simp only [Standard.rounding] at rounds
  split at rounds
  next => cases rounds
  next =>
    split at rounds
    next result came =>
      cases rounds
      exact ⟨result, rfl, came⟩
    next => cases rounds
    next => cases rounds

private theorem zero_unchanged (same : value.toRat? = some 0) (rounds : value.roundHalfUp places = .ok result) :
    result = value := by
  cases value with
  | nan _ => cases same
  | infinity _ => cases same
  | finite negative significand exponent canonical =>
    have power : (2 : Rat) ^ exponent ≠ 0 := by positivity
    obtain rfl : significand = 0 := by
      rw [toRat?_finite, Option.some.injEq] at same
      have size : (significand : Rat) * 2 ^ exponent = 0 := by
        cases negative <;> simpa [signed] using same
      exact_mod_cast (mul_eq_zero_iff_right power).mp size
    rw [Double.roundHalfUp, Double.shortest, if_pos rfl] at rounds
    dsimp only at rounds
    split at rounds
    next => cases rounds
    next =>
      split at rounds
      next => cases rounds
      next => exact (Except.ok.inj rounds).symm

/-- An integer is not changed by rounding, nor is the double equal to it if the number of places is not
negative, so the results are equal. For a negative number of places the double alone is rounded, and if
it has no more than 52 bits the results are equal for the multiples of that power of ten only. -/
theorem integer_rounding_agrees (same : value.toRat? = some (number : Rat)) (places : Int) :
    Standard.rounding (.int number) (.int places) = .ok (.int number) ∧
      ∀ outcome, Standard.rounding (.double value) (.int places) = .ok outcome →
        (0 ≤ places → (Value.int number).deepEquals outcome = true) ∧
          (places < 0 → number.natAbs ≤ Nat.pow 2 52 →
            ((Value.int number).deepEquals outcome = true ↔ (10 : Int) ^ places.natAbs ∣ number)) := by
  refine ⟨rfl, fun outcome rounded => ?_⟩
  obtain ⟨result, rfl, rounds⟩ := roundHalfUp_of_rounding rounded
  by_cases none : number = 0
  · subst none
    obtain rfl := zero_unchanged (by simpa using same) rounds
    have equal := (deepEquals_iff same).mpr rfl
    exact ⟨fun _ => equal, fun _ _ => iff_of_true equal (Int.dvd_zero _)⟩
  · obtain ⟨negative, significand, exponent, integer, rfl, size⟩ := integer_of_toRat same none
    refine ⟨fun nonneg => ?_, fun below small => ?_⟩
    · rw [unchanged_of_ok integer nonneg rounds]
      exact (deepEquals_iff same).mpr rfl
    · have multiples : multiple (10 ^ places.natAbs) number.natAbs = number.natAbs ↔ 10 ^ places.natAbs ∣ number.natAbs :=
        multiple_eq_iff (by positivity)
      rw [deepEquals_iff (rounded_to_multiple integer small below rounds), size, signed_inj, eq_comm, Nat.cast_inj,
        multiples, ← Int.natCast_dvd]
      norm_cast

/-- To one place behind the point 15 stays, and to one before it the double becomes 20. -/
theorem fifteen_rounded :
    let fifteen : Double := .finite false 8444249301319680 (-49) (by decide)
    let twenty : Double := .finite false 5629499534213120 (-48) (by decide)
    fifteen.toRat? = some ((15 : Int) : Rat) ∧ Standard.rounding (.double fifteen) (.int 1) = .ok (.double fifteen) ∧
      (Value.int 15).deepEquals (.double fifteen) = true ∧
      Standard.rounding (.double fifteen) (.int (-1)) = .ok (.double twenty) ∧ (15 : Int).natAbs ≤ Nat.pow 2 52 ∧
      ((Value.int 15).deepEquals (.double twenty) = true ↔ (10 : Int) ^ (-1 : Int).natAbs ∣ 15) := by
  intro fifteen twenty
  have exact : fifteen.toRat? = some ((15 : Int) : Rat) := by decide +kernel
  have behind : Standard.rounding (.double fifteen) (.int 1) = .ok (.double fifteen) := by rfl
  have before : Standard.rounding (.double fifteen) (.int (-1)) = .ok (.double twenty) := by rfl
  have small : (15 : Int).natAbs ≤ Nat.pow 2 52 := by decide
  exact ⟨exact, behind, ((integer_rounding_agrees exact 1).2 _ behind).1 (by decide), before, small,
    ((integer_rounding_agrees exact (-1)).2 _ before).2 (by decide) small⟩

theorem fifteen_and_its_double_rounded_apart :
    let fifteen : Double := .finite false 8444249301319680 (-49) (by decide)
    let twenty : Double := .finite false 5629499534213120 (-48) (by decide)
    fifteen.toRat? = some 15 ∧ Standard.rounding (.int 15) (.int (-1)) = .ok (.int 15) ∧
      Standard.rounding (.double fifteen) (.int (-1)) = .ok (.double twenty) ∧
      (Value.int 15).deepEquals (.double twenty) = false :=
  ⟨by decide +kernel, rfl, by rfl, by rfl⟩

end Agreement

end CommonExpr.Proofs.RoundedIntegers

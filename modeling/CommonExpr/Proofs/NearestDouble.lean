import CommonExpr.Double.Basic
import Mathlib.Algebra.Order.Field.Power
import Mathlib.Algebra.Order.Floor.Semifield
import Mathlib.Data.Int.Log
import Mathlib.Data.Rat.Floor
import Mathlib.Tactic.FieldSimp
import Mathlib.Tactic.Linarith
import Mathlib.Tactic.NormNum
import Mathlib.Tactic.Positivity
import Mathlib.Tactic.Ring

/-! The double that a quotient is rounded to depends on the value of the quotient only. A value that
lies within half a unit of a double, or within half of the narrower unit below a power of two, is
rounded to that double. -/

namespace CommonExpr.Proofs.NearestDouble

section Units
variable {base numerator denominator : Nat}

/-- A quotient in units that are a power of the base. -/
def inUnits (base numerator denominator : Nat) (exponent : Int) : Nat × Nat :=
  if 0 ≤ exponent then (numerator, denominator * base ^ exponent.toNat)
  else (numerator * base ^ (-exponent).toNat, denominator)

private theorem inUnits_positive (based : 0 < base) (positive : 0 < denominator) (exponent : Int) :
    0 < (inUnits base numerator denominator exponent).2 := by
  unfold inUnits
  split
  · positivity
  · exact positive

theorem inUnits_value (base numerator denominator : Nat) (exponent : Int) :
    ((inUnits base numerator denominator exponent).1 : Rat) / (inUnits base numerator denominator exponent).2 =
      numerator / denominator / base ^ exponent := by
  unfold inUnits
  split
  next whole =>
    obtain ⟨power, rfl⟩ := Int.eq_ofNat_of_zero_le whole
    simp [div_div]
  next =>
    obtain ⟨power, rfl⟩ : ∃ power : Nat, exponent = -power := ⟨exponent.natAbs, by omega⟩
    simp [mul_div_right_comm]

/-- A number of units that are a power of the base, as a quotient. -/
def ofUnits (base count : Nat) (exponent : Int) : Nat × Nat :=
  if 0 ≤ exponent then (count * base ^ exponent.toNat, 1) else (count, base ^ (-exponent).toNat)

theorem ofUnits_positive (based : 0 < base) (count : Nat) (exponent : Int) : 0 < (ofUnits base count exponent).2 := by
  unfold ofUnits
  split
  · exact Nat.one_pos
  · positivity

theorem ofUnits_value (base count : Nat) (exponent : Int) :
    ((ofUnits base count exponent).1 : Rat) / (ofUnits base count exponent).2 = count * base ^ exponent := by
  unfold ofUnits
  split
  next whole =>
    obtain ⟨power, rfl⟩ := Int.eq_ofNat_of_zero_le whole
    simp
  next =>
    obtain ⟨power, rfl⟩ : ∃ power : Nat, exponent = -power := ⟨exponent.natAbs, by omega⟩
    simp [div_eq_mul_inv]

/-- The comparison of a quotient with a power, without fractions. -/
theorem zpow_le_quotient_iff (base numerator : Nat) (based : 0 < base) (positive : 0 < denominator) (exponent : Int) :
    (base : Rat) ^ exponent ≤ numerator / denominator ↔
      if 0 ≤ exponent then denominator * base ^ exponent.toNat ≤ numerator
      else denominator ≤ numerator * base ^ (-exponent).toNat := by
  have power : (0 : Rat) < base ^ exponent := by positivity
  have below : (0 : Rat) < (inUnits base numerator denominator exponent).2 := by
    exact_mod_cast inUnits_positive based positive exponent
  rw [← one_le_div₀ power, ← inUnits_value, one_le_div₀ below, Nat.cast_le]
  unfold inUnits
  split <;> rfl

end Units

section Logarithm
variable {numerator denominator : Nat}

/-- A logarithm is known from the powers on both sides. -/
theorem log_eq (base : Nat) {value : Rat} {exponent : Int} (based : 1 < base) (low : (base : Rat) ^ exponent ≤ value)
    (high : value < base ^ (exponent + 1)) : Int.log base value = exponent := by
  have some : 0 < value := lt_of_lt_of_le (by positivity) low
  have least := (Int.zpow_le_iff_le_log based some).mp low
  have most := (Int.lt_zpow_iff_log_lt based some).mp high
  omega

/-- The logarithms of both parts leave two candidates for that of the quotient. -/
theorem quotient_bounds (some : 0 < numerator) (positive : 0 < denominator) :
    (2 : Rat) ^ ((numerator.log2 : Int) - denominator.log2 - 1) ≤ numerator / denominator ∧
      (numerator : Rat) / denominator < 2 ^ ((numerator.log2 : Int) - denominator.log2 + 1) := by
  have least : (2 : Rat) ^ numerator.log2 ≤ numerator := by exact_mod_cast Nat.log2_self_le (by omega)
  have most : (numerator : Rat) < 2 ^ (numerator.log2 + 1) := by exact_mod_cast Nat.lt_log2_self
  have leastBelow : (2 : Rat) ^ denominator.log2 ≤ denominator := by exact_mod_cast Nat.log2_self_le (by omega)
  have mostBelow : (denominator : Rat) < 2 ^ (denominator.log2 + 1) := by exact_mod_cast Nat.lt_log2_self
  have below : (0 : Rat) < denominator := by exact_mod_cast positive
  have low : (2 : Rat) ^ ((numerator.log2 : Int) - denominator.log2 - 1) =
      2 ^ numerator.log2 / 2 ^ (denominator.log2 + 1) := by
    rw [sub_sub, zpow_sub₀ two_ne_zero, zpow_natCast]
    norm_cast
  have high : (2 : Rat) ^ ((numerator.log2 : Int) - denominator.log2 + 1) =
      2 ^ (numerator.log2 + 1) / 2 ^ denominator.log2 := by
    rw [sub_add_eq_add_sub, zpow_sub₀ two_ne_zero, zpow_natCast]
    norm_cast
  constructor
  · rw [low]
    exact div_le_div₀ (by positivity) least below mostBelow.le
  · rw [high]
    exact div_lt_div₀ most leastBelow (by positivity) (by positivity)

theorem floorLog2_eq (some : 0 < numerator) (positive : 0 < denominator) :
    floorLog2 numerator denominator = Int.log 2 ((numerator : Rat) / denominator) := by
  obtain ⟨low, high⟩ := quotient_bounds some positive
  have reached := zpow_le_quotient_iff 2 numerator (by decide) positive
    (numerator.log2 - denominator.log2)
  unfold floorLog2
  simp only [Nat.shiftLeft_eq]
  by_cases least : (2 : Rat) ^ ((numerator.log2 : Int) - denominator.log2) ≤ numerator / denominator
  · rw [if_pos (reached.mp least)]
    exact (log_eq 2 (by decide) least high).symm
  · rw [if_neg (mt reached.mpr least)]
    refine (log_eq 2 (by decide) low ?_).symm
    rw [sub_add_cancel]
    exact not_le.mp least

end Logarithm

section Rounding
variable {numerator denominator first second : Nat}

/-- A number less than half away is the nearest one. -/
theorem roundQuotient_close {count : Nat} (positive : 0 < denominator)
    (close : |(numerator : Rat) / denominator - count| < 1 / 2) : roundQuotient numerator denominator = count := by
  have below : (0 : Rat) < denominator := by exact_mod_cast positive
  have gap : |2 * (numerator : Int) - 2 * (count * denominator)| < denominator := by
    have scaled : |((numerator : Rat) / denominator - count) * denominator| < 1 / 2 * denominator := by
      rw [abs_mul, abs_of_pos below]
      exact mul_lt_mul_of_pos_right close below
    rw [sub_mul, div_mul_cancel₀ _ below.ne'] at scaled
    have twice : |2 * (numerator : Rat) - 2 * (count * denominator)| < denominator := by
      rw [← mul_sub, abs_mul, abs_of_pos two_pos]
      linarith
    exact_mod_cast twice
  have split := Nat.div_add_mod numerator denominator
  have inside := Nat.mod_lt numerator positive
  obtain ⟨low, high⟩ := abs_lt.mp gap
  unfold roundQuotient
  generalize numerator / denominator = quotient at split ⊢
  generalize numerator % denominator = rest at split inside ⊢
  have whole : (numerator : Int) = denominator * quotient + rest := by exact_mod_cast split.symm
  have product : (denominator : Int) * quotient = quotient * denominator := mul_comm _ _
  have few : (rest : Int) < denominator := by exact_mod_cast inside
  obtain rfl | rfl : count = quotient ∨ count = quotient + 1 := by
    have least : count ≤ quotient + 1 := by
      by_contra! far
      have further : (quotient + 2) * (denominator : Int) ≤ count * denominator :=
        mul_le_mul_of_nonneg_right (by omega) (by omega)
      linarith
    have most : quotient ≤ count := by
      by_contra! far
      have further : (count + 1) * (denominator : Int) ≤ quotient * denominator :=
        mul_le_mul_of_nonneg_right (by omega) (by omega)
      linarith
    omega
  · rw [if_pos (by omega)]
  · push_cast at low
    rw [if_neg (by linarith), if_pos (by linarith)]

private theorem roundQuotient_scaled {factor : Nat} (some : 0 < factor) :
    roundQuotient (numerator * factor) (denominator * factor) = roundQuotient numerator denominator := by
  have less {left right : Nat} : left * factor < right * factor ↔ left < right := Nat.mul_lt_mul_right some
  simp only [roundQuotient, Nat.mul_div_mul_right _ _ some, Nat.mul_mod_mul_right, ← Nat.mul_assoc, less]

private theorem roundQuotient_congr (positive : 0 < denominator) (other : 0 < second)
    (same : (numerator : Rat) / denominator = first / second) :
    roundQuotient numerator denominator = roundQuotient first second := by
  have below : (denominator : Rat) ≠ 0 := by exact_mod_cast positive.ne'
  have behind : (second : Rat) ≠ 0 := by exact_mod_cast other.ne'
  have crossed : numerator * second = first * denominator := by
    rw [div_eq_div_iff below behind] at same
    exact_mod_cast same
  rw [← roundQuotient_scaled other, crossed, Nat.mul_comm denominator, roundQuotient_scaled positive]

end Rounding

section Nearest
variable {numerator denominator first second significand : Nat} {exponent : Int} {negative : Bool}

/-- The unit in which a value is rounded. -/
def unitExponent (value : Rat) : Int :=
  max (Int.log 2 value - 52) (-1074)

private theorem nearest_eq (some : 0 < numerator) (positive : 0 < denominator) (negative : Bool) :
    Double.nearest negative numerator denominator =
      let exponent := unitExponent (numerator / denominator)
      let significand :=
        roundQuotient (inUnits 2 numerator denominator exponent).1 (inUnits 2 numerator denominator exponent).2
      if significand = Nat.pow 2 53 then Double.ofParts negative (Nat.pow 2 52) (exponent + 1)
      else Double.ofParts negative significand exponent := by
  have rounded (exponent : Int) : (if 0 ≤ exponent then roundQuotient numerator (denominator <<< exponent.toNat)
      else roundQuotient (numerator <<< (-exponent).toNat) denominator) =
        roundQuotient (inUnits 2 numerator denominator exponent).1 (inUnits 2 numerator denominator exponent).2 := by
    rw [Nat.shiftLeft_eq, Nat.shiftLeft_eq]
    unfold inUnits
    split <;> rfl
  rw [Double.nearest, if_neg some.ne', floorLog2_eq some positive]
  dsimp only [unitExponent]
  rw [rounded]

/-- Two ways to write one value as a quotient are rounded alike. -/
theorem nearest_congr (positive : 0 < denominator) (other : 0 < second)
    (same : (numerator : Rat) / denominator = first / second) (negative : Bool) :
    Double.nearest negative numerator denominator = Double.nearest negative first second := by
  have below : (0 : Rat) < denominator := by exact_mod_cast positive
  have behind : (0 : Rat) < second := by exact_mod_cast other
  rcases Nat.eq_zero_or_pos numerator with rfl | some
  · have none : first = 0 := by simpa [behind.ne'] using same.symm
    rw [none, Double.nearest, if_pos rfl, Double.nearest, if_pos rfl]
  · have filled : 0 < first := by
      have quotient : (0 : Rat) < first / second := same ▸ by positivity
      exact_mod_cast (div_pos_iff_of_pos_right behind).mp quotient
    have rounded (exponent : Int) : roundQuotient (inUnits 2 numerator denominator exponent).1
        (inUnits 2 numerator denominator exponent).2 =
          roundQuotient (inUnits 2 first second exponent).1 (inUnits 2 first second exponent).2 := by
      refine roundQuotient_congr (inUnits_positive two_pos positive _) (inUnits_positive two_pos other _) ?_
      rw [inUnits_value, inUnits_value, same]
    rw [nearest_eq some positive, nearest_eq filled other, same]
    dsimp only
    rw [rounded]

/-- The sign is that which is asked for, and the magnitude does not depend on it. -/
theorem nearest_sign {canonical : Canonical significand exponent}
    (read : Double.nearest false numerator denominator = .finite false significand exponent canonical)
    (negative : Bool) :
    Double.nearest negative numerator denominator = .finite negative significand exponent canonical := by
  have parts {significand' : Nat} {exponent' : Int}
      (read : Double.ofParts false significand' exponent' = .finite false significand exponent canonical) :
      Double.ofParts negative significand' exponent' = .finite negative significand exponent canonical := by
    unfold Double.ofParts at read ⊢
    split at read
    next whole =>
      cases read
      rw [dif_pos whole]
    next => cases read
  unfold Double.nearest at read ⊢
  split at read
  next none =>
    cases read
    rw [if_pos none]
    rfl
  next some =>
    rw [if_neg some]
    dsimp only at read ⊢
    generalize (if 0 ≤ max (floorLog2 numerator denominator - 52) (-1074) then _ else _ : Nat) = rounded at read ⊢
    split at read
    next carried =>
      rw [if_pos carried]
      exact parts read
    next kept =>
      rw [if_neg kept]
      exact parts read

theorem nearest_of_unit (count : Nat) (some : 0 < numerator) (positive : 0 < denominator)
    (unit : unitExponent (numerator / denominator) = exponent)
    (close : |(numerator : Rat) / denominator - count * 2 ^ exponent| < 2 ^ exponent / 2) (negative : Bool) :
    Double.nearest negative numerator denominator =
      if count = Nat.pow 2 53 then Double.ofParts negative (Nat.pow 2 52) (exponent + 1)
      else Double.ofParts negative count exponent := by
  have power : (0 : Rat) < 2 ^ exponent := by positivity
  have rounded : roundQuotient (inUnits 2 numerator denominator exponent).1 (inUnits 2 numerator denominator exponent).2 =
      count := by
    refine roundQuotient_close (inUnits_positive two_pos positive _) ?_
    rw [inUnits_value, Nat.cast_ofNat]
    generalize (numerator : Rat) / denominator = value at close ⊢
    have apart : value / 2 ^ exponent - count = (value - count * 2 ^ exponent) / 2 ^ exponent := by field_simp
    rw [apart, abs_div, abs_of_pos power, div_lt_iff₀ power]
    linarith
  rw [nearest_eq some positive, unit]
  dsimp only
  rw [rounded]

theorem ofParts_canonical (canonical : Canonical significand exponent) (negative : Bool) :
    Double.ofParts negative significand exponent = .finite negative significand exponent canonical :=
  dif_pos canonical

private theorem unitExponent_eq {value : Rat} (least : -1074 ≤ exponent) (low : 2 ^ 52 * (2 : Rat) ^ exponent ≤ value)
    (high : value < 2 ^ 53 * (2 : Rat) ^ exponent) : unitExponent value = exponent := by
  have scaled (places : Nat) : (2 : Rat) ^ (exponent + places) = 2 ^ places * 2 ^ exponent := by
    rw [zpow_add₀ two_ne_zero, zpow_natCast, mul_comm]
  have log : Int.log 2 value = exponent + 52 := by
    refine log_eq 2 (by decide) ?_ ?_
    · exact (scaled 52).trans_le low
    · rw [add_assoc]
      exact high.trans_eq (scaled 53).symm
  rw [unitExponent, log]
  omega

/-- A decimal number of seventeen digits that is as near as that to a double is rounded to it. Below a
power of two the units are half as wide as above it, and the rounded significand carries. -/
theorem nearest_of_close (canonical : Canonical significand exponent) (normal : Nat.pow 2 52 ≤ significand)
    (room : -1074 < exponent) (some : 0 < numerator) (positive : 0 < denominator)
    (close : |(numerator : Rat) / denominator - significand * 2 ^ exponent| * (2 * 10 ^ 16) ≤ significand * 2 ^ exponent)
    (negative : Bool) :
    Double.nearest negative numerator denominator = .finite negative significand exponent canonical := by
  have power : (0 : Rat) < 2 ^ exponent := by positivity
  have least : (2 : Rat) ^ 52 * 2 ^ exponent ≤ significand * 2 ^ exponent := by
    gcongr
    exact_mod_cast normal
  have most : (significand + 1) * (2 : Rat) ^ exponent ≤ 2 ^ 53 * 2 ^ exponent := by
    gcongr
    exact_mod_cast canonical.1
  by_cases carries : (numerator : Rat) / denominator < significand * 2 ^ exponent ∧ significand = Nat.pow 2 52
  · obtain ⟨below, rfl⟩ := carries
    have half : (2 : Rat) ^ exponent = 2 * 2 ^ (exponent - 1) := by
      rw [zpow_sub_one₀ two_ne_zero]
      ring
    have whole : ((Nat.pow 2 52 : Nat) : Rat) = 2 ^ 52 := by norm_num
    rw [whole] at below close
    rw [half] at below close power
    have gap := abs_le.mp ((le_div_iff₀ (by norm_num)).mpr close)
    have unit : unitExponent ((numerator : Rat) / denominator) = exponent - 1 :=
      unitExponent_eq (by omega) (by linarith) (by linarith)
    rw [nearest_of_unit (Nat.pow 2 53) some positive unit, if_pos rfl, sub_add_cancel]
    · exact ofParts_canonical canonical negative
    · have double : ((Nat.pow 2 53 : Nat) : Rat) = 2 ^ 53 := by norm_num
      rw [double, abs_lt]
      constructor <;> linarith
  · have gap := abs_le.mp ((le_div_iff₀ (by norm_num)).mpr close)
    have low : 2 ^ 52 * (2 : Rat) ^ exponent ≤ numerator / denominator := by
      rcases not_and_or.mp carries with above | other
      · linarith
      · have more : ((2 : Rat) ^ 52 + 1) * 2 ^ exponent ≤ significand * 2 ^ exponent := by
          gcongr
          exact_mod_cast lt_of_le_of_ne normal (Ne.symm other)
        linarith
    have unit : unitExponent ((numerator : Rat) / denominator) = exponent :=
      unitExponent_eq room.le low (by linarith)
    rw [nearest_of_unit significand some positive unit, if_neg canonical.1.ne]
    · exact ofParts_canonical canonical negative
    · rw [abs_lt]
      constructor <;> linarith

/-- Every number up to the first power of two that the significands do not reach is a double. -/
theorem small_number_is_double {number : Nat} (some : 0 < number) (small : number ≤ Nat.pow 2 53) :
    ∃ significand exponent, Canonical significand exponent ∧ Nat.pow 2 52 ≤ significand ∧ -1074 < exponent ∧
      (number : Rat) = significand * 2 ^ exponent := by
  rcases Nat.lt_or_eq_of_le small with inside | rfl
  · have short : number.log2 < 53 := (Nat.log2_lt some.ne').mpr inside
    have least : 2 ^ number.log2 ≤ number := Nat.log2_self_le some.ne'
    have most : number < 2 ^ (number.log2 + 1) := Nat.lt_log2_self
    have low : Nat.pow 2 52 ≤ number * 2 ^ (52 - number.log2) := by
      calc Nat.pow 2 52 = 2 ^ number.log2 * 2 ^ (52 - number.log2) := by
            rw [← pow_add, Nat.add_sub_cancel' (by omega)]
            rfl
        _ ≤ number * 2 ^ (52 - number.log2) := Nat.mul_le_mul_right _ least
    have high : number * 2 ^ (52 - number.log2) < Nat.pow 2 53 := by
      calc number * 2 ^ (52 - number.log2) < 2 ^ (number.log2 + 1) * 2 ^ (52 - number.log2) :=
            Nat.mul_lt_mul_of_pos_right most (by positivity)
        _ = Nat.pow 2 53 := by rw [← pow_add]; congr 1; omega
    refine ⟨_, -((52 - number.log2 : Nat) : Int), ⟨high, by omega, by omega, .inl low⟩, low, by omega, ?_⟩
    rw [zpow_neg, zpow_natCast]
    push_cast
    field_simp
  · exact ⟨Nat.pow 2 52, 1, by decide, Nat.le_refl _, by decide, by norm_num⟩

end Nearest

end CommonExpr.Proofs.NearestDouble

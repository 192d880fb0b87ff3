import CommonExpr.Double.Decimal
import CommonExpr.Proofs.NearestDouble

/-! The shortest decimal number for a double that is an integer. Such a number is found within the
seventeen digits that are tried, it is read back as the double, and none of its digits stands
behind the point. -/

namespace CommonExpr.Proofs.ShortestDecimal
open NearestDouble

section Values
variable {decimal other : Decimal} {negative : Bool}

def value (decimal : Decimal) : Rat :=
  decimal.coefficient * 10 ^ decimal.exponent

theorem value_eq_zero_iff : value decimal = 0 ↔ decimal.coefficient = 0 := by
  have power : (10 : Rat) ^ decimal.exponent ≠ 0 := by positivity
  simp [value, power]

theorem pointPosition_eq (some : decimal.coefficient ≠ 0) : decimal.pointPosition = Int.log 10 (value decimal) + 1 := by
  have filled : 0 < decimal.digitCount := Nat.length_toDigits_pos
  obtain ⟨places, sized⟩ := Nat.exists_eq_add_one.mpr filled
  have high : decimal.coefficient < 10 ^ (places + 1) :=
    (Nat.length_toDigits_le_iff (by decide) (Nat.succ_pos _)).mp sized.le
  have low : 10 ^ places ≤ decimal.coefficient := by
    by_contra! small
    rcases Nat.eq_zero_or_pos places with rfl | pos
    · omega
    · have fewer : decimal.digitCount ≤ places := (Nat.length_toDigits_le_iff (by decide) pos).mpr small
      omega
  have log : Int.log 10 (value decimal) = decimal.exponent + places := by
    refine log_eq 10 (by decide) ?_ ?_
    · calc ((10 : Nat) : Rat) ^ (decimal.exponent + places) = 10 ^ places * 10 ^ decimal.exponent := by
            rw [Nat.cast_ofNat, zpow_add₀ (by norm_num), zpow_natCast, mul_comm]
        _ ≤ value decimal := by
            unfold value
            gcongr
            exact_mod_cast low
    · calc value decimal < 10 ^ (places + 1) * 10 ^ decimal.exponent := by
            unfold value
            gcongr
            exact_mod_cast high
        _ = ((10 : Nat) : Rat) ^ (decimal.exponent + places + 1) := by
            rw [Nat.cast_ofNat, add_assoc, zpow_add₀ (by norm_num), mul_comm]
            norm_cast
  rw [log, Decimal.pointPosition, sized]
  push_cast
  ring

def parts (decimal : Decimal) : Nat × Nat :=
  ofUnits 10 decimal.coefficient decimal.exponent

theorem parts_positive (decimal : Decimal) : 0 < (parts decimal).2 :=
  ofUnits_positive (by decide) _ _

theorem parts_value (decimal : Decimal) : ((parts decimal).1 : Rat) / (parts decimal).2 = value decimal := by
  rw [parts, ofUnits_value]
  rfl

theorem toDouble_eq (decimal : Decimal) (negative : Bool) : decimal.toDouble negative =
    if decimal.coefficient = 0 then Double.zero negative
    else if 400 < decimal.pointPosition then .infinity negative
    else if decimal.pointPosition < -400 then .zero negative
    else Double.nearest negative (parts decimal).1 (parts decimal).2 := by
  unfold Decimal.toDouble parts ofUnits
  split
  · rfl
  · split
    · rfl
    · split
      · rfl
      · split <;> rfl

/-- Two ways to write one number are read as one double. -/
theorem toDouble_congr (same : value decimal = value other) (negative : Bool) :
    decimal.toDouble negative = other.toDouble negative := by
  rw [toDouble_eq, toDouble_eq]
  by_cases none : decimal.coefficient = 0
  · rw [if_pos none, if_pos (value_eq_zero_iff.mp (same ▸ value_eq_zero_iff.mpr none))]
  · have some : other.coefficient ≠ 0 := fun none' => none (value_eq_zero_iff.mp (same ▸ value_eq_zero_iff.mpr none'))
    have rounded : Double.nearest negative (parts decimal).1 (parts decimal).2 =
        Double.nearest negative (parts other).1 (parts other).2 := by
      refine nearest_congr (parts_positive _) (parts_positive _) ?_ negative
      rw [parts_value, parts_value, same]
    rw [if_neg none, if_neg some, pointPosition_eq none, pointPosition_eq some, same, rounded]

/-- Only the sign of what is read depends on the sign that is given. -/
theorem toDouble_sign {significand : Nat} {exponent : Int} {canonical : Canonical significand exponent}
    (read : decimal.toDouble false = .finite false significand exponent canonical) (negative : Bool) :
    decimal.toDouble negative = .finite negative significand exponent canonical := by
  rw [toDouble_eq] at read ⊢
  split at read
  next none =>
    cases read
    exact if_pos none
  next some =>
    rw [if_neg some]
    split at read
    next => cases read
    next small =>
      rw [if_neg small]
      split at read
      next tiny =>
        cases read
        exact if_pos tiny
      next large =>
        rw [if_neg large]
        exact nearest_sign read negative

theorem magnitude_lt {significand : Nat} {exponent : Int} (canonical : Canonical significand exponent) :
    (significand : Rat) * 2 ^ exponent * 2 < 10 ^ 400 := by
  have power : (2 : Rat) ^ exponent ≤ 2 ^ 971 := by
    calc (2 : Rat) ^ exponent ≤ 2 ^ ((971 : Nat) : Int) := zpow_le_zpow_right₀ (by norm_num) canonical.2.2.1
      _ = 2 ^ 971 := zpow_natCast _ _
  have huge : 2 ^ 53 * 2 ^ 971 * 2 < 10 ^ 400 := by decide +kernel
  calc (significand : Rat) * 2 ^ exponent * 2 ≤ 2 ^ 53 * 2 ^ 971 * 2 := by
        gcongr
        exact_mod_cast canonical.1.le
    _ < 10 ^ 400 := by exact_mod_cast huge

private theorem toDouble_of_close {significand : Nat} {exponent : Int} (canonical : Canonical significand exponent)
    (normal : Nat.pow 2 52 ≤ significand) (room : -1074 < exponent) (least : 1 ≤ value decimal)
    (close : |value decimal - significand * 2 ^ exponent| * (2 * 10 ^ 16) ≤ significand * 2 ^ exponent)
    (negative : Bool) : decimal.toDouble negative = .finite negative significand exponent canonical := by
  have some : decimal.coefficient ≠ 0 := fun none => by
    rw [value_eq_zero_iff.mpr none] at least
    exact absurd least (by norm_num)
  have positive : (0 : Rat) < value decimal := by linarith
  have most : value decimal < 10 ^ (400 : Int) := by
    have gap := abs_le.mp ((le_div_iff₀ (by norm_num)).mpr close)
    have nonneg : 0 ≤ (significand : Rat) * 2 ^ exponent := by positivity
    calc value decimal ≤ significand * 2 ^ exponent * 2 := by linarith
      _ < 10 ^ 400 := magnitude_lt canonical
      _ = 10 ^ (400 : Int) := (zpow_ofNat _ _).symm
  have low : 0 ≤ Int.log 10 (value decimal) := (Int.zpow_le_iff_le_log (by decide) positive).mp (by simpa using least)
  have high : Int.log 10 (value decimal) < 400 := (Int.lt_zpow_iff_log_lt (by decide) positive).mp most
  have filled : 0 < (parts decimal).1 := by
    have quotient := parts_value decimal
    have below : (0 : Rat) < (parts decimal).2 := by exact_mod_cast parts_positive decimal
    exact_mod_cast (div_pos_iff_of_pos_right below).mp (quotient ▸ positive)
  rw [toDouble_eq, if_neg some, pointPosition_eq some, if_neg (by omega), if_neg (by omega)]
  refine nearest_of_close canonical normal room filled (parts_positive _) ?_ negative
  rwa [parts_value]

/-- A decimal number without digits behind the point is a natural number. -/
theorem value_natural (whole : 0 ≤ decimal.exponent) :
    value decimal = (decimal.coefficient * 10 ^ decimal.exponent.toNat : Nat) := by
  obtain ⟨coefficient, exponent⟩ := decimal
  obtain ⟨places, rfl⟩ := Int.eq_ofNat_of_zero_le whole
  simp [value]

theorem coefficient_of_read {significand : Nat} {exponent : Int} {canonical : Canonical significand exponent}
    (some : significand ≠ 0)
    (read : decimal.toDouble false = .finite false significand exponent canonical) : decimal.coefficient ≠ 0 := by
  intro none
  rw [toDouble_eq, if_pos none] at read
  cases read
  exact some rfl

/-- Every positive number that is small enough is read as the double that is exactly that. -/
theorem toDouble_of_small {number : Nat} (some : 0 < number) (small : number ≤ Nat.pow 2 53)
    (same : value decimal = number) (negative : Bool) :
    ∃ significand exponent canonical, decimal.toDouble negative = .finite negative significand exponent canonical ∧
      (significand : Rat) * 2 ^ exponent = number := by
  obtain ⟨significand, exponent, canonical, normal, room, whole⟩ := small_number_is_double some small
  refine ⟨significand, exponent, canonical, toDouble_of_close canonical normal room ?_ ?_ negative, whole.symm⟩
  · rw [same]
    exact_mod_cast some
  · rw [same, whole, sub_self, abs_zero, zero_mul]
    positivity

end Values

section Normal

/-- The zeros at the end of the digits are factors of ten. -/
theorem trailing_zeros_divide (number : Nat) :
    Nat.pow 10 ((Nat.toDigits 10 number).reverse.takeWhile (· == '0')).length ∣ number := by
  induction number using Nat.strongRecOn with
  | ind number ih =>
    rw [Nat.toDigits_eq_if (by decide)]
    have zero : ∀ digit < 10, digit.digitChar = '0' → digit = 0 := by decide
    split
    next small =>
      by_cases last : number.digitChar = '0'
      · rw [zero number small last]
        exact Nat.dvd_zero _
      · simp [last]
    next large =>
      rw [List.reverse_append]
      by_cases last : (number % 10).digitChar = '0'
      · obtain ⟨factor, same⟩ := ih (number / 10) (by omega)
        have even := zero _ (Nat.mod_lt _ (by decide)) last
        have whole : number = 10 * (number / 10) := by omega
        simp only [List.reverse_singleton, List.singleton_append, last, beq_self_eq_true, List.takeWhile_cons_of_pos,
          List.length_cons]
        refine ⟨factor, ?_⟩
        rw [Nat.pow_eq, pow_succ]
        calc number = 10 * (10 ^ _ * factor) := by rw [← Nat.pow_eq, ← same, ← whole]
          _ = _ := by ring
      · simp [last]

theorem normalize_value (decimal : Decimal) : value decimal.normalize = value decimal := by
  unfold Decimal.normalize value
  dsimp only
  obtain ⟨factor, same⟩ := trailing_zeros_divide decimal.coefficient
  generalize List.length _ = zeros at same ⊢
  rw [Nat.pow_eq] at same ⊢
  have some : (10 : Rat) ^ zeros ≠ 0 := by positivity
  rw [same, Nat.mul_div_cancel_left _ (Nat.pow_pos (by decide)), zpow_add₀ (by norm_num), zpow_natCast]
  push_cast
  ring

private theorem exponent_le_normalize (decimal : Decimal) : decimal.exponent ≤ decimal.normalize.exponent :=
  Int.le_add_of_nonneg_right (Int.natCast_nonneg _)

end Normal

section Grids
variable {magnitude : Double} {numerator denominator : Nat} {exponent : Int} {decimal : Decimal}

/-- How many units of a grid a number reaches. -/
def reach (value : Rat) (exponent : Int) : Nat :=
  ⌊value / 10 ^ exponent⌋₊

/-- The two numbers of a grid around another one. -/
inductive OnGrid (value : Rat) (exponent : Int) : Decimal → Prop where
  | below : OnGrid value exponent ⟨reach value exponent, exponent⟩
  | above : OnGrid value exponent ⟨reach value exponent + 1, exponent⟩

private theorem reach_eq (numerator denominator : Nat) (exponent : Int) : reach (numerator / denominator) exponent =
    (inUnits 10 numerator denominator exponent).1 / (inUnits 10 numerator denominator exponent).2 := by
  rw [reach, ← Nat.floor_div_eq_div (K := Rat), inUnits_value]
  norm_cast

/-- One of the two numbers is found if and only if one of them is read back. -/
theorem onGrid?_cases (magnitude : Double) (numerator denominator : Nat) (exponent : Int) :
    (∃ decimal, Double.onGrid? magnitude numerator denominator exponent = some decimal ∧
      OnGrid (numerator / denominator) exponent decimal ∧ decimal.toDouble false = magnitude) ∨
    (Double.onGrid? magnitude numerator denominator exponent = none ∧
      ∀ decimal, OnGrid (numerator / denominator) exponent decimal → decimal.toDouble false ≠ magnitude) := by
  have floor := (reach_eq numerator denominator exponent).symm
  unfold Double.onGrid?
  split
  next whole unit quotient =>
    rw [show inUnits 10 numerator denominator exponent = (whole, unit) from quotient] at floor
    dsimp only at floor ⊢
    have lower : OnGrid (numerator / denominator) exponent ⟨whole / unit, exponent⟩ := floor ▸ .below
    have upper : OnGrid (numerator / denominator) exponent ⟨whole / unit + 1, exponent⟩ := floor ▸ .above
    split
    next readBelow readAbove =>
      split
      · exact .inl ⟨_, rfl, lower, of_decide_eq_true readBelow⟩
      · exact .inl ⟨_, rfl, upper, of_decide_eq_true readAbove⟩
    next readBelow _ => exact .inl ⟨_, rfl, lower, of_decide_eq_true readBelow⟩
    next _ readAbove => exact .inl ⟨_, rfl, upper, of_decide_eq_true readAbove⟩
    next missedBelow missedAbove =>
      refine .inr ⟨rfl, ?_⟩
      rintro _ (_ | _)
      · rw [← floor]
        exact of_decide_eq_false missedBelow
      · rw [← floor]
        exact of_decide_eq_false missedAbove

theorem of_onGrid? (found : Double.onGrid? magnitude numerator denominator exponent = some decimal) :
    OnGrid (numerator / denominator) exponent decimal ∧ decimal.toDouble false = magnitude := by
  rcases onGrid?_cases magnitude numerator denominator exponent with ⟨same, also, read⟩ | ⟨none, _⟩
  · cases found.symm.trans also
    exact read
  · cases found.symm.trans none

theorem onGrid?_isSome (near : OnGrid (numerator / denominator) exponent decimal)
    (read : decimal.toDouble false = magnitude) : (Double.onGrid? magnitude numerator denominator exponent).isSome := by
  rcases onGrid?_cases magnitude numerator denominator exponent with ⟨_, found, _⟩ | ⟨_, missed⟩
  · exact Option.isSome_of_eq_some found
  · exact absurd read (missed decimal near)

end Grids

section Search
variable {numerator denominator : Nat}

theorem floorLog10_eq (positive : 0 < denominator) : Double.floorLog10 numerator denominator =
    let guess := floorLog2 numerator denominator * 30103 / 100000
    if (10 : Rat) ^ (guess + 1) ≤ numerator / denominator then guess + 1
    else if (10 : Rat) ^ guess ≤ numerator / denominator then guess else guess - 1 := by
  have reaches (exponent : Int) : (if 0 ≤ exponent then decide (denominator * Nat.pow 10 exponent.toNat ≤ numerator)
      else decide (denominator ≤ numerator * Nat.pow 10 (-exponent).toNat)) = true ↔
        (10 : Rat) ^ exponent ≤ numerator / denominator := by
    rw [← Nat.cast_ofNat (R := Rat), zpow_le_quotient_iff 10 numerator (by decide) positive]
    split <;> simp
  unfold Double.floorLog10
  simp only [reaches]

/-- The factor in the estimate is a little more than the logarithm of two. -/
theorem estimate_le (places : Nat) (small : places < 1024) : 10 ^ (places * 30103 / 100000) ≤ 10 * 2 ^ places := by
  have table : ∀ places < 1024, 10 ^ (places * 30103 / 100000) ≤ 10 * 2 ^ places := by decide +kernel
  exact table places small

private theorem floorLog10_bounds (positive : 0 < denominator) (least : 1 ≤ (numerator : Rat) / denominator)
    (most : (numerator : Rat) / denominator < 2 ^ (1024 : Int)) : 0 ≤ Double.floorLog10 numerator denominator ∧
      (10 : Rat) ^ Double.floorLog10 numerator denominator ≤ numerator / denominator := by
  have filled : (0 : Rat) < numerator / denominator := lt_of_lt_of_le one_pos least
  have some : 0 < numerator := by
    have below : (0 : Rat) < denominator := by exact_mod_cast positive
    exact_mod_cast (div_pos_iff_of_pos_right below).mp filled
  rw [floorLog10_eq positive, floorLog2_eq some positive]
  generalize (numerator : Rat) / denominator = value at *
  have low : 0 ≤ Int.log 2 value := (Int.zpow_le_iff_le_log (by decide) filled).mp (by simpa using least)
  have high : Int.log 2 value < 1024 := (Int.lt_zpow_iff_log_lt (by decide) filled).mp most
  clear most
  have reached : ((2 : Nat) : Rat) ^ Int.log 2 value ≤ value := Int.zpow_log_le_self (by decide) filled
  obtain ⟨places, same⟩ := Int.eq_ofNat_of_zero_le low
  rw [same] at high reached ⊢
  have guess : (places : Int) * 30103 / 100000 = (places * 30103 / 100000 : Nat) := by omega
  have estimate : (10 : Rat) ^ (places * 30103 / 100000) ≤ 10 * 2 ^ places := by
    exact_mod_cast estimate_le places (by omega)
  dsimp only
  rw [guess]
  generalize places * 30103 / 100000 = digits at estimate ⊢
  split
  next more => exact ⟨by omega, more⟩
  next =>
    split
    next exact => exact ⟨by omega, exact⟩
    next missed =>
      have some : digits ≠ 0 := by
        rintro rfl
        exact missed (by simpa using least)
      refine ⟨by omega, ?_⟩
      rw [zpow_sub_one₀ (by norm_num), zpow_natCast]
      rw [zpow_natCast] at reached
      push_cast at reached
      linarith

theorem findSome?_range (search : Nat → Option α) {place count : Nat} (inside : place < count)
    (hit : (search place).isSome) :
    ∃ earlier ≤ place, ∃ found, search earlier = some found ∧ (List.range count).findSome? search = some found := by
  induction count with
  | zero => cases inside
  | succ count ih =>
    rw [List.range_succ, List.findSome?_append]
    rcases Nat.lt_succ_iff_lt_or_eq.mp inside with before | rfl
    · obtain ⟨earlier, within, found, same, first⟩ := ih before
      exact ⟨earlier, within, found, same, by rw [first, Option.some_or]⟩
    · cases first : (List.range place).findSome? search with
      | some found =>
        obtain ⟨earlier, member, same⟩ := List.exists_of_findSome?_eq_some first
        exact ⟨earlier, (List.mem_range.mp member).le, found, same, rfl⟩
      | none =>
        obtain ⟨found, same⟩ := Option.isSome_iff_exists.mp hit
        exact ⟨place, Nat.le_refl _, found, same, by simp [same]⟩

variable {number : Nat} {leading exponent : Int} {decimal : Decimal}

private theorem reach_bounds (number : Nat) (exponent : Int) :
    reach number exponent * (10 : Rat) ^ exponent ≤ number ∧
      (number : Rat) < (reach number exponent + 1) * 10 ^ exponent := by
  have power : (0 : Rat) < 10 ^ exponent := by positivity
  have nonneg : 0 ≤ (number : Rat) / 10 ^ exponent := by positivity
  exact ⟨(le_div_iff₀ power).mp (Nat.floor_le nonneg), (div_lt_iff₀ power).mp (Nat.lt_floor_add_one _)⟩

theorem OnGrid.le_twice (inside : OnGrid number exponent decimal) (unit : (10 : Rat) ^ exponent ≤ number) :
    value decimal ≤ 2 * number := by
  have low := (reach_bounds number exponent).1
  cases inside with
  | below =>
    have nonneg : (0 : Rat) ≤ number := by positivity
    simp only [value]
    linarith
  | above =>
    simp only [value]
    push_cast
    linarith

/-- A grid of one digit less than the number has is exact, and on one of seventeen digits the nearer
number around it is near enough. -/
theorem exists_close (nonneg : 0 ≤ leading) (low : (10 : Rat) ^ leading ≤ number) :
    ∃ digits : Nat, digits < 17 ∧ (digits : Int) ≤ leading ∧ ∃ decimal, OnGrid number (leading - digits) decimal ∧
      1 ≤ value decimal ∧ |value decimal - number| * (2 * 10 ^ 16) ≤ number := by
  have least : (1 : Rat) ≤ number := le_trans (one_le_zpow₀ (by norm_num) nonneg) low
  by_cases few : leading ≤ 16
  · have same : value ⟨reach number 0, 0⟩ = number := by simp [value, reach]
    refine ⟨leading.toNat, by omega, by omega, ⟨reach number 0, 0⟩, ?_, by rwa [same], ?_⟩
    · rw [Int.toNat_of_nonneg nonneg, sub_self]
      exact .below
    · rw [same, sub_self, abs_zero, zero_mul]
      exact le_trans zero_le_one least
  · have split : (10 : Rat) ^ leading = 10 ^ 16 * 10 ^ (leading - 16) := by
      rw [zpow_sub₀ (by norm_num)]
      norm_num
      ring
    have unit : (1 : Rat) ≤ 10 ^ (leading - 16) := one_le_zpow₀ (by norm_num) (by omega)
    obtain ⟨lower, upper⟩ := reach_bounds number (leading - 16)
    rw [split] at low
    have held (decimal : Decimal) (inside : OnGrid number (leading - 16) decimal)
        (close : |value decimal - number| ≤ 10 ^ (leading - 16) / 2) :
        ∃ digits : Nat, digits < 17 ∧ (digits : Int) ≤ leading ∧ ∃ decimal, OnGrid number (leading - digits) decimal ∧
          1 ≤ value decimal ∧ |value decimal - number| * (2 * 10 ^ 16) ≤ number := by
      have apart := abs_le.mp close
      refine ⟨16, by decide, by omega, decimal, inside, by linarith, by linarith⟩
    rcases le_total ((number : Rat) - reach number (leading - 16) * 10 ^ (leading - 16)) (10 ^ (leading - 16) / 2) with
      nearer | farther
    · refine held _ .below ?_
      simp only [value]
      rw [abs_le]
      constructor <;> linarith
    · refine held _ .above ?_
      simp only [value]
      push_cast
      rw [abs_le]
      constructor <;> linarith

end Search

section Integers
variable {significand number : Nat} {exponent : Int}

/-- A double that is a positive integer, with all its bits. -/
structure IsInteger (significand : Nat) (exponent : Int) (number : Nat) : Prop where
  canonical : Canonical significand exponent
  normal : Nat.pow 2 52 ≤ significand
  room : -1074 < exponent
  whole : (significand : Rat) * 2 ^ exponent = number

theorem IsInteger.some (integer : IsInteger significand exponent number) : significand ≠ 0 := by
  rintro rfl
  exact absurd integer.normal (by decide)

theorem IsInteger.positive (integer : IsInteger significand exponent number) : 0 < number := by
  have some := Nat.pos_of_ne_zero integer.some
  have filled : (0 : Rat) < number := by
    rw [← integer.whole]
    positivity
  exact_mod_cast filled

theorem isInteger_of_whole (canonical : Canonical significand exponent) (some : 0 < number)
    (whole : (significand : Rat) * 2 ^ exponent = number) : IsInteger significand exponent number := by
  have room : -1074 < exponent := by
    refine lt_of_le_of_ne canonical.2.1 ?_
    rintro rfl
    have small : (significand : Rat) * 2 ^ (-1074 : Int) < 2 ^ 53 * 2 ^ (-53 : Int) := by
      apply mul_lt_mul
      · exact_mod_cast canonical.1
      · exact zpow_le_zpow_right₀ (by norm_num) (by norm_num)
      · positivity
      · positivity
    rw [whole, zpow_neg, zpow_ofNat, mul_inv_cancel₀ (by positivity)] at small
    exact absurd small (not_lt.mpr (by exact_mod_cast some))
  have normal : Nat.pow 2 52 ≤ significand := canonical.2.2.2.resolve_right room.ne'
  exact ⟨canonical, normal, room, whole⟩

theorem shortest_eq (some : significand ≠ 0) (exponent : Int) : Double.shortest significand exponent =
    let (numerator, denominator) := ofUnits 2 significand exponent
    let leading := Double.floorLog10 numerator denominator
    let found := (List.range 17).findSome? fun (digits : Nat) =>
      Double.onGrid? (Double.ofParts false significand exponent) numerator denominator (leading - (digits : Int))
    (found.getD ⟨significand, exponent⟩).normalize := by
  have quotient : (if 0 ≤ exponent then (significand <<< exponent.toNat, 1) else (significand, 1 <<< (-exponent).toNat)) =
      ofUnits 2 significand exponent := by
    rw [Nat.shiftLeft_eq, Nat.shiftLeft_eq, Nat.one_mul]
    rfl
  rw [Double.shortest, if_neg some, quotient]

theorem magnitude_eq (significand : Nat) (exponent : Int) :
    Double.magnitude significand exponent = significand * 2 ^ exponent := by
  have quotient := ofUnits_value 2 significand exponent
  rw [Nat.cast_ofNat] at quotient
  rw [← quotient]
  unfold Double.magnitude ofUnits
  rw [Nat.shiftLeft_eq, Nat.shiftLeft_eq, Nat.one_mul]
  split
  · simp
  · rw [Rat.mkRat_eq_div]
    simp

theorem IsInteger.lt_pow (integer : IsInteger significand exponent number) : (number : Rat) < 2 ^ (1024 : Int) := by
  rw [← integer.whole]
  calc (significand : Rat) * 2 ^ exponent < 2 ^ 53 * 2 ^ (971 : Int) := by
        apply mul_lt_mul
        · exact_mod_cast integer.canonical.1
        · exact zpow_le_zpow_right₀ (by norm_num) integer.canonical.2.2.1
        · positivity
        · positivity
    _ = 2 ^ (1024 : Int) := by rw [← zpow_natCast, ← zpow_add₀ (by norm_num)]; rfl

/-- What the search for the shortest number finds is read back, has no digits behind the point, and is
not farther off than the number is from zero. -/
theorem IsInteger.shortest_found (integer : IsInteger significand exponent number) :
    ∃ decimal, Double.shortest significand exponent = decimal.normalize ∧ 0 ≤ decimal.exponent ∧
      decimal.toDouble false = .finite false significand exponent integer.canonical ∧ value decimal ≤ 2 * number := by
  have positive := ofUnits_positive two_pos significand exponent
  have quotient := (ofUnits_value 2 significand exponent).trans integer.whole
  rw [shortest_eq integer.some, ofParts_canonical integer.canonical]
  generalize ofUnits 2 significand exponent = pair at positive quotient ⊢
  obtain ⟨numerator, denominator⟩ := pair
  dsimp only at positive quotient ⊢
  have filled : (1 : Rat) ≤ number := by exact_mod_cast integer.positive
  obtain ⟨nonneg, low⟩ := floorLog10_bounds positive (quotient ▸ filled) (quotient ▸ integer.lt_pow)
  rw [quotient] at low
  generalize Double.floorLog10 numerator denominator = leading at nonneg low ⊢
  obtain ⟨place, inside, within, candidate, near, least, close⟩ := exists_close nonneg low
  have read : candidate.toDouble false = .finite false significand exponent integer.canonical :=
    toDouble_of_close integer.canonical integer.normal integer.room least (by rwa [integer.whole]) false
  rw [← quotient] at near
  obtain ⟨earlier, before, decimal, found, first⟩ := findSome?_range
    (fun (digits : Nat) => Double.onGrid? (.finite false significand exponent integer.canonical) numerator
      denominator (leading - (digits : Int))) inside (onGrid?_isSome near read)
  obtain ⟨around, back⟩ := of_onGrid? found
  rw [quotient] at around
  rw [first, Option.getD_some]
  refine ⟨decimal, rfl, ?_, back, around.le_twice (le_trans ?_ low)⟩
  · cases around <;> (dsimp only; omega)
  · exact zpow_le_zpow_right₀ (by norm_num) (by omega)

theorem IsInteger.coefficient_shortest (integer : IsInteger significand exponent number) :
    (Double.shortest significand exponent).coefficient ≠ 0 := by
  obtain ⟨decimal, same, _, read, _⟩ := integer.shortest_found
  have some := coefficient_of_read integer.some read
  rw [same]
  exact fun none => some (value_eq_zero_iff.mp (normalize_value decimal ▸ value_eq_zero_iff.mpr none))

theorem IsInteger.exponent_shortest (integer : IsInteger significand exponent number) :
    0 ≤ (Double.shortest significand exponent).exponent := by
  obtain ⟨decimal, same, whole, _⟩ := integer.shortest_found
  rw [same]
  exact le_trans whole (exponent_le_normalize decimal)

/-- The shortest number for an integer that is small enough is that integer. -/
theorem IsInteger.shortest_exact (integer : IsInteger significand exponent number) (small : number ≤ Nat.pow 2 52) :
    value (Double.shortest significand exponent) = number := by
  obtain ⟨decimal, same, whole, read, near⟩ := integer.shortest_found
  have natural := value_natural whole
  have some := coefficient_of_read integer.some read
  rw [same, normalize_value]
  generalize decimal.coefficient * 10 ^ decimal.exponent.toNat = found at natural
  rw [natural] at near ⊢
  have positive : 0 < found := by
    refine Nat.pos_of_ne_zero fun none => some (value_eq_zero_iff.mp ?_)
    rw [natural, none, Nat.cast_zero]
  have few : found ≤ Nat.pow 2 53 := by
    have twice : found ≤ 2 * number := by exact_mod_cast near
    calc found ≤ 2 * number := twice
      _ ≤ 2 * Nat.pow 2 52 := Nat.mul_le_mul_left 2 small
  obtain ⟨_, _, _, also, exact⟩ := toDouble_of_small positive few natural false
  cases also.symm.trans read
  rw [← exact, integer.whole]

end Integers

end CommonExpr.Proofs.ShortestDecimal

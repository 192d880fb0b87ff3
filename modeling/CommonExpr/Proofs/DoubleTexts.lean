import CommonExpr.Proofs.DoubleLiterals
import CommonExpr.Proofs.IntegerTexts
import CommonExpr.Proofs.ShortestDecimal

/-! The texts of doubles. The shortest decimal number for a finite double is read back as the double,
however small the double is, and the text of a decimal number, in each of its layouts, is that of a
number of the same value. -/

namespace CommonExpr.Proofs.DoubleTexts
open NearestDouble ShortestDecimal DoubleLiterals IntegerNumerals IntegerTexts

section Nearness
variable {significand numerator denominator : Nat} {exponent : Int} {decimal : Decimal}

/-- At the least exponent there is one unit for all significands, and seventeen digits are near enough
to each of them because a significand is less than the first power of ten of that many digits. -/
theorem nearest_of_least (canonical : Canonical significand (-1074)) (some : 0 < numerator) (positive : 0 < denominator)
    (close : |(numerator : Rat) / denominator - significand * 2 ^ (-1074 : Int)| * (2 * 10 ^ 16) ≤
      significand * 2 ^ (-1074 : Int)) (negative : Bool) :
    Double.nearest negative numerator denominator = .finite negative significand (-1074) canonical := by
  have least : (0 : Rat) < 2 ^ (-1074 : Int) := by positivity
  have few : (significand : Rat) + 1 ≤ 2 ^ 53 := by exact_mod_cast canonical.1
  have filled : (0 : Rat) < numerator / denominator := by positivity
  generalize quotient : (numerator : Rat) / denominator = number at close filled
  have unit : unitExponent number = -1074 := by
    have gap := abs_le.mp ((le_div_iff₀ (by norm_num)).mpr close)
    have high : number < (2 : Nat) ^ (-1021 : Int) := by
      have split : ((2 : Nat) : Rat) ^ (-1021 : Int) = 2 ^ 53 * 2 ^ (-1074 : Int) := by
        rw [Nat.cast_ofNat, ← zpow_natCast, ← zpow_add₀ two_ne_zero]
        norm_num
      rw [split]
      have more : (significand + 1) * (2 : Rat) ^ (-1074 : Int) ≤ 2 ^ 53 * 2 ^ (-1074 : Int) :=
        mul_le_mul_of_nonneg_right few least.le
      have bounded : (significand : Rat) * 2 ^ (-1074 : Int) / (2 * 10 ^ 16) < 2 ^ (-1074 : Int) := by
        rw [div_lt_iff₀ (by norm_num)]
        have fewer : (significand : Rat) < 2 * 10 ^ 16 := by linarith
        nlinarith
      linarith
    have log : Int.log 2 number < -1021 := (Int.lt_zpow_iff_log_lt (by decide) filled).mp high
    rw [unitExponent]
    omega
  have near : |number - significand * 2 ^ (-1074 : Int)| < 2 ^ (-1074 : Int) / 2 := by
    have fewer : (significand : Rat) < 10 ^ 16 := by linarith
    have scaled : (significand : Rat) * 2 ^ (-1074 : Int) < 10 ^ 16 * 2 ^ (-1074 : Int) :=
      mul_lt_mul_of_pos_right fewer least
    linarith
  subst quotient
  rw [nearest_of_unit significand some positive unit near, if_neg canonical.1.ne, ofParts_canonical canonical]

/-- A quotient as near to a double as seventeen digits come is rounded to it. -/
theorem nearest_of_near (canonical : Canonical significand exponent) (some : 0 < numerator) (positive : 0 < denominator)
    (close : |(numerator : Rat) / denominator - significand * 2 ^ exponent| * (2 * 10 ^ 16) ≤ significand * 2 ^ exponent)
    (negative : Bool) :
    Double.nearest negative numerator denominator = .finite negative significand exponent canonical := by
  by_cases least : exponent = -1074
  · subst least
    exact nearest_of_least canonical some positive close negative
  · have room : -1074 < exponent := lt_of_le_of_ne canonical.2.1 (Ne.symm least)
    exact nearest_of_close canonical (canonical.2.2.2.resolve_right least) room some positive close negative

private theorem least_magnitude : (10 : Rat) ^ (-400 : Int) ≤ 2 ^ (-1074 : Int) / 2 := by
  have power : 2 ^ 1074 * 2 ≤ 10 ^ 400 := by decide +kernel
  have least : (2 : Rat) ^ 1074 * 2 ≤ 10 ^ 400 := by exact_mod_cast power
  rw [zpow_neg, zpow_neg, zpow_ofNat, zpow_ofNat, div_eq_mul_inv, ← mul_inv]
  exact inv_anti₀ (by positivity) least

/-- Such a number lies within the range in which decimal numbers are computed. -/
theorem toDouble_of_near (canonical : Canonical significand exponent) (some : significand ≠ 0)
    (close : |value decimal - significand * 2 ^ exponent| * (2 * 10 ^ 16) ≤ significand * 2 ^ exponent)
    (negative : Bool) : decimal.toDouble negative = .finite negative significand exponent canonical := by
  have least : (2 : Rat) ^ (-1074 : Int) ≤ significand * 2 ^ exponent := by
    calc (2 : Rat) ^ (-1074 : Int) ≤ 2 ^ exponent := zpow_le_zpow_right₀ (by norm_num) canonical.2.1
      _ ≤ significand * 2 ^ exponent := by
        apply le_mul_of_one_le_left (by positivity)
        exact_mod_cast Nat.pos_of_ne_zero some
  have nonneg : (0 : Rat) < significand * 2 ^ exponent := lt_of_lt_of_le (by positivity) least
  have gap := abs_le.mp ((le_div_iff₀ (by norm_num)).mpr close)
  have low : (10 : Rat) ^ (-400 : Int) ≤ value decimal := by
    calc (10 : Rat) ^ (-400 : Int) ≤ 2 ^ (-1074 : Int) / 2 := least_magnitude
      _ ≤ significand * 2 ^ exponent / 2 := by linarith
      _ ≤ value decimal := by linarith
  have high : value decimal < 10 ^ (400 : Int) := by
    calc value decimal ≤ significand * 2 ^ exponent * 2 := by linarith
      _ < 10 ^ 400 := magnitude_lt canonical
      _ = 10 ^ (400 : Int) := (zpow_ofNat _ _).symm
  have positive : (0 : Rat) < value decimal := lt_of_lt_of_le (by positivity) low
  have filled : decimal.coefficient ≠ 0 := fun none => positive.ne' (value_eq_zero_iff.mpr none)
  have above : -400 ≤ Int.log 10 (value decimal) := (Int.zpow_le_iff_le_log (by decide) positive).mp low
  have below : Int.log 10 (value decimal) < 400 := (Int.lt_zpow_iff_log_lt (by decide) positive).mp high
  have parted : 0 < (parts decimal).1 := by
    have divisor : (0 : Rat) < (parts decimal).2 := by exact_mod_cast parts_positive decimal
    exact_mod_cast (div_pos_iff_of_pos_right divisor).mp (parts_value decimal ▸ positive)
  rw [toDouble_eq, if_neg filled, pointPosition_eq filled, if_neg (by omega), if_neg (by omega)]
  refine nearest_of_near canonical parted (parts_positive _) ?_ negative
  rwa [parts_value]

end Nearness

section Search
variable {numerator denominator significand : Nat} {leading exponent : Int} {number : Rat}

/-- The factor in the estimate is a little more than the logarithm of two, for negative exponents too. -/
theorem estimate_inverse_le (places : Nat) (small : places ≤ 1074) :
    2 ^ places ≤ 10 ^ ((places * 30103 + 99999) / 100000) := by
  have table : ∀ places < 1075, 2 ^ places ≤ 10 ^ ((places * 30103 + 99999) / 100000) := by decide +kernel
  exact table places (by omega)

private theorem estimate_zpow_le (power : Int) (low : -1074 ≤ power) (high : power < 1024) :
    (10 : Rat) ^ (power * 30103 / 100000 - 1) ≤ 2 ^ power := by
  rcases Int.le_total 0 power with nonneg | negative
  · obtain ⟨places, rfl⟩ := Int.eq_ofNat_of_zero_le nonneg
    have guess : (places : Int) * 30103 / 100000 = (places * 30103 / 100000 : Nat) := by omega
    have estimate : (10 : Rat) ^ (places * 30103 / 100000) ≤ 10 * 2 ^ places := by
      exact_mod_cast estimate_le places (by omega)
    rw [guess, zpow_sub_one₀ (by norm_num), zpow_natCast, zpow_natCast]
    linarith
  · obtain ⟨places, rfl⟩ : ∃ places : Nat, power = -places := ⟨power.natAbs, by omega⟩
    have guess : -(places : Int) * 30103 / 100000 = -((places * 30103 + 99999) / 100000 : Nat) := by omega
    have estimate : (2 : Rat) ^ places ≤ 10 ^ ((places * 30103 + 99999) / 100000) := by
      exact_mod_cast estimate_inverse_le places (by omega)
    rw [guess]
    generalize (places * 30103 + 99999) / 100000 = digits at estimate ⊢
    calc (10 : Rat) ^ (-(digits : Int) - 1) ≤ 10 ^ (-(digits : Int)) := zpow_le_zpow_right₀ (by norm_num) (by omega)
      _ = (10 ^ digits)⁻¹ := by rw [zpow_neg, zpow_natCast]
      _ ≤ (2 ^ places)⁻¹ := inv_anti₀ (by positivity) estimate
      _ = 2 ^ (-(places : Int)) := by rw [zpow_neg, zpow_natCast]

/-- The estimated power of ten is not more than the number. -/
theorem floorLog10_le (some : 0 < numerator) (positive : 0 < denominator)
    (least : (2 : Rat) ^ (-1074 : Int) ≤ numerator / denominator)
    (most : (numerator : Rat) / denominator < 2 ^ (1024 : Int)) :
    (10 : Rat) ^ Double.floorLog10 numerator denominator ≤ numerator / denominator := by
  rw [floorLog10_eq positive, floorLog2_eq some positive]
  have filled : (0 : Rat) < numerator / denominator := by positivity
  generalize (numerator : Rat) / denominator = number at *
  have low : -1074 ≤ Int.log 2 number := (Int.zpow_le_iff_le_log (by decide) filled).mp least
  have high : Int.log 2 number < 1024 := (Int.lt_zpow_iff_log_lt (by decide) filled).mp most
  have reached : ((2 : Nat) : Rat) ^ Int.log 2 number ≤ number := Int.zpow_log_le_self (by decide) filled
  dsimp only
  split
  next more => exact more
  next =>
    split
    next exact => exact exact
    next => exact le_trans (estimate_zpow_le _ low high) (by exact_mod_cast reached)

/-- On a grid of seventeen digits the nearer one of the two numbers around another is near enough. -/
theorem exists_near (nonneg : 0 ≤ number) (low : (10 : Rat) ^ leading ≤ number) :
    ∃ decimal, OnGrid number (leading - 16) decimal ∧ |value decimal - number| * (2 * 10 ^ 16) ≤ number := by
  have split : (10 : Rat) ^ leading = 10 ^ 16 * 10 ^ (leading - 16) := by
    rw [zpow_sub₀ (by norm_num)]
    norm_num
    ring
  rw [split] at low
  have unit : (0 : Rat) < 10 ^ (leading - 16) := by positivity
  have lower : reach number (leading - 16) * (10 : Rat) ^ (leading - 16) ≤ number :=
    (le_div_iff₀ unit).mp (Nat.floor_le (by positivity))
  have upper : number < (reach number (leading - 16) + 1) * 10 ^ (leading - 16) :=
    (div_lt_iff₀ unit).mp (Nat.lt_floor_add_one _)
  have held (decimal : Decimal) (close : |value decimal - number| ≤ 10 ^ (leading - 16) / 2) :
      |value decimal - number| * (2 * 10 ^ 16) ≤ number := by linarith
  rcases le_total (number - reach number (leading - 16) * 10 ^ (leading - 16)) (10 ^ (leading - 16) / 2) with
    nearer | farther
  · refine ⟨_, .below, held _ ?_⟩
    simp only [value]
    rw [abs_le]
    constructor <;> linarith
  · refine ⟨_, .above, held _ ?_⟩
    simp only [value]
    push_cast
    rw [abs_le]
    constructor <;> linarith

private theorem magnitude_bounds (canonical : Canonical significand exponent) (some : significand ≠ 0) :
    (2 : Rat) ^ (-1074 : Int) ≤ significand * 2 ^ exponent ∧ (significand : Rat) * 2 ^ exponent < 2 ^ (1024 : Int) := by
  constructor
  · calc (2 : Rat) ^ (-1074 : Int) ≤ 2 ^ exponent := zpow_le_zpow_right₀ (by norm_num) canonical.2.1
      _ ≤ significand * 2 ^ exponent := by
        apply le_mul_of_one_le_left (by positivity)
        exact_mod_cast Nat.pos_of_ne_zero some
  · calc (significand : Rat) * 2 ^ exponent < 2 ^ 53 * 2 ^ (971 : Int) := by
          apply mul_lt_mul
          · exact_mod_cast canonical.1
          · exact zpow_le_zpow_right₀ (by norm_num) canonical.2.2.1
          · positivity
          · positivity
      _ = 2 ^ (1024 : Int) := by rw [← zpow_natCast, ← zpow_add₀ (by norm_num)]; rfl

/-- Whatever the search for the shortest number comes to is read back. -/
theorem shortest_read (canonical : Canonical significand exponent) (some : significand ≠ 0) (negative : Bool) :
    (Double.shortest significand exponent).toDouble negative = .finite negative significand exponent canonical := by
  obtain ⟨least, most⟩ := magnitude_bounds canonical some
  have positive := ofUnits_positive two_pos significand exponent
  have quotient := ofUnits_value 2 significand exponent
  rw [Nat.cast_ofNat] at quotient
  apply toDouble_sign
  rw [shortest_eq some, ofParts_canonical canonical]
  generalize ofUnits 2 significand exponent = pair at positive quotient ⊢
  obtain ⟨numerator, denominator⟩ := pair
  dsimp only at positive quotient ⊢
  have filled : 0 < numerator := by
    have below : (0 : Rat) < denominator := by exact_mod_cast positive
    have whole : (0 : Rat) < numerator / denominator := quotient ▸ lt_of_lt_of_le (by positivity) least
    exact_mod_cast (div_pos_iff_of_pos_right below).mp whole
  have low := floorLog10_le filled positive (quotient ▸ least) (quotient ▸ most)
  rw [quotient] at low
  obtain ⟨candidate, near, close⟩ := exists_near (by positivity) low
  have read : candidate.toDouble false = .finite false significand exponent canonical :=
    toDouble_of_near canonical some close false
  rw [← quotient] at near
  obtain ⟨_, _, decimal, found, first⟩ := findSome?_range
    (fun (digits : Nat) => Double.onGrid? (.finite false significand exponent canonical) numerator denominator
      (Double.floorLog10 numerator denominator - (digits : Int))) (by decide : 16 < 17) (onGrid?_isSome near read)
  rw [first, Option.getD_some, toDouble_congr (normalize_value decimal)]
  exact (of_onGrid? found).2

end Search

section Layouts
variable {digits whole fraction rest : List Char} {decimal : Decimal}

theorem dropWhile_before (all : ∀ c ∈ digits, c.isDigit) (stops : ∀ c ∈ rest.head?, c.isDigit = false) :
    (digits ++ rest).dropWhile Char.isDigit = rest := by
  rw [List.dropWhile_append_of_pos all]
  cases rest with
  | nil => rfl
  | cons c others => rw [List.dropWhile_cons_of_neg (by simp [stops c rfl])]

private theorem digits_counted (all : ∀ c ∈ digits, c.isDigit) :
    Text.ofDigits 10 (digits.filterMap Text.decimalDigit?) = Nat.ofDigitChars 10 digits 0 := by
  have values : digits.filterMap Text.decimalDigit? = digits.map fun c => c.toNat - '0'.toNat := by
    rw [← List.filterMap_eq_map]
    apply List.filterMap_congr
    intro c member
    have digit := all c member
    rw [decimalDigit?_ascii (Nat.lt_succ_of_lt (isDigit_small digit)), if_pos digit]
    rfl
  rw [values, Text.ofDigits, List.foldl_map]
  rfl

/-- Digits with a point between them, and what stands behind them. -/
theorem readDecimal?_pointed (filled : whole ≠ []) (all : ∀ c ∈ whole ++ fraction, c.isDigit)
    (stops : ∀ c ∈ rest.head?, c.isDigit = false) : readDecimal? (whole ++ '.' :: (fraction ++ rest)) =
      (readExponent? rest).map fun exponent => ⟨Nat.ofDigitChars 10 (whole ++ fraction) 0, exponent - fraction.length⟩ := by
  obtain ⟨before, behind⟩ := List.forall_mem_append.mp all
  have point : ∀ c ∈ ('.' :: (fraction ++ rest)).head?, c.isDigit = false := by
    rintro _ ⟨⟩
    rfl
  rw [readDecimal?_eq, takeWhile_before before point, dropWhile_before before point]
  simp only [splitPoint, takeWhile_before behind stops, dropWhile_before behind stops, digits_counted all,
    List.isEmpty_eq_false_iff.mpr filled, Bool.false_and, Bool.false_eq_true, if_false]

/-- Digits without a point, and what stands behind them. -/
theorem readDecimal?_whole (filled : whole ≠ []) (all : ∀ c ∈ whole, c.isDigit)
    (stops : ∀ c ∈ rest.head?, c.isDigit = false ∧ c ≠ '.') : readDecimal? (whole ++ rest) =
      (readExponent? rest).map fun exponent => ⟨Nat.ofDigitChars 10 whole 0, exponent⟩ := by
  have mark : ∀ c ∈ rest.head?, c.isDigit = false := fun c first => (stops c first).1
  have unpointed : splitPoint rest = ([], rest) := by
    unfold splitPoint
    split
    next => exact absurd rfl (stops '.' rfl).2
    next => rfl
  rw [readDecimal?_eq, takeWhile_before all mark, dropWhile_before all mark, unpointed]
  simp [digits_counted all, filled]

/-- A decimal text that starts with a digit, that is not made of digits only, and that is read as a number
of the given value. -/
structure Reads (characters : List Char) (decimal : Decimal) : Prop where
  starts : ∃ first others, characters = first :: others ∧ first.isDigit
  mark : ∃ c ∈ characters, c.isDigit = false
  read : ∃ other, readDecimal? characters = some other ∧ value other = value decimal

theorem Reads.pointed (filled : whole ≠ []) (all : ∀ c ∈ whole ++ fraction, c.isDigit)
    (same : value ⟨Nat.ofDigitChars 10 (whole ++ fraction) 0, -fraction.length⟩ = value decimal) :
    Reads (whole ++ '.' :: fraction) decimal where
  starts := by
    obtain ⟨first, others, rfl⟩ := List.exists_cons_of_ne_nil filled
    exact ⟨first, others ++ '.' :: fraction, rfl, all first (by simp)⟩
  mark := ⟨'.', by simp, rfl⟩
  read := by
    have stops : ∀ c ∈ ([] : List Char).head?, c.isDigit = false := nofun
    have read := readDecimal?_pointed filled all stops
    rw [List.append_nil] at read
    exact ⟨_, read, by simpa [readExponent?] using same⟩

theorem padded_digits (padding number : Nat) :
    ∀ c ∈ List.replicate padding '0' ++ Nat.toDigits 10 number, c.isDigit := by
  refine List.forall_mem_append.mpr ⟨fun c member => ?_, toDigits_isDigit number⟩
  rw [List.eq_of_mem_replicate member]
  rfl

theorem padded_counted (padding number : Nat) :
    Nat.ofDigitChars 10 (List.replicate padding '0' ++ Nat.toDigits 10 number) 0 = number := by
  rw [Nat.ofDigitChars_append, Nat.ofDigitChars_replicate_zero, Nat.mul_zero, Nat.ofDigitChars_ten_toDigits]

private theorem readExponent?_written (negative : Bool) (places padding : Nat) :
    readExponent? ('e' :: (if negative then '-' else '+') :: (List.replicate padding '0' ++ Nat.toDigits 10 places)) =
      some (if negative then -(places : Int) else places) := by
  have digits := padded_digits padding places
  have counted := digits_counted digits
  rw [padded_counted] at counted
  have filled : List.replicate padding '0' ++ Nat.toDigits 10 places ≠ [] := by simp
  generalize List.replicate padding '0' ++ Nat.toDigits 10 places = tail at digits counted filled ⊢
  have whole : tail.all Char.isDigit := List.all_eq_true.mpr digits
  cases negative <;> simp [readExponent?, splitSign, filled, whole, counted]

/-- One digit, the others behind a point if there are any, and an exponent with its sign. -/
theorem Reads.scientific {first : Char} {others : List Char} (digit : first.isDigit) (all : ∀ c ∈ others, c.isDigit)
    (negative : Bool) (places padding : Nat)
    (same : value ⟨Nat.ofDigitChars 10 (first :: others) 0,
      (if negative then -(places : Int) else places) - others.length⟩ = value decimal) :
    Reads (first :: (if others.length = 0 then [] else '.' :: others) ++
      'e' :: (if negative then '-' else '+') :: (List.replicate padding '0' ++ Nat.toDigits 10 places)) decimal where
  starts := ⟨first, _, rfl, digit⟩
  mark := ⟨'e', by simp, rfl⟩
  read := by
    have exponent := readExponent?_written negative places padding
    generalize (if negative then '-' else '+') :: (List.replicate padding '0' ++ Nat.toDigits 10 places) = tail at *
    cases others with
    | nil =>
      have stops : ∀ c ∈ ('e' :: tail).head?, c.isDigit = false ∧ c ≠ '.' := by
        rintro _ ⟨⟩
        exact ⟨rfl, by decide⟩
      have read := readDecimal?_whole (List.cons_ne_nil first []) (by simpa using digit) stops
      rw [exponent] at read
      exact ⟨_, read, by simpa using same⟩
    | cons second more =>
      have stops : ∀ c ∈ ('e' :: tail).head?, c.isDigit = false := by
        rintro _ ⟨⟩
        rfl
      have digits : ∀ c ∈ [first] ++ second :: more, c.isDigit := List.forall_mem_cons.mpr ⟨digit, all⟩
      have read := readDecimal?_pointed (List.cons_ne_nil first []) digits stops
      rw [exponent] at read
      exact ⟨_, by simpa using read, same⟩

end Layouts

section Texts
variable {decimal : Decimal}

private theorem pointPosition_digits (decimal : Decimal) :
    decimal.pointPosition = decimal.exponent + (Nat.toDigits 10 decimal.coefficient).length := rfl

/-- Zeros between the point and the digits. -/
theorem reads_fraction (low : decimal.pointPosition ≤ 0) :
    Reads (['0'] ++ '.' :: (List.replicate (-decimal.pointPosition).toNat '0' ++ Nat.toDigits 10 decimal.coefficient))
      decimal := by
  have digits := padded_digits (-decimal.pointPosition).toNat decimal.coefficient
  apply Reads.pointed (List.cons_ne_nil _ _)
  · exact List.forall_mem_cons.mpr ⟨rfl, digits⟩
  · have position := pointPosition_digits decimal
    have places : -((List.replicate (-decimal.pointPosition).toNat '0' ++ Nat.toDigits 10 decimal.coefficient).length : Int) =
        decimal.exponent := by
      rw [List.length_append, List.length_replicate]
      omega
    have counted : Nat.ofDigitChars 10
        (['0'] ++ (List.replicate (-decimal.pointPosition).toNat '0' ++ Nat.toDigits 10 decimal.coefficient)) 0 =
          decimal.coefficient := padded_counted ((-decimal.pointPosition).toNat + 1) decimal.coefficient
    rw [places, counted]

/-- The point between two digits. -/
theorem reads_split (high : 0 < decimal.pointPosition)
    (inside : decimal.pointPosition < (Nat.toDigits 10 decimal.coefficient).length) :
    Reads ((Nat.toDigits 10 decimal.coefficient).take decimal.pointPosition.toNat ++
      '.' :: (Nat.toDigits 10 decimal.coefficient).drop decimal.pointPosition.toNat) decimal := by
  apply Reads.pointed
  · apply List.ne_nil_of_length_pos
    rw [List.length_take]
    omega
  · rw [List.take_append_drop]
    exact toDigits_isDigit _
  · have position := pointPosition_digits decimal
    have places : -(((Nat.toDigits 10 decimal.coefficient).drop decimal.pointPosition.toNat).length : Int) =
        decimal.exponent := by
      rw [List.length_drop]
      omega
    rw [places, List.take_append_drop, Nat.ofDigitChars_ten_toDigits]

/-- Zeros between the digits and the point. -/
theorem reads_whole (high : ((Nat.toDigits 10 decimal.coefficient).length : Int) ≤ decimal.pointPosition) :
    Reads ((Nat.toDigits 10 decimal.coefficient ++
      List.replicate (decimal.pointPosition.toNat - (Nat.toDigits 10 decimal.coefficient).length) '0') ++ '.' :: ['0'])
        decimal := by
  have position := pointPosition_digits decimal
  have zeros : decimal.pointPosition.toNat - (Nat.toDigits 10 decimal.coefficient).length = decimal.exponent.toNat := by
    omega
  rw [zeros]
  apply Reads.pointed
  · simp
  · intro c member
    rw [List.append_assoc, ← List.replicate_succ'] at member
    rcases List.mem_append.mp member with digit | zero
    · exact toDigits_isDigit _ c digit
    · rw [List.eq_of_mem_replicate zero]
      rfl
  · rw [List.append_assoc, ← List.replicate_succ', Nat.ofDigitChars_append, Nat.ofDigitChars_replicate_zero,
      Nat.ofDigitChars_ten_toDigits]
    obtain ⟨coefficient, exponent⟩ := decimal
    obtain ⟨power, rfl⟩ : ∃ power : Nat, exponent = power := ⟨exponent.toNat, by dsimp only at *; omega⟩
    simp only [value, Int.toNat_natCast, List.length_singleton, pow_succ]
    push_cast
    simp
    ring

/-- One digit before the point, and an exponent. -/
theorem reads_scientific (decimal : Decimal) :
    Reads ((Nat.toDigits 10 decimal.coefficient).take 1 ++
      (if (Nat.toDigits 10 decimal.coefficient).length ≤ 1 then [] else '.' :: (Nat.toDigits 10 decimal.coefficient).drop 1) ++
        'e' :: (if decimal.pointPosition - 1 < 0 then '-' else '+') ::
          (List.replicate (2 - (Nat.toDigits 10 (decimal.pointPosition - 1).natAbs).length) '0' ++
            Nat.toDigits 10 (decimal.pointPosition - 1).natAbs)) decimal := by
  have position := pointPosition_digits decimal
  have digits := toDigits_isDigit decimal.coefficient
  have counted : Nat.ofDigitChars 10 (Nat.toDigits 10 decimal.coefficient) 0 = decimal.coefficient :=
    Nat.ofDigitChars_ten_toDigits
  obtain ⟨first, others, shape⟩ := List.exists_cons_of_ne_nil (Nat.toDigits_ne_nil (n := decimal.coefficient) (b := 10))
  rw [shape] at position digits counted ⊢
  obtain ⟨digit, all⟩ := List.forall_mem_cons.mp digits
  have places : (if decide (decimal.pointPosition - 1 < 0) then -((decimal.pointPosition - 1).natAbs : Int)
      else (decimal.pointPosition - 1).natAbs) - others.length = decimal.exponent := by
    rw [List.length_cons] at position
    simp only [decide_eq_true_eq]
    split <;> omega
  have same : value ⟨Nat.ofDigitChars 10 (first :: others) 0, (if decide (decimal.pointPosition - 1 < 0) then
      -((decimal.pointPosition - 1).natAbs : Int) else (decimal.pointPosition - 1).natAbs) - others.length⟩ =
        value decimal := by
    rw [places, counted]
  have text := Reads.scientific digit all (decide (decimal.pointPosition - 1 < 0)) (decimal.pointPosition - 1).natAbs
    (2 - (Nat.toDigits 10 (decimal.pointPosition - 1).natAbs).length) same
  simpa using text

/-- The text of a decimal number other than zero is read as a number of the same value. -/
theorem unsignedText_reads (some : decimal.coefficient ≠ 0) : Reads (Double.unsignedText decimal).toList decimal := by
  unfold Double.unsignedText
  dsimp only
  rw [if_neg some]
  split
  next near =>
    split
    next low => simpa using reads_fraction low
    next high =>
      split
      next inside => simpa using reads_split (by omega) inside
      next outside => simpa using reads_whole (by omega)
  next =>
    have fraction : (if (Nat.toDigits 10 decimal.coefficient).length ≤ 1 then ""
        else "." ++ String.ofList ((Nat.toDigits 10 decimal.coefficient).drop 1)).toList =
          if (Nat.toDigits 10 decimal.coefficient).length ≤ 1 then []
          else '.' :: (Nat.toDigits 10 decimal.coefficient).drop 1 := by
      split <;> simp
    have sign : (if decimal.pointPosition - 1 < 0 then "e-" else "e+").toList =
        ['e', if decimal.pointPosition - 1 < 0 then '-' else '+'] := by
      split <;> rfl
    have text := reads_scientific decimal
    simp only [String.toList_append, String.toList_ofList, fraction, sign]
    simpa only [List.append_assoc, List.cons_append, List.nil_append] using text

end Texts

end CommonExpr.Proofs.DoubleTexts

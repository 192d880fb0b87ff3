import CommonExpr.Number.Text
import CommonExpr.Proofs.LexemeExtent
import CommonExpr.Proofs.NumberPlaces
import CommonExpr.Proofs.ShortestDecimal

/-! The doubles that literals stand for. The lexeme of a double is a decimal number, and what a decimal
number without a sign is rounded to is a number of at least zero. Two doubles of that sort are equal
only if they are the same. -/

namespace CommonExpr.Proofs.DoubleLiterals
open Lexeme LexemeExtent NearestDouble NumberPlaces ShortestDecimal

section Numbers
variable {significand other : Nat} {exponent power : Int}

/-- No magnitude has two significands: below the greater exponent the significand would need one bit more. -/
theorem canonical_unique (first : Canonical significand exponent) (second : Canonical other power)
    (same : (significand : Rat) * 2 ^ exponent = other * 2 ^ power) : significand = other ∧ exponent = power := by
  have least {significand other : Nat} {exponent power : Int} (first : Canonical significand exponent)
      (second : Canonical other power) (same : (significand : Rat) * 2 ^ exponent = other * 2 ^ power) :
      power ≤ exponent := by
    by_contra! less
    obtain ⟨places, rfl⟩ : ∃ places : Nat, power = exponent + 1 + places := ⟨(power - exponent - 1).toNat, by omega⟩
    have full : Nat.pow 2 52 ≤ other := second.2.2.2.resolve_right (by have := first.2.1; omega)
    have whole : significand = other * 2 * 2 ^ places := by
      have scale : (2 : Rat) ^ exponent ≠ 0 := by positivity
      rw [zpow_add₀ two_ne_zero, zpow_add₀ two_ne_zero, zpow_natCast, zpow_one] at same
      have cancelled : (significand : Rat) = other * 2 * 2 ^ places := by
        apply mul_right_cancel₀ scale
        rw [same]
        ring
      exact_mod_cast cancelled
    have more : other * 2 ≤ significand := whole ▸ Nat.le_mul_of_pos_right _ (by positivity)
    have few : significand < Nat.pow 2 53 := first.1
    have double : Nat.pow 2 53 = Nat.pow 2 52 * 2 := by decide
    omega
  have level : exponent = power := le_antisymm (least second first same.symm) (least first second same)
  subst level
  have scale : (2 : Rat) ^ exponent ≠ 0 := by positivity
  exact ⟨by exact_mod_cast mul_right_cancel₀ scale same, rfl⟩

/-- A double that a literal can be: it is a number, and no sign belongs to it. -/
def Plain (value : Double) : Prop :=
  value.isNegative = false ∧ ∀ mark, value ≠ .nan mark

/-- Such doubles that are equal numbers are one double. -/
theorem plain_equals_iff {first second : Double} (plain : Plain first) (also : Plain second) :
    (Number.double first).equals (.double second) = true ↔ first = second := by
  rw [equals_iff]
  constructor
  · rintro ⟨place, here, there⟩
    cases first with
    | nan mark => exact absurd rfl (plain.2 mark)
    | infinity negative =>
      obtain rfl : negative = false := plain.1
      cases second with
      | nan mark => exact absurd rfl (also.2 mark)
      | infinity negative => obtain rfl : negative = false := also.1; rfl
      | finite => cases here; cases there
    | finite negative significand exponent canonical =>
      obtain rfl : negative = false := plain.1
      cases second with
      | nan mark => exact absurd rfl (also.2 mark)
      | infinity negative =>
        obtain rfl : negative = false := also.1
        cases here
        cases there
      | finite negative other power canonical' =>
        obtain rfl : negative = false := also.1
        simp only [Number.extent?, Double.toRat?, Option.map_some, Bool.false_eq_true, if_false] at here there
        cases here
        have same := Extent.point.inj (Option.some.inj there)
        rw [magnitude_eq, magnitude_eq] at same
        obtain ⟨rfl, rfl⟩ := canonical_unique canonical canonical' same.symm
        rfl
  · rintro rfl
    obtain ⟨place, found⟩ := extent_of_number (.double first) (by
      cases first with
      | nan mark => exact absurd rfl (plain.2 mark)
      | infinity | finite => rfl)
    exact ⟨place, found, found⟩

private theorem plain_finite (significand : Nat) (exponent : Int) (canonical : Canonical significand exponent) :
    Plain (.finite false significand exponent canonical) :=
  ⟨rfl, fun _ same => by cases same⟩

private theorem plain_infinity : Plain (.infinity false) :=
  ⟨rfl, fun _ same => by cases same⟩

private theorem plain_ofParts (significand : Nat) (exponent : Int) : Plain (.ofParts false significand exponent) := by
  unfold Double.ofParts
  split
  · exact plain_finite _ _ _
  · exact plain_infinity

private theorem plain_nearest (numerator denominator : Nat) : Plain (.nearest false numerator denominator) := by
  unfold Double.nearest
  split
  · exact plain_finite _ _ _
  · dsimp only
    generalize (if 0 ≤ max (floorLog2 numerator denominator - 52) (-1074) then _ else _ : Nat) = rounded
    split <;> exact plain_ofParts _ _

theorem plain_toDouble (decimal : Decimal) : Plain (decimal.toDouble false) := by
  rw [toDouble_eq]
  split
  · exact plain_finite _ _ _
  · split
    · exact plain_infinity
    · split
      · exact plain_finite _ _ _
      · exact plain_nearest _ _

end Numbers

section Lexemes

private theorem wordKind_not_double (word : List Char) : wordKind word ≠ .double := by
  unfold wordKind
  split <;> decide

private theorem symbol?_not_double {source : List Char} {kind : TokenKind} {length : Nat}
    (found : symbol? source = some (kind, length)) : kind ≠ .double := by
  unfold symbol? at found
  split at found <;> cases found <;> decide

private theorem read_double {source : List Char} {length : Nat} (found : Lexeme.read source = .token .double length) :
    (∃ c others, source = c :: others ∧ c.isDigit) ∧ Lexeme.number source = .token .double length := by
  cases source with
  | nil => cases found
  | cons c others =>
    rcases read_cases c others with ⟨_, same⟩ | ⟨_, _, _, _, _, same⟩ | ⟨_, _, _, _, _, same⟩ | ⟨_, _, same⟩
    · cases (stringLiteral_bounds (same ▸ found)).1
    · cases (stringLiteral_bounds (same ▸ found)).1
    · cases (delimited_bounds (same ▸ found)).1
    · rw [same, unquoted] at found
      split at found
      next digit => exact ⟨⟨c, others, rfl, digit⟩, found⟩
      next =>
        split at found
        next => exact absurd (Lexeme.token.inj found).1 (wordKind_not_double _)
        next =>
          cases symbol : symbol? (c :: others) with
          | none => simp only [symbol] at found; cases found
          | some pair =>
            obtain ⟨made, length⟩ := pair
            simp only [symbol] at found
            exact absurd (Lexeme.token.inj found).1 (symbol?_not_double symbol)

private theorem dropWhile_eq_drop (source : List Char) :
    source.dropWhile Char.isDigit = source.drop (digitCount source) := by
  conv_rhs => arg 2; rw [← List.takeWhile_append_dropWhile (p := Char.isDigit) (l := source)]
  rw [digitCount, List.drop_left]

private theorem digits_of_count {source : List Char} (whole : digitCount source = source.length) :
    source.all Char.isDigit := by
  have same : source.takeWhile Char.isDigit = source := (List.takeWhile_prefix _).eq_of_length whole
  rw [← same]
  exact List.all_takeWhile

private theorem splitSign_eq_drop (sign : Char) (others : List Char) :
    (splitSign (sign :: others)).2 = (sign :: others).drop (signLength sign) := by
  by_cases minus : sign = '-'
  · subst minus
    rfl
  · by_cases plus : sign = '+'
    · subst plus
      rfl
    · simp [splitSign, signLength, minus, plus]

/-- An exponent that reaches to the end is read. -/
theorem readExponent?_isSome {source : List Char} (whole : exponentLength source = source.length) :
    (readExponent? source).isSome := by
  match source with
  | [] => rfl
  | [mark] => simp [exponentLength, digitCount] at whole
  | mark :: sign :: others =>
    rw [exponentLength_cons] at whole
    split at whole
    next marked =>
      have all : digitCount ((sign :: others).drop (signLength sign)) =
          ((sign :: others).drop (signLength sign)).length := by
        rw [List.length_cons] at whole
        rw [List.length_drop]
        omega
      have filled : (sign :: others).drop (signLength sign) ≠ [] := by
        intro none
        rw [none] at marked
        exact marked.2 rfl
      unfold readExponent?
      dsimp only
      rw [splitSign_eq_drop, if_pos ⟨marked.1, filled, digits_of_count all⟩]
      rfl
    next => cases whole

/-- The digits behind a point, and what stands behind them. -/
def splitPoint : List Char → List Char × List Char
  | '.' :: rest => (rest.takeWhile Char.isDigit, rest.dropWhile Char.isDigit)
  | rest => ([], rest)

theorem readDecimal?_eq (source : List Char) : readDecimal? source =
    let whole := source.takeWhile Char.isDigit
    let (fraction, rest) := splitPoint (source.dropWhile Char.isDigit)
    if whole.isEmpty && fraction.isEmpty then none
    else (readExponent? rest).map fun exponent =>
      ⟨Text.ofDigits 10 ((whole ++ fraction).filterMap Text.decimalDigit?), exponent - fraction.length⟩ := by
  generalize parts : splitPoint (source.dropWhile Char.isDigit) = pair
  have same : readDecimal? source = (do
      if (source.takeWhile Char.isDigit).isEmpty && pair.1.isEmpty then none
      let exponent ← readExponent? pair.2
      return ⟨Text.ofDigits 10 ((source.takeWhile Char.isDigit ++ pair.1).filterMap Text.decimalDigit?),
        exponent - pair.1.length⟩) := by
    rw [← parts]
    rfl
  rw [same]
  dsimp only
  split
  · rfl
  · cases readExponent? pair.2 <;> rfl

private theorem splitPoint_behind {tail : List Char}
    (some : ¬fractionLength tail + exponentLength (tail.drop (fractionLength tail)) = 0) :
    (splitPoint tail).2 = tail.drop (fractionLength tail) := by
  by_cases pointed : ∃ rest, tail = '.' :: rest
  · obtain ⟨rest, rfl⟩ := pointed
    by_cases bare : digitCount rest = 0
    · have silent : exponentLength ('.' :: rest) = 0 := by simp [exponentLength]
      simp [fractionLength, bare, silent] at some
    · simp only [splitPoint, fractionLength, bare, if_false, List.drop_succ_cons, dropWhile_eq_drop]
  · have none : fractionLength tail = 0 := by
      unfold fractionLength
      split
      next rest => exact absurd ⟨rest, rfl⟩ pointed
      next => rfl
    rw [none, List.drop_zero]
    unfold splitPoint
    split
    next rest => exact absurd ⟨rest, rfl⟩ pointed
    next => rfl

/-- The lexeme of a double is a decimal number. -/
theorem readDecimal?_isSome {source : List Char} (found : Lexeme.read source = .token .double source.length) :
    (readDecimal? source).isSome := by
  obtain ⟨⟨c, others, front, digit⟩, number⟩ := read_double found
  have plain : hexLength source = 0 := by
    by_contra hex
    unfold Lexeme.number at number
    dsimp only at number
    rw [if_pos hex] at number
    rcases (integerEnd_eq_token number).2.2 with kind | kind <;> cases kind
  rw [decimal_eq source plain] at number
  dsimp only at number
  split at number
  next => rcases (integerEnd_eq_token number).2.2 with kind | kind <;> cases kind
  next some =>
    have total := (Lexeme.token.inj number).2
    have filled : (source.takeWhile Char.isDigit).isEmpty = false := by
      rw [front, List.takeWhile_cons_of_pos digit]
      rfl
    have counted := digitCount_le source
    have behind : (splitPoint (source.dropWhile Char.isDigit)).2 =
        source.drop (digitCount source + fractionLength (source.drop (digitCount source))) := by
      rw [dropWhile_eq_drop, ← List.drop_drop]
      rw [← List.drop_drop] at some
      exact splitPoint_behind some
    have exponent : (readExponent? (splitPoint (source.dropWhile Char.isDigit)).2).isSome := by
      apply readExponent?_isSome
      rw [behind, List.length_drop]
      omega
    rw [readDecimal?_eq]
    simp only [filled, Bool.false_and]
    rw [if_neg Bool.false_ne_true]
    rw [Option.isSome_map]
    exact exponent

end Lexemes

end CommonExpr.Proofs.DoubleLiterals

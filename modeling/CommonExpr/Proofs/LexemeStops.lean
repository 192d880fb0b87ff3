import CommonExpr.Proofs.LexemeExtent

/-! Some characters continue no lexeme that stands before them. A lexeme without quotes is
read in front of such a character as it is read where the text ends, and a literal that is
closed is read whatever stands behind it. -/

namespace CommonExpr.Proofs.LexemeStops
open Lexeme LexemeExtent

/-- No number, word or sign goes on with the character, and no literal opens with it. -/
structure Stops (c : Char) : Prop where
  apart : isNamePart c = false
  plain : isQuote c = false
  unsigned : c ∉ ['.', '+', '-', '=', '&', '|']

/-- Text that is empty or begins with a character that stops what is before it. -/
def Stopped (text : List Char) : Prop :=
  ∀ c ∈ text.head?, Stops c

theorem stops_of_space {c : Char} (space : isSpace c) : Stops c := by
  rcases isSpace_cases space with rfl | rfl | rfl | rfl <;> exact ⟨rfl, rfl, by decide⟩

theorem Stopped.nil : Stopped [] :=
  nofun

theorem Stopped.cons {c : Char} (stops : Stops c) (rest : List Char) : Stopped (c :: rest) := by
  intro first same
  cases same
  exact stops

theorem Stops.not_digit {c : Char} (stops : Stops c) : c.isDigit = false := by
  have apart := stops.apart
  simp only [isNamePart, Char.isAlphanum, Bool.or_eq_false_iff] at apart
  exact apart.1.2

private theorem namePart_of_hex {c : Char} (hex : (Text.hexDigit? c).isSome) : isNamePart c := by
  have letter : c.isDigit ∨ ('a' ≤ c ∧ c ≤ 'f') ∨ ('A' ≤ c ∧ c ≤ 'F') := by
    unfold Text.hexDigit? at hex
    split at hex
    next digit => exact .inl digit
    next =>
      split at hex
      next lower => exact .inr (.inl lower)
      next =>
        split at hex
        next upper => exact .inr (.inr upper)
        next => cases hex
  unfold isNamePart Char.isAlphanum Char.isAlpha Char.isUpper Char.isLower
  simp only [Bool.or_eq_true, Bool.and_eq_true, decide_eq_true_eq, beq_iff_eq, ge_iff_le, UInt32.le_iff_toNat_le,
    Char.le_def] at letter ⊢
  rcases letter with digit | ⟨low, high⟩ | ⟨low, high⟩
  · exact .inl (.inr digit)
  · exact .inl (.inl (.inr ⟨low, Nat.le_trans high (by decide)⟩))
  · exact .inl (.inl (.inl ⟨low, Nat.le_trans high (by decide)⟩))

theorem Stops.not_hex {c : Char} (stops : Stops c) : (Text.hexDigit? c).isSome = false := by
  rw [Bool.eq_false_iff]
  intro hex
  have apart := stops.apart
  rw [namePart_of_hex hex] at apart
  cases apart

/-- A character that is part of a name is none that stops. -/
theorem Stops.ne {c other : Char} (stops : Stops c) (part : isNamePart other) : c ≠ other := by
  intro same
  rw [← same, stops.apart] at part
  cases part

section Unquoted
variable {front tail : List Char} (stopped : Stopped tail)
include stopped

private theorem takeWhile_stopped {accepts : Char → Bool} (refuses : ∀ c, Stops c → accepts c = false) :
    (front ++ tail).takeWhile accepts = front.takeWhile accepts := by
  have none : tail.takeWhile accepts = [] := by
    cases tail with
    | nil => rfl
    | cons c others => rw [List.takeWhile_cons_of_neg (by simp [refuses c (stopped c rfl)])]
  rw [List.takeWhile_append, none, List.append_nil]
  split
  next whole => exact (List.IsPrefix.eq_of_length (List.takeWhile_prefix accepts) whole).symm
  next => rfl

private theorem digitCount_stopped : digitCount (front ++ tail) = digitCount front := by
  rw [digitCount, digitCount, takeWhile_stopped stopped fun _ => Stops.not_digit]

private theorem fractionLength_stopped : fractionLength (front ++ tail) = fractionLength front := by
  cases front with
  | nil =>
    cases tail with
    | nil => rfl
    | cons c others =>
      have noPoint : c ≠ '.' := fun same => (stopped c rfl).unsigned (by simp [same])
      simp [fractionLength, noPoint]
  | cons c others =>
    by_cases point : c = '.'
    · subst point
      simp only [List.cons_append, fractionLength, digitCount_stopped stopped]
    · simp [fractionLength, point]

private theorem exponentLength_stopped : exponentLength (front ++ tail) = exponentLength front := by
  match front, tail with
  | [], [] => rfl
  | [], [c] => simp [exponentLength, digitCount]
  | [], c :: sign :: others =>
    have unmarked : ¬(c = 'e' ∨ c = 'E') :=
      not_or.mpr ⟨(stopped c rfl).ne rfl, (stopped c rfl).ne rfl⟩
    rw [List.nil_append, exponentLength_cons, if_neg fun both => unmarked both.1]
    rfl
  | [mark], [] => rfl
  | [mark], c :: others =>
    have unsigned : signLength c = 0 :=
      if_neg fun signs => (stopped c rfl).unsigned (by rcases signs with rfl | rfl <;> simp)
    have silent : digitCount (c :: others) = 0 := by simp [digitCount, (stopped c rfl).not_digit]
    rw [List.singleton_append, exponentLength_cons, unsigned, List.drop_zero, if_neg fun both => both.2 silent]
    simp [exponentLength, digitCount]
  | mark :: sign :: others, tail =>
    have within : signLength sign ≤ (sign :: others).length := by
      rw [signLength, List.length_cons]
      split <;> omega
    simp only [List.cons_append, exponentLength_cons]
    rw [← List.cons_append, List.drop_append_of_le_length within, digitCount_stopped stopped]

private theorem hexLength_stopped : hexLength (front ++ tail) = hexLength front := by
  match front, tail with
  | [], [] => rfl
  | [], c :: others =>
    have unmarked : c ≠ '0' := (stopped c rfl).ne rfl
    simp [hexLength, unmarked]
  | [c], [] => rfl
  | [c], x :: others =>
    have unmarked : ¬(x = 'x' ∨ x = 'X') := not_or.mpr ⟨(stopped x rfl).ne rfl, (stopped x rfl).ne rfl⟩
    by_cases zero : c = '0'
    · simp [zero, hexLength, unmarked]
    · simp [hexLength, zero]
  | c :: x :: others, tail =>
    by_cases zero : c = '0'
    · subst zero
      simp only [List.cons_append, hexLength, takeWhile_stopped stopped fun _ => Stops.not_hex]
    · simp [hexLength, zero]

private theorem integerEnd_stopped {length : Nat} (inside : length ≤ front.length) :
    integerEnd (front ++ tail) length = integerEnd front length := by
  unfold integerEnd
  rw [List.drop_append_of_le_length inside]
  cases front.drop length with
  | nil =>
    cases tail with
    | nil => rfl
    | cons c others =>
      have lower : c ≠ 'u' := (stopped c rfl).ne rfl
      have upper : c ≠ 'U' := (stopped c rfl).ne rfl
      simp [lower, upper]
  | cons c others =>
    by_cases lower : c = 'u'
    · subst lower
      rfl
    · by_cases upper : c = 'U'
      · subst upper
        rfl
      · simp [lower, upper]

private theorem number_stopped : number (front ++ tail) = number front := by
  have hex := hexLength_le front
  have whole := digitCount_le front
  have fraction := fractionLength_le (front.drop (digitCount front))
  rw [List.length_drop] at fraction
  unfold number
  simp only [hexLength_stopped stopped, digitCount_stopped stopped, integerEnd_stopped stopped hex,
    integerEnd_stopped stopped whole]
  rw [List.drop_append_of_le_length whole, fractionLength_stopped stopped,
    List.drop_append_of_le_length (by omega), exponentLength_stopped stopped]

private theorem word_stopped : word (front ++ tail) = word front := by
  rw [word, word, takeWhile_stopped stopped fun _ => Stops.apart]

end Unquoted

section Signs
variable {c d : Char} {front tail : List Char} {found : TokenKind × Nat}

/-- A sign has one character or two. -/
theorem symbol?_pair {rest : List Char} (others : List Char) (read : symbol? (c :: d :: rest) = some found) :
    symbol? (c :: d :: others) = some found := by
  generalize text : c :: d :: rest = source at read
  unfold symbol? at read
  split at read <;> cases read <;> cases text
  all_goals first
    | rfl
    | next single =>
      have other : d ≠ '=' := fun same => single rest (by rw [same])
      simp [symbol?, other]

private theorem symbol?_single {rest : List Char} (stops : Stops d) : symbol? (c :: d :: rest) = symbol? [c] := by
  obtain ⟨equals, ampersand, bar⟩ : d ≠ '=' ∧ d ≠ '&' ∧ d ≠ '|' := by
    have unsigned := stops.unsigned
    simp only [List.mem_cons, not_or] at unsigned
    exact ⟨unsigned.2.2.2.1, unsigned.2.2.2.2.1, unsigned.2.2.2.2.2.1⟩
  refine Option.ext fun found => ⟨fun read => ?_, fun read => ?_⟩
  · generalize text : c :: d :: rest = source at read
    unfold symbol? at read
    split at read <;> cases read <;> cases text
    all_goals first | rfl | exact absurd rfl equals | exact absurd rfl ampersand | exact absurd rfl bar
  · generalize text : [c] = source at read
    unfold symbol? at read
    split at read <;> cases read <;> cases text
    all_goals first | rfl | simp [symbol?, equals]

private theorem symbol?_stopped (stopped : Stopped tail) (filled : front ≠ []) :
    symbol? (front ++ tail) = symbol? front := by
  match front, tail with
  | [c], [] => rfl
  | [c], d :: rest => exact symbol?_single (stopped d rfl)
  | c :: d :: others, tail => exact Option.ext fun _ => ⟨symbol?_pair others, symbol?_pair (others ++ tail)⟩

end Signs

/-- Without quotes a lexeme does not depend on what is behind a character that stops. -/
theorem unquoted_stopped {front tail : List Char} (c : Char) (stopped : Stopped tail) (filled : front ≠ []) :
    unquoted c (front ++ tail) = unquoted c front := by
  rw [unquoted, unquoted, number_stopped stopped, word_stopped stopped, symbol?_stopped stopped filled]

section Delimiters
variable {closing front : List Char} {raw : Bool} {kind made : TokenKind} {form : Delimited} {length : Nat}

/-- Where a literal is closed does not depend on what is behind it. -/
theorem closingEnd?_append {passed : Nat} (tail : List Char) (filled : closing ≠ [])
    (found : closingEnd? closing raw passed front = some length) :
    closingEnd? closing raw passed (front ++ tail) = some length := by
  obtain ⟨longer, within⟩ := closingEnd?_bounds found
  obtain ⟨own, rest, rfl, rfl⟩ : ∃ own rest, front = own ++ rest ∧ length = passed + own.length := by
    refine ⟨front.take (length - passed), front.drop (length - passed), (List.take_append_drop _ front).symm, ?_⟩
    rw [List.length_take]
    omega
  rw [List.append_assoc]
  exact closingEnd?_swap filled found

private theorem delimited_append {opened : Nat} (tail : List Char) (filled : closing ≠ [])
    (found : delimited made form closing raw opened front = .token kind length) :
    delimited made form closing raw opened (front ++ tail) = .token kind length := by
  have bounds := delimited_bounds found
  obtain ⟨rfl, ends⟩ := delimited_eq_token found
  rw [delimited, List.drop_append_of_le_length (by omega), closingEnd?_append tail filled ends]

private theorem isPrefixOf_append (tail : List Char) (inside : closing.length ≤ front.length) :
    closing.isPrefixOf (front ++ tail) = closing.isPrefixOf front := by
  rw [Bool.eq_iff_iff, List.isPrefixOf_iff_prefix, List.isPrefixOf_iff_prefix]
  exact ⟨fun before => List.prefix_of_prefix_length_le before (List.prefix_append front tail) inside,
    fun before => before.trans (List.prefix_append front tail)⟩

/-- Two quotes are a literal that is closed. A third one behind them would open another form. -/
theorem stringLiteral_append {start : Nat} {quote : Char} {tail : List Char} (stopped : Stopped tail)
    (quoted : isQuote quote) (found : stringLiteral raw start quote front = .token kind length) :
    stringLiteral raw start quote (front ++ tail) = .token kind length := by
  have bounds := stringLiteral_bounds found
  have same : [quote, quote, quote].isPrefixOf (front.drop start ++ tail) =
      [quote, quote, quote].isPrefixOf (front.drop start) := by
    match left : front.drop start, tail with
    | [], _ | [_], _ =>
      have short := congrArg List.length left
      simp only [List.length_drop, List.length_cons, List.length_nil] at short
      omega
    | [a, b], [] => rfl
    | [a, b], c :: others =>
      have other : quote ≠ c := by
        intro same
        rw [same, (stopped c rfl).plain] at quoted
        cases quoted
      simp [List.isPrefixOf, other]
    | a :: b :: c :: others, tail => exact isPrefixOf_append tail (by simp)
  unfold stringLiteral at found ⊢
  simp only [List.drop_append_of_le_length (show start ≤ front.length by omega), same] at found ⊢
  split at found
  next triple => exact (if_pos triple).trans (delimited_append tail (by simp) found)
  next single => exact (if_neg single).trans (delimited_append tail (by simp) found)

end Delimiters

/-- A lexeme stays what it is when text is put behind the text that it begins. -/
theorem read_append {front tail : List Char} {kind : TokenKind} {length : Nat} (stopped : Stopped tail)
    (found : Lexeme.read front = .token kind length) : Lexeme.read (front ++ tail) = .token kind length := by
  cases front with
  | nil => cases found
  | cons c others =>
    rcases read_cases c others with ⟨quoted, same⟩ | ⟨quote, more, rfl, quoted, marks, same⟩ |
      ⟨quote, more, rfl, quoted, marks, same⟩ | ⟨plain, unmarked, same⟩
    · rw [List.cons_append, read_quote _ quoted, ← List.cons_append]
      exact stringLiteral_append stopped quoted (same ▸ found)
    · rw [List.cons_append, List.cons_append, read_raw _ marks quoted, ← List.cons_append, ← List.cons_append]
      exact stringLiteral_append stopped quoted (same ▸ found)
    · rw [List.cons_append, List.cons_append, read_bytes _ marks quoted, ← List.cons_append, ← List.cons_append]
      exact delimited_append tail (by simp) (same ▸ found)
    · have unmarked : Unmarked c (others ++ tail) := by
        cases others with
        | cons d more => exact unmarked
        | nil =>
          cases tail with
          | nil => exact unmarked
          | cons d more => exact .inl (by simp [Option.filter_some, (stopped d rfl).plain])
      rw [List.cons_append, read_unquoted plain unmarked, ← List.cons_append, unquoted_stopped c stopped (by simp)]
      exact same ▸ found

end CommonExpr.Proofs.LexemeStops

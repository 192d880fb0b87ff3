import CommonExpr.Token.Lexeme

/-! A lexeme ends where it ends because of its own characters. Whatever stood behind it
can be taken away or replaced by text that begins with white space, and the same lexeme
is read again. -/

namespace CommonExpr.Proofs.LexemeExtent
open Lexeme

/-- Text that touches nothing before it. -/
def Apart : List Char → Prop
  | [] => True
  | c :: _ => isSpace c

theorem isSpace_cases {c : Char} (space : isSpace c) : c = ' ' ∨ c = '\t' ∨ c = '\r' ∨ c = '\n' := by
  simpa [isSpace, or_assoc] using space

variable {text rest tail : List Char}

section Runs
variable {accepts : Char → Bool}

private theorem takeWhile_apart (apart : Apart tail) (visible : ∀ c, isSpace c → accepts c = false) :
    tail.takeWhile accepts = [] := by
  cases tail with
  | nil => rfl
  | cons c others => simp [visible c apart]

/-- A run that ends inside the text or at its end does not depend on what is behind. -/
theorem takeWhile_swap (visible : ∀ c, isSpace c → accepts c = false) (apart : Apart tail)
    (inside : ((text ++ rest).takeWhile accepts).length ≤ text.length) :
    (text ++ tail).takeWhile accepts = (text ++ rest).takeWhile accepts := by
  induction text with
  | nil =>
    simp only [List.nil_append, List.length_nil, Nat.le_zero, List.length_eq_zero_iff] at inside ⊢
    rw [inside, takeWhile_apart apart visible]
  | cons c others ih =>
    simp only [List.cons_append, List.takeWhile_cons] at inside ⊢
    split
    next accepted =>
      rw [if_pos accepted, List.length_cons, List.length_cons] at inside
      rw [ih (by omega)]
    next => rfl

theorem space_not_digit (c : Char) (space : isSpace c) : c.isDigit = false := by
  rcases isSpace_cases space with rfl | rfl | rfl | rfl <;> rfl

theorem space_not_hex (c : Char) (space : isSpace c) : (Text.hexDigit? c).isSome = false := by
  rcases isSpace_cases space with rfl | rfl | rfl | rfl <;> rfl

theorem space_not_namePart (c : Char) (space : isSpace c) : isNamePart c = false := by
  rcases isSpace_cases space with rfl | rfl | rfl | rfl <;> rfl

theorem space_not_quote (c : Char) (space : isSpace c) : isQuote c = false := by
  rcases isSpace_cases space with rfl | rfl | rfl | rfl <;> rfl

end Runs

section Numbers

private theorem digitCount_swap (apart : Apart tail) (inside : digitCount (text ++ rest) ≤ text.length) :
    digitCount (text ++ tail) = digitCount (text ++ rest) := by
  rw [digitCount, digitCount, takeWhile_swap space_not_digit apart inside]

private theorem digitCount_apart (apart : Apart tail) : digitCount tail = 0 := by
  rw [digitCount, takeWhile_apart apart space_not_digit, List.length_nil]

private theorem fractionLength_apart (apart : Apart tail) : fractionLength tail = 0 := by
  cases tail with
  | nil => rfl
  | cons c others => rcases isSpace_cases apart with rfl | rfl | rfl | rfl <;> rfl

private theorem fractionLength_other {c : Char} (other : c ≠ '.') (others : List Char) :
    fractionLength (c :: others) = 0 := by
  simp [fractionLength, other]

private theorem fractionLength_swap (apart : Apart tail) (inside : fractionLength (text ++ rest) ≤ text.length) :
    fractionLength (text ++ tail) = fractionLength (text ++ rest) := by
  match text with
  | [] =>
    rw [List.nil_append, fractionLength_apart apart]
    exact (Nat.le_zero.mp inside).symm
  | c :: others =>
    by_cases point : c = '.'
    · subst point
      simp only [List.cons_append, fractionLength, List.length_cons] at inside ⊢
      have same : digitCount (others ++ tail) = digitCount (others ++ rest) := by
        apply digitCount_swap apart
        split at inside <;> omega
      rw [same]
    · rw [List.cons_append, List.cons_append, fractionLength_other point, fractionLength_other point]

/-- How many characters the sign of an exponent takes. -/
def signLength (c : Char) : Nat :=
  if c = '+' ∨ c = '-' then 1 else 0

theorem exponentLength_cons (marker sign : Char) (others : List Char) : exponentLength (marker :: sign :: others) =
    if (marker = 'e' ∨ marker = 'E') ∧ digitCount ((sign :: others).drop (signLength sign)) ≠ 0 then
      1 + signLength sign + digitCount ((sign :: others).drop (signLength sign)) else 0 := by
  by_cases plus : sign = '+'
  · subst plus
    rfl
  · by_cases minus : sign = '-'
    · subst minus
      rfl
    · simp [exponentLength, signLength, plus, minus]

private theorem exponentLength_apart (apart : Apart tail) : exponentLength tail = 0 := by
  match tail with
  | [] => rfl
  | [c] => simp [exponentLength, digitCount]
  | c :: sign :: others =>
    rw [exponentLength_cons, if_neg]
    rcases isSpace_cases apart with rfl | rfl | rfl | rfl <;> simp

private theorem exponentLength_single (marker : Char) (apart : Apart tail) : exponentLength (marker :: tail) = 0 := by
  cases tail with
  | nil => simp [exponentLength, digitCount]
  | cons c others =>
    have silent : digitCount ((c :: others).drop (signLength c)) = 0 := by
      rcases isSpace_cases apart with rfl | rfl | rfl | rfl <;> exact digitCount_apart apart
    rw [exponentLength_cons, if_neg (fun both => both.2 silent)]

private theorem exponentLength_ne_one (source : List Char) : exponentLength source ≠ 1 := by
  match source with
  | [] => decide
  | [c] => simp [exponentLength, digitCount]
  | c :: sign :: others =>
    rw [exponentLength_cons]
    split <;> omega

private theorem exponentLength_swap (apart : Apart tail) (inside : exponentLength (text ++ rest) ≤ text.length) :
    exponentLength (text ++ tail) = exponentLength (text ++ rest) := by
  match text with
  | [] =>
    rw [List.nil_append, exponentLength_apart apart]
    exact (Nat.le_zero.mp inside).symm
  | [marker] =>
    rw [List.singleton_append, exponentLength_single marker apart]
    have notOne := exponentLength_ne_one ([marker] ++ rest)
    simp only [List.length_singleton] at inside
    omega
  | marker :: sign :: others =>
    by_cases marked : marker = 'e' ∨ marker = 'E'
    · have within : signLength sign ≤ (sign :: others).length := by
        rw [signLength, List.length_cons]
        split <;> omega
      have split (behind : List Char) : (sign :: (others ++ behind)).drop (signLength sign) =
          (sign :: others).drop (signLength sign) ++ behind := by
        rw [← List.cons_append, List.drop_append_of_le_length within]
      simp only [List.cons_append, exponentLength_cons, split, List.length_cons] at inside ⊢
      have same : digitCount ((sign :: others).drop (signLength sign) ++ tail) =
          digitCount ((sign :: others).drop (signLength sign) ++ rest) := by
        apply digitCount_swap apart
        rw [List.length_drop, List.length_cons]
        by_cases silent : digitCount ((sign :: others).drop (signLength sign) ++ rest) = 0
        · omega
        · rw [if_pos ⟨marked, silent⟩] at inside
          omega
      rw [same]
    · simp only [List.cons_append, exponentLength_cons, marked, false_and, if_false]

private theorem hexLength_other {source : List Char} (other : ∀ x others, source ≠ '0' :: x :: others) :
    hexLength source = 0 := by
  unfold hexLength
  split
  next x others => exact absurd rfl (other x others)
  next => rfl

private theorem hexLength_apart (apart : Apart tail) : hexLength tail = 0 := by
  apply hexLength_other
  rintro x others rfl
  simp [Apart, isSpace] at apart

private theorem hexLength_single (c : Char) (apart : Apart tail) : hexLength (c :: tail) = 0 := by
  by_cases zero : c = '0'
  · subst zero
    cases tail with
    | nil => rfl
    | cons x others => rcases isSpace_cases apart with rfl | rfl | rfl | rfl <;> simp [hexLength]
  · exact hexLength_other fun _ _ same => zero (List.cons.inj same).1

private theorem hexLength_ne_one (source : List Char) : hexLength source ≠ 1 := by
  unfold hexLength
  split
  next => dsimp only; split <;> omega
  next => decide

private theorem hexLength_swap (apart : Apart tail) (inside : hexLength (text ++ rest) ≤ text.length) :
    hexLength (text ++ tail) = hexLength (text ++ rest) := by
  match text with
  | [] =>
    rw [List.nil_append, hexLength_apart apart]
    exact (Nat.le_zero.mp inside).symm
  | [c] =>
    rw [List.singleton_append, hexLength_single c apart]
    have notOne := hexLength_ne_one ([c] ++ rest)
    simp only [List.length_singleton] at inside
    omega
  | c :: x :: others =>
    by_cases zero : c = '0'
    · subst zero
      simp only [List.cons_append, hexLength, List.length_cons] at inside ⊢
      by_cases marked : x = 'x' ∨ x = 'X'
      · have same : (others ++ tail).takeWhile (fun c => (Text.hexDigit? c).isSome) =
            (others ++ rest).takeWhile (fun c => (Text.hexDigit? c).isSome) := by
          apply takeWhile_swap space_not_hex apart
          by_cases silent : ((others ++ rest).takeWhile (fun c => (Text.hexDigit? c).isSome)).length = 0
          · omega
          · rw [if_pos ⟨marked, silent⟩] at inside
            omega
        rw [same]
      · simp only [marked, false_and, if_false]
    · have other (behind : List Char) : hexLength (c :: x :: others ++ behind) = 0 :=
        hexLength_other fun _ _ same => zero (List.cons.inj same).1
      rw [other, other]

private theorem integerEnd_apart {length : Nat} (apart : Apart (tail.drop length)) :
    integerEnd tail length = .token .int length := by
  unfold integerEnd
  cases left : tail.drop length with
  | nil => rfl
  | cons c others =>
    rw [left] at apart
    rcases isSpace_cases apart with rfl | rfl | rfl | rfl <;> rfl

/-- The suffix of an integer belongs to it. -/
theorem integerEnd_swap {kind : TokenKind} {length : Nat} (apart : Apart tail) (inside : length ≤ text.length)
    (ends : integerEnd (text ++ rest) length = .token kind text.length) :
    integerEnd (text ++ tail) length = .token kind text.length := by
  cases left : text.drop length with
  | nil =>
    have whole : text.length = length := Nat.le_antisymm (List.drop_eq_nil_iff.mp left) inside
    have unsuffixed : kind = .int := by
      unfold integerEnd at ends
      split at ends
      · obtain ⟨_, longer⟩ := Lexeme.token.inj ends
        omega
      · obtain ⟨_, longer⟩ := Lexeme.token.inj ends
        omega
      · exact (Lexeme.token.inj ends).1.symm
    have free : Apart ((text ++ tail).drop length) := by
      rwa [List.drop_append_of_le_length inside, left, List.nil_append]
    rw [integerEnd_apart free, whole, unsuffixed]
  | cons c others =>
    unfold integerEnd at ends ⊢
    rw [List.drop_append_of_le_length inside, left, List.cons_append] at ends ⊢
    by_cases lower : c = 'u'
    · subst lower
      exact ends
    · by_cases upper : c = 'U'
      · subst upper
        exact ends
      · simpa [lower, upper] using ends

theorem integerEnd_eq_token {source : List Char} {kind : TokenKind} {length total : Nat}
    (ends : integerEnd source length = .token kind total) :
    length ≤ total ∧ (length ≤ source.length → total ≤ source.length) ∧ (kind = .int ∨ kind = .uint) := by
  unfold integerEnd at ends
  split at ends
  next rest left =>
    obtain ⟨rfl, rfl⟩ := Lexeme.token.inj ends
    have more := congrArg List.length left
    rw [List.length_drop, List.length_cons] at more
    exact ⟨by omega, fun _ => by omega, .inr rfl⟩
  next rest left =>
    obtain ⟨rfl, rfl⟩ := Lexeme.token.inj ends
    have more := congrArg List.length left
    rw [List.length_drop, List.length_cons] at more
    exact ⟨by omega, fun _ => by omega, .inr rfl⟩
  next =>
    obtain ⟨rfl, rfl⟩ := Lexeme.token.inj ends
    exact ⟨Nat.le_refl _, id, .inl rfl⟩

/-- The digits before a point, those behind it, and the exponent. -/
theorem decimal_eq (source : List Char) (plain : hexLength source = 0) : number source =
    let whole := digitCount source
    let fraction := fractionLength (source.drop whole)
    let exponent := exponentLength (source.drop (whole + fraction))
    if fraction + exponent = 0 then integerEnd source whole else .token .double (whole + fraction + exponent) := by
  simp only [number, plain, ne_eq, not_true, if_false]

private theorem decimal_swap {kind : TokenKind} (apart : Apart tail) (plain : hexLength (text ++ rest) = 0)
    (ends : number (text ++ rest) = .token kind text.length) : number (text ++ tail) = .token kind text.length := by
  have plainBefore : hexLength (text ++ tail) = hexLength (text ++ rest) := hexLength_swap apart (by omega)
  rw [decimal_eq _ plain] at ends
  rw [decimal_eq _ (plainBefore.trans plain)]
  dsimp only at ends ⊢
  generalize counted : digitCount (text ++ rest) = whole at ends
  generalize pointed : fractionLength ((text ++ rest).drop whole) = fraction at ends
  generalize raised : exponentLength ((text ++ rest).drop (whole + fraction)) = exponent at ends
  have inside : whole + fraction + exponent ≤ text.length := by
    split at ends
    next => have := (integerEnd_eq_token ends).1; omega
    next => exact Nat.le_of_eq (Lexeme.token.inj ends).2
  have countedBefore : digitCount (text ++ tail) = digitCount (text ++ rest) := digitCount_swap apart (by omega)
  rw [List.drop_append_of_le_length (by omega)] at pointed raised
  have pointedBefore : fractionLength (text.drop whole ++ tail) = fractionLength (text.drop whole ++ rest) :=
    fractionLength_swap apart (by rw [List.length_drop]; omega)
  have raisedBefore : exponentLength (text.drop (whole + fraction) ++ tail) =
      exponentLength (text.drop (whole + fraction) ++ rest) :=
    exponentLength_swap apart (by rw [List.length_drop]; omega)
  rw [countedBefore, counted, List.drop_append_of_le_length (by omega), pointedBefore, pointed,
    List.drop_append_of_le_length (by omega), raisedBefore, raised]
  split at ends
  next none => rw [if_pos none]; exact integerEnd_swap apart (by omega) ends
  next some => rw [if_neg some]; exact ends

private theorem number_swap {kind : TokenKind} (apart : Apart tail)
    (ends : number (text ++ rest) = .token kind text.length) :
    number (text ++ tail) = .token kind text.length := by
  by_cases plain : hexLength (text ++ rest) = 0
  · exact decimal_swap apart plain ends
  · unfold number at ends ⊢
    dsimp only at ends ⊢
    rw [if_pos plain] at ends
    have inside := (integerEnd_eq_token ends).1
    rw [hexLength_swap apart inside, if_pos plain]
    exact integerEnd_swap apart inside ends

theorem digitCount_le (source : List Char) : digitCount source ≤ source.length :=
  (List.takeWhile_prefix _).length_le

theorem fractionLength_le (source : List Char) : fractionLength source ≤ source.length := by
  unfold fractionLength
  split
  next others =>
    have within := digitCount_le others
    rw [List.length_cons]
    split <;> omega
  next => exact Nat.zero_le _

private theorem exponentLength_le (source : List Char) : exponentLength source ≤ source.length := by
  match source with
  | [] => decide
  | [c] => simp [exponentLength, digitCount]
  | c :: sign :: others =>
    have within := digitCount_le ((sign :: others).drop (signLength sign))
    have signed : signLength sign ≤ 1 := by rw [signLength]; split <;> decide
    simp only [List.length_drop, List.length_cons] at within
    rw [exponentLength_cons, List.length_cons, List.length_cons]
    split <;> omega

theorem hexLength_le (source : List Char) : hexLength source ≤ source.length := by
  unfold hexLength
  split
  next x others =>
    have within := (List.takeWhile_prefix (l := others) fun c => (Text.hexDigit? c).isSome).length_le
    dsimp only
    rw [List.length_cons, List.length_cons]
    split <;> omega
  next => exact Nat.zero_le _

private theorem number_bounds {c : Char} {others : List Char} {kind : TokenKind} {length : Nat} (digit : c.isDigit)
    (ends : number (c :: others) = .token kind length) :
    0 < length ∧ length ≤ (c :: others).length ∧ (kind = .int ∨ kind = .uint ∨ kind = .double) := by
  by_cases plain : hexLength (c :: others) = 0
  · have counted : 0 < digitCount (c :: others) := by simp [digitCount, digit]
    have whole := digitCount_le (c :: others)
    rw [decimal_eq _ plain] at ends
    dsimp only at ends
    split at ends
    next =>
      have facts := integerEnd_eq_token ends
      exact ⟨by omega, facts.2.1 whole, facts.2.2.imp_right .inl⟩
    next =>
      have fraction := fractionLength_le ((c :: others).drop (digitCount (c :: others)))
      have exponent := exponentLength_le ((c :: others).drop
        (digitCount (c :: others) + fractionLength ((c :: others).drop (digitCount (c :: others)))))
      rw [List.length_drop] at fraction exponent
      obtain ⟨rfl, rfl⟩ := Lexeme.token.inj ends
      exact ⟨by omega, by omega, .inr (.inr rfl)⟩
  · unfold number at ends
    rw [if_pos plain] at ends
    have facts := integerEnd_eq_token ends
    exact ⟨by omega, facts.2.1 (hexLength_le _), facts.2.2.imp_right .inl⟩

end Numbers

section Delimiters
variable {closing : List Char} {raw : Bool}

/-- A backslash takes the next character with it. -/
def stride (raw : Bool) (c : Char) : Nat :=
  if !raw && c == '\\' then 2 else 1

theorem closingEnd?_cons (passed : Nat) (c : Char) (others : List Char) :
    closingEnd? closing raw passed (c :: others) =
      if closing.isPrefixOf (c :: others) then some (passed + closing.length)
      else closingEnd? closing raw (passed + stride raw c) ((c :: others).drop (stride raw c)) := by
  cases others with
  | nil =>
    rw [closingEnd?]
    split
    · rfl
    · rw [stride]
      split <;> rfl
  | cons d others =>
    rw [closingEnd?]
    split
    · rfl
    · rw [stride]
      split <;> rfl

theorem stride_pos (raw : Bool) (c : Char) : 0 < stride raw c := by
  rw [stride]
  split <;> decide

theorem closingEnd?_bounds {passed length : Nat} {source : List Char}
    (found : closingEnd? closing raw passed source = some length) :
    passed + closing.length ≤ length ∧ length ≤ passed + source.length := by
  induction many : source.length using Nat.strongRecOn generalizing source passed with
  | ind count ih =>
    cases source with
    | nil => cases found
    | cons c others =>
      rw [closingEnd?_cons] at found
      split at found
      next closes =>
        have within := (List.isPrefixOf_iff_prefix.mp closes).length_le
        cases found
        omega
      next =>
        have forward := stride_pos raw c
        have shorter : ((c :: others).drop (stride raw c)).length < count := by
          rw [List.length_drop, many]
          rw [List.length_cons] at many
          omega
        have further := ih _ shorter found rfl
        rw [List.length_drop, many] at further
        have within : stride raw c ≤ count := Nat.le_of_not_lt fun beyond => by
          rw [List.drop_eq_nil_of_le (by omega)] at found
          cases found
        omega

private theorem isPrefixOf_swap (tail rest : List Char) (inside : closing.length ≤ text.length) :
    closing.isPrefixOf (text ++ tail) = closing.isPrefixOf (text ++ rest) := by
  have decided (behind : List Char) : closing.isPrefixOf (text ++ behind) = true ↔ closing <+: text := by
    rw [List.isPrefixOf_iff_prefix]
    exact ⟨fun before => List.prefix_of_prefix_length_le before (List.prefix_append text behind) inside,
      fun before => before.trans (List.prefix_append text behind)⟩
  rw [Bool.eq_iff_iff, decided, decided]

theorem closingEnd?_swap {passed : Nat} (filled : closing ≠ [])
    (found : closingEnd? closing raw passed (text ++ rest) = some (passed + text.length)) :
    closingEnd? closing raw passed (text ++ tail) = some (passed + text.length) := by
  induction many : text.length using Nat.strongRecOn generalizing text passed with
  | ind count ih =>
    have present := List.length_pos_iff.mpr filled
    cases text with
    | nil =>
      have beyond := (closingEnd?_bounds found).1
      rw [List.length_nil] at beyond
      omega
    | cons c others =>
      rw [List.cons_append, closingEnd?_cons, ← List.cons_append] at found ⊢
      split at found
      next closes =>
        have same : closing.length = (c :: others).length := by
          have := Option.some.inj found
          omega
        rw [isPrefixOf_swap tail rest (Nat.le_of_eq same), if_pos closes, same, many]
      next opens =>
        have within := (closingEnd?_bounds found).1
        have forward := stride_pos raw c
        have total : passed + (c :: others).length =
            passed + stride raw c + ((c :: others).drop (stride raw c)).length := by
          rw [List.length_drop]
          omega
        rw [isPrefixOf_swap tail rest (by omega), if_neg opens]
        rw [List.drop_append_of_le_length (by omega), total] at found
        rw [List.drop_append_of_le_length (by omega), ← many, total]
        exact ih _ (by rw [List.length_drop]; omega) found rfl

variable {kind made : TokenKind} {form : Delimited}

theorem delimited_eq_token {source : List Char} {opened length : Nat}
    (found : delimited made form closing raw opened source = .token kind length) :
    kind = made ∧ closingEnd? closing raw opened (source.drop opened) = some length := by
  unfold delimited at found
  split at found
  next ends =>
    cases found
    exact ⟨rfl, ends⟩
  next => cases found

theorem delimited_bounds {source : List Char} {opened length : Nat}
    (found : delimited made form closing raw opened source = .token kind length) :
    kind = made ∧ opened + closing.length ≤ length ∧ length ≤ source.length := by
  obtain ⟨same, ends⟩ := delimited_eq_token found
  have bounds := closingEnd?_bounds ends
  rw [List.length_drop] at bounds
  have within : opened ≤ source.length := Nat.le_of_not_lt fun beyond => by
    rw [List.drop_eq_nil_of_le (by omega)] at ends
    cases ends
  exact ⟨same, bounds.1, by omega⟩

theorem stringLiteral_bounds {source : List Char} {start length : Nat} {quote : Char}
    (found : stringLiteral raw start quote source = .token kind length) :
    kind = .string ∧ start + 2 ≤ length ∧ length ≤ source.length := by
  unfold stringLiteral at found
  dsimp only at found
  split at found
  · have bounds := delimited_bounds found
    simp only [List.length_cons, List.length_nil] at bounds
    exact ⟨bounds.1, by omega, bounds.2.2⟩
  · have bounds := delimited_bounds found
    simp only [List.length_cons, List.length_nil] at bounds
    exact ⟨bounds.1, by omega, bounds.2.2⟩

private theorem delimited_swap {opened : Nat} (filled : closing ≠ [])
    (found : delimited made form closing raw opened (text ++ rest) = .token kind text.length) :
    delimited made form closing raw opened (text ++ tail) = .token kind text.length := by
  obtain ⟨rfl, ends⟩ := delimited_eq_token found
  have within := (closingEnd?_bounds ends).1
  have total : text.length = opened + (text.drop opened).length := by
    rw [List.length_drop]
    omega
  rw [List.drop_append_of_le_length (by omega), total] at ends
  rw [delimited, List.drop_append_of_le_length (by omega), closingEnd?_swap filled ends]
  simp only [← total]

private theorem stringLiteral_swap {start : Nat} {quote : Char} (apart : Apart tail) (quoted : isQuote quote)
    (found : stringLiteral raw start quote (text ++ rest) = .token kind text.length) :
    stringLiteral raw start quote (text ++ tail) = .token kind text.length := by
  unfold stringLiteral at found ⊢
  dsimp only at found ⊢
  split at found
  next triple =>
    have within := (closingEnd?_bounds (delimited_eq_token found).2).1
    simp only [List.length_cons, List.length_nil] at within
    rw [List.drop_append_of_le_length (by omega)] at triple
    rw [List.drop_append_of_le_length (by omega),
      isPrefixOf_swap tail rest (by simp only [List.length_cons, List.length_nil, List.length_drop]; omega), if_pos triple]
    exact delimited_swap (by simp) found
  next single =>
    have within := (closingEnd?_bounds (delimited_eq_token found).2).1
    simp only [List.length_cons, List.length_nil] at within
    rw [List.drop_append_of_le_length (by omega)] at single
    have still : ¬ [quote, quote, quote].isPrefixOf (text.drop start ++ tail) = true := by
      match left : text.drop start, tail, apart with
      | [], _, _ | [_], _, _ =>
        have short := congrArg List.length left
        simp only [List.length_drop, List.length_cons, List.length_nil] at short
        omega
      | [a, b], [], _ => simp
      | [a, b], c :: others, apart =>
        intro before
        simp only [List.cons_append, List.nil_append, List.isPrefixOf_cons_cons, Bool.and_eq_true, beq_iff_eq] at before
        obtain ⟨_, _, rfl, _⟩ := before
        rw [space_not_quote quote apart] at quoted
        cases quoted
      | a :: b :: c :: others, tail, _ =>
        rw [left] at single
        rwa [isPrefixOf_swap tail rest (by simp)]
    rw [List.drop_append_of_le_length (by omega), if_neg still]
    exact delimited_swap (by simp) found

end Delimiters

section Words
variable {kind : TokenKind}

private theorem word_swap (apart : Apart tail) (found : word (text ++ rest) = .token kind text.length) :
    word (text ++ tail) = .token kind text.length := by
  unfold word at found ⊢
  dsimp only at found ⊢
  rw [takeWhile_swap space_not_namePart apart (Nat.le_of_eq (Lexeme.token.inj found).2)]
  exact found

private theorem wordKind_ordinary (name : List Char) : wordKind name ≠ .endOfInput := by
  unfold wordKind
  split <;> decide

theorem namePart_of_start {c : Char} (starts : isNameStart c) : isNamePart c := by
  simp only [isNameStart, isNamePart, Bool.or_eq_true, Char.isAlphanum] at starts ⊢
  exact starts.imp_left .inl

theorem word_bounds {c : Char} {others : List Char} {length : Nat} (starts : isNameStart c)
    (found : word (c :: others) = .token kind length) :
    0 < length ∧ length ≤ (c :: others).length ∧ kind ≠ .endOfInput := by
  unfold word at found
  dsimp only at found
  rw [List.takeWhile_cons_of_pos (namePart_of_start starts)] at found
  obtain ⟨rfl, rfl⟩ := Lexeme.token.inj found
  have within := (List.takeWhile_prefix (l := others) isNamePart).length_le
  simp only [List.length_cons]
  exact ⟨by omega, by omega, wordKind_ordinary _⟩

private theorem symbol?_bounds {source : List Char} {length : Nat} (found : symbol? source = some (kind, length)) :
    0 < length ∧ length ≤ source.length ∧ length ≤ 2 ∧ kind ≠ .endOfInput ∧ kind ≠ .identifier := by
  unfold symbol? at found
  split at found <;> cases found <;> simp

private theorem symbol?_swap (apart : Apart tail) (found : symbol? (text ++ rest) = some (kind, text.length)) :
    symbol? (text ++ tail) = some (kind, text.length) := by
  have bounds := symbol?_bounds found
  match text with
  | [] => exact absurd bounds.1 (by decide)
  | [c] =>
    generalize front : [c] ++ rest = source at found
    unfold symbol? at found
    split at found <;> cases found <;> cases front
    all_goals
      cases tail with
      | nil => rfl
      | cons d others => rcases isSpace_cases apart with rfl | rfl | rfl | rfl <;> rfl
  | [c, d] =>
    generalize front : [c, d] ++ rest = source at found
    unfold symbol? at found
    split at found <;> cases found <;> cases front
    all_goals rfl
  | _ :: _ :: _ :: _ => simp at bounds

end Words

section Dispatch

/-- What a source is read as that does not begin with a quote or a marked one. -/
def unquoted (c : Char) (source : List Char) : Lexeme :=
  if c.isDigit then number source
  else if isNameStart c then word source
  else match symbol? source with
    | some (kind, length) => .token kind length
    | none => .unexpected c

def isRawMark (c : Char) : Bool :=
  c == 'r' || c == 'R'

def isBytesMark (c : Char) : Bool :=
  c == 'b' || c == 'B'

/-- A first character that a quote behind it would make the mark of a literal has none. -/
def Unmarked (c : Char) (others : List Char) : Prop :=
  others.head?.filter isQuote = none ∨ (isRawMark c = false ∧ isBytesMark c = false)

theorem read_quote {c : Char} (others : List Char) (quoted : isQuote c) :
    Lexeme.read (c :: others) = stringLiteral false 0 c (c :: others) := by
  simp only [Lexeme.read, quoted]

theorem read_raw {c quote : Char} (others : List Char) (marks : isRawMark c) (quoted : isQuote quote) :
    Lexeme.read (c :: quote :: others) = stringLiteral true 1 quote (c :: quote :: others) := by
  have unquoted : isQuote c = false := by
    rcases (by simpa [isRawMark] using marks) with rfl | rfl <;> rfl
  simp only [isRawMark] at marks
  simp only [Lexeme.read, unquoted, marks, List.head?_cons, Option.filter_some, quoted, if_true]

theorem read_bytes {c quote : Char} (others : List Char) (marks : isBytesMark c) (quoted : isQuote quote) :
    Lexeme.read (c :: quote :: others) = delimited .bytes .bytes [quote] false 2 (c :: quote :: others) := by
  have unquoted : isQuote c = false ∧ (c == 'r' || c == 'R') = false := by
    rcases (by simpa [isBytesMark] using marks) with rfl | rfl <;> exact ⟨rfl, rfl⟩
  simp only [isBytesMark] at marks
  simp only [Lexeme.read, unquoted.1, unquoted.2, marks, List.head?_cons, Option.filter_some, quoted, if_true]

theorem read_unquoted {c : Char} {others : List Char} (plain : isQuote c = false) (unmarked : Unmarked c others) :
    Lexeme.read (c :: others) = unquoted c (c :: others) := by
  simp only [Unmarked, isRawMark, isBytesMark] at unmarked
  rcases unmarked with none | ⟨notRaw, notBytes⟩
  · simp only [Lexeme.read, plain, none]
    rfl
  · simp only [Lexeme.read, plain, notRaw, notBytes]
    cases others.head?.filter isQuote <;> rfl

private theorem unmarked_swap {c : Char} {others : List Char} (apart : Apart tail)
    (unmarked : Unmarked c (others ++ rest)) :
    Unmarked c (others ++ tail) := by
  cases others with
  | cons d more => exact unmarked
  | nil =>
    refine .inl ?_
    cases tail with
    | nil => rfl
    | cons d more =>
      rw [List.nil_append, List.head?_cons, Option.filter_some, space_not_quote d apart]
      rfl

private theorem unquoted_swap {c : Char} {kind : TokenKind} (apart : Apart tail)
    (found : unquoted c (text ++ rest) = .token kind text.length) : unquoted c (text ++ tail) = .token kind text.length := by
  unfold unquoted at found ⊢
  split at found
  next digit => rw [if_pos digit, number_swap apart found]
  next digit =>
    rw [if_neg digit]
    split at found
    next starts => rw [if_pos starts, word_swap apart found]
    next starts =>
      rw [if_neg starts]
      cases symbol : symbol? (text ++ rest) with
      | none => simp only [symbol] at found; cases found
      | some pair =>
        obtain ⟨made, length⟩ := pair
        simp only [symbol] at found
        obtain ⟨rfl, rfl⟩ := Lexeme.token.inj found
        rw [symbol?_swap apart symbol]

/-- How `read` decides by the first two characters. -/
theorem read_cases (c : Char) (others : List Char) :
    (isQuote c = true ∧ Lexeme.read (c :: others) = stringLiteral false 0 c (c :: others)) ∨
      (∃ quote more, others = quote :: more ∧ isQuote quote = true ∧ isRawMark c = true ∧
        Lexeme.read (c :: others) = stringLiteral true 1 quote (c :: others)) ∨
      (∃ quote more, others = quote :: more ∧ isQuote quote = true ∧ isBytesMark c = true ∧
        Lexeme.read (c :: others) = delimited .bytes .bytes [quote] false 2 (c :: others)) ∨
      (isQuote c = false ∧ Unmarked c others ∧ Lexeme.read (c :: others) = unquoted c (c :: others)) := by
  by_cases quoted : isQuote c
  · exact .inl ⟨quoted, read_quote others quoted⟩
  · have plain : isQuote c = false := by simpa using quoted
    by_cases unmarked : Unmarked c others
    · exact .inr (.inr (.inr ⟨plain, unmarked, read_unquoted plain unmarked⟩))
    · obtain ⟨followed, marked⟩ := not_or.mp unmarked
      cases others with
      | nil => exact absurd rfl followed
      | cons quote more =>
        have quotes : isQuote quote := by simpa [Option.filter_some] using followed
        by_cases raw : isRawMark c
        · exact .inr (.inl ⟨quote, more, rfl, quotes, raw, read_raw more raw quotes⟩)
        · have bytes : isBytesMark c := by simpa [raw] using marked
          exact .inr (.inr (.inl ⟨quote, more, rfl, quotes, bytes, read_bytes more bytes quotes⟩))

end Dispatch

theorem unquoted_bounds {c : Char} {others : List Char} {kind : TokenKind} {length : Nat}
    (found : unquoted c (c :: others) = .token kind length) :
    0 < length ∧ length ≤ (c :: others).length ∧ kind ≠ .endOfInput := by
  unfold unquoted at found
  split at found
  next digit =>
    obtain ⟨filled, within, kinds⟩ := number_bounds digit found
    exact ⟨filled, within, by rcases kinds with rfl | rfl | rfl <;> decide⟩
  next =>
    split at found
    next starts => exact word_bounds starts found
    next =>
      cases symbol : symbol? (c :: others) with
      | none => simp only [symbol] at found; cases found
      | some pair =>
        obtain ⟨made, length⟩ := pair
        simp only [symbol] at found
        obtain ⟨rfl, rfl⟩ := Lexeme.token.inj found
        have bounds := symbol?_bounds symbol
        exact ⟨bounds.1, bounds.2.1, bounds.2.2.2.1⟩

theorem read_bounds {source : List Char} {kind : TokenKind} {length : Nat} (found : Lexeme.read source = .token kind length) :
    0 < length ∧ length ≤ source.length ∧ kind ≠ .endOfInput := by
  cases source with
  | nil => cases found
  | cons c others =>
    rcases read_cases c others with ⟨_, same⟩ | ⟨_, _, _, _, _, same⟩ | ⟨_, _, _, _, _, same⟩ | ⟨_, _, same⟩
    · obtain ⟨rfl, filled, within⟩ := stringLiteral_bounds (same ▸ found)
      exact ⟨by omega, within, by decide⟩
    · obtain ⟨rfl, filled, within⟩ := stringLiteral_bounds (same ▸ found)
      exact ⟨by omega, within, by decide⟩
    · obtain ⟨rfl, filled, within⟩ := delimited_bounds (same ▸ found)
      exact ⟨by omega, within, by decide⟩
    · exact unquoted_bounds (same ▸ found)

theorem read_identifier {c : Char} {others : List Char} {length : Nat}
    (found : Lexeme.read (c :: others) = .token .identifier length) :
    isNameStart c ∧ word (c :: others) = .token .identifier length := by
  rcases read_cases c others with ⟨_, same⟩ | ⟨_, _, _, _, _, same⟩ | ⟨_, _, _, _, _, same⟩ | ⟨_, _, same⟩
  · cases (stringLiteral_bounds (same ▸ found)).1
  · cases (stringLiteral_bounds (same ▸ found)).1
  · cases (delimited_bounds (same ▸ found)).1
  · rw [same, unquoted] at found
    split at found
    next digit => rcases (number_bounds digit found).2.2 with kind | kind | kind <;> cases kind
    next =>
      split at found
      next starts => exact ⟨starts, found⟩
      next =>
        cases symbol : symbol? (c :: others) with
        | none => simp only [symbol] at found; cases found
        | some pair =>
          obtain ⟨made, length⟩ := pair
          simp only [symbol] at found
          obtain ⟨rfl, rfl⟩ := Lexeme.token.inj found
          exact absurd rfl (symbol?_bounds symbol).2.2.2.2

/-- The same lexeme is read when other text stands behind it, as long as that is apart. -/
theorem read_swap {kind : TokenKind} (apart : Apart tail) (filled : text ≠ [])
    (found : Lexeme.read (text ++ rest) = .token kind text.length) :
    Lexeme.read (text ++ tail) = .token kind text.length := by
  obtain ⟨c, others, rfl⟩ := List.exists_cons_of_ne_nil filled
  rw [List.cons_append] at found
  rcases read_cases c (others ++ rest) with ⟨quoted, same⟩ | ⟨quote, more, front, quoted, marks, same⟩ |
    ⟨quote, more, front, quoted, marks, same⟩ | ⟨plain, unmarked, same⟩
  · rw [same, ← List.cons_append] at found
    rw [List.cons_append, read_quote _ quoted, ← List.cons_append]
    exact stringLiteral_swap apart quoted found
  · rw [same, ← List.cons_append] at found
    have filled := (stringLiteral_bounds found).2.1
    cases others with
    | nil => simp at filled
    | cons d others =>
      cases front
      rw [List.cons_append, List.cons_append, read_raw _ marks quoted, ← List.cons_append, ← List.cons_append]
      exact stringLiteral_swap apart quoted found
  · rw [same, ← List.cons_append] at found
    have filled := (delimited_bounds found).2.1
    cases others with
    | nil => simp at filled
    | cons d others =>
      cases front
      rw [List.cons_append, List.cons_append, read_bytes _ marks quoted, ← List.cons_append, ← List.cons_append]
      exact delimited_swap (by simp) found
  · rw [same, ← List.cons_append] at found
    rw [List.cons_append, read_unquoted plain (unmarked_swap apart unmarked), ← List.cons_append]
    exact unquoted_swap apart found

end CommonExpr.Proofs.LexemeExtent

import CommonExpr.Value.Convert

/-! Texts that are converted to integers. Without the white space around it such a text is a
numeral: a sign or none, and decimal digits. These are not only 0 to 9 in a row: the digits of
every script count, and a single underscore may stand between two of them. -/

namespace CommonExpr.Proofs.IntegerNumerals

section Numerals

/-- One or more of the digits 0 to 9, and what they count. -/
def Plain (digits : List Char) (values : List Nat) : Prop :=
  digits ≠ [] ∧ (∀ c ∈ digits, c.isDigit) ∧ values = digits.map fun c => c.toNat - '0'.toNat

/-- One or more digits of any script, with or without an underscore between two, and what they count. -/
inductive Grouped : List Char → List Nat → Prop where
  | last {c : Char} {value : Nat} (digit : Text.decimalDigit? c = some value) : Grouped [c] [value]
  | next {c : Char} {value : Nat} {rest : List Char} {values : List Nat} (digit : Text.decimalDigit? c = some value)
      (more : Grouped rest values) : Grouped (c :: rest) (value :: values)
  | apart {c : Char} {value : Nat} {rest : List Char} {values : List Nat} (digit : Text.decimalDigit? c = some value)
      (more : Grouped rest values) : Grouped (c :: '_' :: rest) (value :: values)

/-- A sign or none, and digits that are not too many to be converted. -/
inductive Numeral (Spells : List Char → List Nat → Prop) : List Char → Int → Prop where
  | unsigned {digits : List Char} {values : List Nat} (spelled : Spells digits values)
      (few : values.length ≤ digitLimit) : Numeral Spells digits (Text.ofDigits 10 values)
  | plus {digits : List Char} {values : List Nat} (spelled : Spells digits values)
      (few : values.length ≤ digitLimit) : Numeral Spells ('+' :: digits) (Text.ofDigits 10 values)
  | minus {digits : List Char} {values : List Nat} (spelled : Spells digits values)
      (few : values.length ≤ digitLimit) : Numeral Spells ('-' :: digits) (-Text.ofDigits 10 values)

end Numerals

section Characters
variable {c : Char} {value : Nat}

/-- What a character is taken for before the text is read. -/
def reduced (c : Char) : Char :=
  if c.toNat < 127 then c
  else if Text.isBlank c then ' '
  else match Text.decimalDigit? c with
    | some digit => Char.ofNat ('0'.toNat + digit)
    | none => '?'

private theorem plainDigits_eq (text : String) : plainDigits text = text.toList.map reduced := rfl

theorem isDigit_small (digit : c.isDigit) : c.toNat < 127 :=
  Nat.lt_of_le_of_lt (Char.isDigit_iff_toNat.mp digit).2 (by decide)

/-- Of the ASCII characters only 0 to 9 are digits. -/
theorem decimalDigit?_ascii (ascii : c.toNat < 128) :
    Text.decimalDigit? c = if c.isDigit then some (c.toNat - '0'.toNat) else none := by
  have table : ∀ code < 128, Text.decimalDigit? (Char.ofNat code) =
      if (Char.ofNat code).isDigit then some ((Char.ofNat code).toNat - '0'.toNat) else none := by
    decide +kernel
  simpa using table c.toNat ascii

/-- A digit stands in a row of ten behind one of the zeros. -/
theorem decimalDigit?_cases (digit : Text.decimalDigit? c = some value) :
    value < 10 ∧ ∃ first ∈ Text.zeros, c = Char.ofNat (first + value) := by
  obtain ⟨first, found, rfl⟩ := Option.map_eq_some_iff.mp digit
  have inside := List.find?_some found
  simp only [Bool.and_eq_true, decide_eq_true_eq] at inside
  refine ⟨by omega, first, List.mem_of_find?_eq_some found, ?_⟩
  rw [Nat.add_sub_cancel' inside.1, Char.ofNat_toNat]

theorem not_blank_of_digit (digit : Text.decimalDigit? c = some value) : Text.isBlank c = false := by
  have table : ∀ first ∈ Text.zeros, ∀ value < 10, Text.isBlank (Char.ofNat (first + value)) = false := by
    decide +kernel
  obtain ⟨small, first, zero, rfl⟩ := decimalDigit?_cases digit
  exact table first zero value small

theorem digitChar_of_isDigit (digit : c.isDigit) : (c.toNat - '0'.toNat).digitChar = c := by
  have table : ∀ code < 127, (Char.ofNat code).isDigit →
      ((Char.ofNat code).toNat - '0'.toNat).digitChar = Char.ofNat code := by
    decide +kernel
  simpa [digit] using table c.toNat (isDigit_small digit)

private theorem reduced_digit (digit : Text.decimalDigit? c = some value) : reduced c = value.digitChar := by
  by_cases small : c.toNat < 127
  · rw [decimalDigit?_ascii (Nat.lt_succ_of_lt small)] at digit
    split at digit
    next plain =>
      cases digit
      rw [reduced, if_pos small, digitChar_of_isDigit plain]
    next => cases digit
  · have table : ∀ value < 10, Char.ofNat ('0'.toNat + value) = value.digitChar := by decide
    rw [reduced, if_neg small, not_blank_of_digit digit, digit]
    exact table value (decimalDigit?_cases digit).1

private theorem digit_of_reduced (digit : (reduced c).isDigit) : ∃ value, Text.decimalDigit? c = some value := by
  unfold reduced at digit
  split at digit
  next small => exact ⟨_, by rw [decimalDigit?_ascii (Nat.lt_succ_of_lt small), if_pos digit]⟩
  next =>
    split at digit
    next => cases digit
    next =>
      split at digit
      next value found => exact ⟨value, found⟩
      next => cases digit

/-- A character beyond the first ones is no mark of a numeral and is not taken for one. -/
theorem reduced_eq_iff {mark : Char} (marks : mark = '-' ∨ mark = '+' ∨ mark = '_') : reduced c = mark ↔ c = mark := by
  by_cases small : c.toNat < 127
  · rw [reduced, if_pos small]
  · have apart : c ≠ mark := by
      rintro rfl
      rcases marks with rfl | rfl | rfl <;> exact absurd small (by decide)
    refine iff_of_false (fun same => ?_) apart
    cases digit : Text.decimalDigit? c with
    | some value =>
      have few : ∀ value < 10, value.digitChar ≠ '-' ∧ value.digitChar ≠ '+' ∧ value.digitChar ≠ '_' := by decide
      obtain ⟨minus, plus, underscore⟩ := few value (decimalDigit?_cases digit).1
      rw [reduced_digit digit] at same
      rcases marks with rfl | rfl | rfl <;> contradiction
    | none =>
      rw [reduced, if_neg small, digit] at same
      split at same <;> rcases marks with rfl | rfl | rfl <;> cases same

private theorem isMargin_reduced (margin : isMargin (reduced c)) : Text.isBlank c := by
  by_cases blank : Text.isBlank c
  · exact blank
  · have few : ∀ value < 10, isMargin value.digitChar = false := by decide
    cases digit : Text.decimalDigit? c with
    | some value =>
      rw [reduced_digit digit, few value (decimalDigit?_cases digit).1] at margin
      cases margin
    | none =>
      rw [reduced, if_neg blank, digit] at margin
      split at margin
      next =>
        simp only [isMargin, Bool.or_eq_true, Bool.and_eq_true, beq_iff_eq, decide_eq_true_eq] at margin
        rcases margin with rfl | bounds
        · rfl
        · simp [Text.isBlank, bounds.1, bounds.2]
      next => cases margin

end Characters

section Digits
variable {characters digits : List Char} {values : List Nat} {value : Nat}

theorem Grouped.small (grouped : Grouped characters values) : ∀ value ∈ values, value < 10 := by
  induction grouped with
  | last digit => exact List.forall_mem_singleton.mpr (decimalDigit?_cases digit).1
  | next digit _ ih => exact List.forall_mem_cons.mpr ⟨(decimalDigit?_cases digit).1, ih⟩
  | apart digit _ ih => exact List.forall_mem_cons.mpr ⟨(decimalDigit?_cases digit).1, ih⟩

private theorem isDigit_digitChar (small : value < 10) : value.digitChar.isDigit := by
  rw [Nat.isDigit_digitChar, decide_eq_true small]

private theorem ungroup_digit (digit : Text.decimalDigit? c = some value) (afterDigit : Bool) (rest : List Char) :
    ungroup afterDigit (reduced c :: rest) = (ungroup true rest).map (value.digitChar :: ·) := by
  have plain := isDigit_digitChar (decimalDigit?_cases digit).1
  have other : value.digitChar ≠ '_' := by
    intro same
    rw [same] at plain
    cases plain
  rw [reduced_digit digit, ungroup, plain]
  exact other

/-- Without its underscores a grouped number is its digits from 0 to 9. -/
theorem Grouped.ungroup (grouped : Grouped characters values) (afterDigit : Bool) :
    CommonExpr.ungroup afterDigit (characters.map reduced) = some (values.map Nat.digitChar) := by
  induction grouped generalizing afterDigit with
  | last digit => exact ungroup_digit digit afterDigit []
  | next digit _ ih => rw [List.map_cons, ungroup_digit digit, ih, Option.map_some, List.map_cons]
  | @apart c value rest values digit more ih =>
    have head : (rest.map reduced).head?.any Char.isDigit := by
      cases more with
      | last digit | next digit _ | apart digit _ =>
        simp [reduced_digit digit, isDigit_digitChar (decimalDigit?_cases digit).1]
    have underscore : reduced '_' = '_' := rfl
    rw [List.map_cons, List.map_cons, ungroup_digit digit, underscore, CommonExpr.ungroup, head, Bool.and_self, if_pos rfl,
      ih, Option.map_some, List.map_cons]

/-- What has only digits besides its underscores is empty, or grouped, or goes on with an underscore
behind the digit before it. -/
theorem grouped_of_ungroup {afterDigit : Bool} (left : CommonExpr.ungroup afterDigit (characters.map reduced) = some digits)
    (all : digits.all Char.isDigit) : characters = [] ∨ (∃ values, Grouped characters values) ∨
      (afterDigit = true ∧ ∃ rest values, characters = '_' :: rest ∧ Grouped rest values) := by
  induction characters generalizing afterDigit digits with
  | nil => exact .inl rfl
  | cons c rest ih =>
    rw [List.map_cons] at left
    by_cases underscore : c = '_'
    · subst underscore
      rw [show reduced '_' = '_' from rfl, CommonExpr.ungroup] at left
      split at left
      next shape =>
        obtain ⟨after, head⟩ := Bool.and_eq_true_iff.mp shape
        rcases ih left all with rfl | ⟨values, grouped⟩ | ⟨none, _⟩
        · cases head
        · exact .inr (.inr ⟨after, rest, values, rfl, grouped⟩)
        · cases none
      next => cases left
    · rw [CommonExpr.ungroup] at left
      · obtain ⟨others, further, rfl⟩ := Option.map_eq_some_iff.mp left
        rw [List.all_cons, Bool.and_eq_true] at all
        obtain ⟨value, digit⟩ := digit_of_reduced all.1
        rw [all.1] at further
        rcases ih further all.2 with rfl | ⟨values, grouped⟩ | ⟨_, behind, values, rfl, grouped⟩
        · exact .inr (.inl ⟨[value], .last digit⟩)
        · exact .inr (.inl ⟨value :: values, .next digit grouped⟩)
        · exact .inr (.inl ⟨value :: values, .apart digit grouped⟩)
      · exact fun same => underscore ((reduced_eq_iff (.inr (.inr rfl))).mp same)

theorem readDigits?_digitChars (small : ∀ value ∈ values, value < 10) (filled : values ≠ []) :
    readDigits? (values.map Nat.digitChar) =
      if values.length ≤ digitLimit then some (Text.ofDigits 10 values) else none := by
  have digit : ∀ value < 10, Text.decimalDigit? value.digitChar = some value := by decide
  have each : (values.map Nat.digitChar).mapM Text.decimalDigit? = some values := by
    clear filled
    induction values with
    | nil => rfl
    | cons value rest ih =>
      obtain ⟨first, others⟩ := List.forall_mem_cons.mp small
      rw [List.map_cons, List.mapM_cons, digit value first, ih others]
      rfl
  rw [readDigits?, List.length_map, each]
  by_cases few : values.length ≤ digitLimit
  · rw [if_pos few, if_neg (by simp [filled, Nat.not_lt.mpr few])]
    rfl
  · rw [if_neg few, if_pos (.inr (Nat.lt_of_not_le few))]

theorem Grouped.filled (grouped : Grouped characters values) : values ≠ [] := by
  cases grouped <;> exact List.cons_ne_nil _ _

/-- A text is read as digits exactly if it is a grouped number of not too many. -/
theorem digits_read_iff : (∃ digits, CommonExpr.ungroup false (characters.map reduced) = some digits ∧
      digits.all Char.isDigit ∧ readDigits? digits = some value) ↔
    ∃ values, Grouped characters values ∧ values.length ≤ digitLimit ∧ Text.ofDigits 10 values = value := by
  have read {values : List Nat} (grouped : Grouped characters values) := readDigits?_digitChars grouped.small grouped.filled
  constructor
  · rintro ⟨digits, left, all, counted⟩
    rcases grouped_of_ungroup left all with rfl | ⟨values, grouped⟩ | ⟨none, _⟩
    · cases left
      cases counted
    · rw [grouped.ungroup] at left
      cases left
      rw [read grouped] at counted
      split at counted
      next few => exact ⟨values, grouped, few, Option.some.inj counted⟩
      next => cases counted
    · cases none
  · rintro ⟨values, grouped, few, rfl⟩
    refine ⟨_, grouped.ungroup false, ?_, by rw [read grouped, if_pos few]⟩
    simpa using fun value member => isDigit_digitChar (grouped.small value member)

end Digits

section Signs
variable {characters : List Char} {values : List Nat} {value : Int}

private theorem splitSign_reduced (characters : List Char) :
    splitSign (characters.map reduced) = ((splitSign characters).1, (splitSign characters).2.map reduced) := by
  cases characters with
  | nil => rfl
  | cons c rest =>
    rw [List.map_cons]
    by_cases minus : c = '-'
    · subst minus
      rfl
    · by_cases plus : c = '+'
      · subst plus
        rfl
      · have notMinus := mt (reduced_eq_iff (.inl rfl)).mp minus
        have notPlus := mt (reduced_eq_iff (.inr (.inl rfl))).mp plus
        simp [splitSign, minus, plus, notMinus, notPlus]

/-- A numeral is its sign and the digits behind that. -/
theorem numeral_iff {Spells : List Char → List Nat → Prop} (unsigned : ∀ values rest,
      ¬ Spells ('-' :: rest) values ∧ ¬ Spells ('+' :: rest) values) : Numeral Spells characters value ↔
    ∃ values, Spells (splitSign characters).2 values ∧ values.length ≤ digitLimit ∧
      (if (splitSign characters).1 then -(Text.ofDigits 10 values : Int) else Text.ofDigits 10 values) = value := by
  constructor
  · rintro (⟨spelled, few⟩ | ⟨spelled, few⟩ | ⟨spelled, few⟩)
    · refine ⟨_, ?_, few, ?_⟩ <;> unfold splitSign <;> split
      all_goals first | exact absurd spelled (unsigned _ _).1 | exact absurd spelled (unsigned _ _).2 | skip
      · exact spelled
      · rfl
    · exact ⟨_, spelled, few, rfl⟩
    · exact ⟨_, spelled, few, rfl⟩
  · unfold splitSign
    rintro ⟨values, spelled, few, rfl⟩
    split at spelled
    · exact .minus spelled few
    · exact .plus spelled few
    · exact .unsigned spelled few

end Signs

section Margins
variable {drop : Char → Bool} {characters : List Char}

theorem strip_of_ends (first : ∀ c ∈ characters.head?, drop c = false) (last : ∀ c ∈ characters.getLast?, drop c = false) :
    Text.strip drop characters = characters := by
  have kept {characters : List Char} (first : ∀ c ∈ characters.head?, drop c = false) :
      characters.dropWhile drop = characters := by
    cases characters with
    | nil => rfl
    | cons c rest => rw [List.dropWhile_cons_of_neg (by simp [first c rfl])]
  rw [Text.strip, kept first, kept (by simpa using last), List.reverse_reverse]

private theorem head_dropWhile (characters : List Char) : ∀ c ∈ (characters.dropWhile drop).head?, drop c = false := by
  intro c member
  have first := List.head?_dropWhile_not drop characters
  rwa [Option.mem_def.mp member] at first

/-- Neither end of what is left is to be dropped. -/
theorem strip_ends (drop : Char → Bool) (characters : List Char) :
    (∀ c ∈ (Text.strip drop characters).head?, drop c = false) ∧
      ∀ c ∈ (Text.strip drop characters).getLast?, drop c = false := by
  refine ⟨fun c member => ?_, fun c member => ?_⟩
  · obtain ⟨dropped, whole⟩ := List.dropWhile_suffix drop (l := (characters.dropWhile drop).reverse)
    rw [Text.strip, List.head?_reverse] at member
    have last : c ∈ (characters.dropWhile drop).reverse.getLast? := by
      rw [← whole, List.getLast?_append, Option.mem_def.mp member]
      rfl
    rw [List.getLast?_reverse] at last
    exact head_dropWhile characters c last
  · rw [Text.strip, List.getLast?_reverse] at member
    exact head_dropWhile _ c member

/-- What surrounds a number is white space, so nothing is left of it in a trimmed text. -/
theorem margins_trimmed (text : String) :
    Text.strip isMargin (plainDigits (Text.trim text)) = (Text.trim text).toList.map reduced := by
  have inner {c : Char} (solid : Text.isBlank c = false) : isMargin (reduced c) = false := by
    refine Bool.eq_false_iff.mpr fun margin => ?_
    cases (isMargin_reduced margin).symm.trans solid
  obtain ⟨first, last⟩ := strip_ends Text.isBlank text.toList
  rw [plainDigits_eq, Text.trim, String.toList_ofList]
  refine strip_of_ends (fun c member => ?_) (fun c member => ?_)
  · rw [List.head?_map] at member
    obtain ⟨held, inside, rfl⟩ := Option.map_eq_some_iff.mp member
    exact inner (first held inside)
  · rw [List.getLast?_map] at member
    obtain ⟨held, inside, rfl⟩ := Option.map_eq_some_iff.mp member
    exact inner (last held inside)

end Margins

section Conversion

variable {text : String} {value : Int} {digits : List Char} {values : List Nat}

private theorem readInteger?_trimmed_iff : readInteger? (Text.trim text) = some value ↔
    ∃ count, (∃ digits, ungroup false ((splitSign (Text.trim text).toList).2.map reduced) = some digits ∧
        digits.all Char.isDigit ∧ readDigits? digits = some count) ∧
      (if (splitSign (Text.trim text).toList).1 then -(count : Int) else count) = value := by
  rw [readInteger?, margins_trimmed, splitSign_reduced]
  constructor
  · intro read
    obtain ⟨digits, left, read⟩ := Option.bind_eq_some_iff.mp read
    cases all : digits.all Char.isDigit with
    | false =>
      rw [all] at read
      cases read
    | true =>
      rw [all] at read
      obtain ⟨count, counted, same⟩ := Option.bind_eq_some_iff.mp read
      exact ⟨count, ⟨digits, left, all, counted⟩, Option.some.inj same⟩
  · rintro ⟨count, ⟨digits, left, all, counted⟩, rfl⟩
    refine Option.bind_eq_some_iff.mpr ⟨digits, left, ?_⟩
    rw [if_neg (by simp [all]), counted]
    rfl

theorem Grouped.unsigned (values : List Nat) (rest : List Char) :
    ¬ Grouped ('-' :: rest) values ∧ ¬ Grouped ('+' :: rest) values := by
  have marks : Text.decimalDigit? '-' = none ∧ Text.decimalDigit? '+' = none := by decide
  constructor
  · rintro (⟨digit⟩ | ⟨digit, _⟩ | ⟨digit, _⟩) <;> cases marks.1.symm.trans digit
  · rintro (⟨digit⟩ | ⟨digit, _⟩ | ⟨digit, _⟩) <;> cases marks.2.symm.trans digit

theorem toInt_eq_ok_iff (kind : TextKind) :
    (Value.text kind text).toInt = .ok value ↔ Numeral Grouped (Text.trim text).toList value := by
  have converted : (Value.text kind text).toInt = .ok value ↔ readInteger? (Text.trim text) = some value := by
    rw [Value.toInt]
    cases readInteger? (Text.trim text) <;> simp
  rw [converted, readInteger?_trimmed_iff, numeral_iff Grouped.unsigned]
  simp only [digits_read_iff]
  constructor
  · rintro ⟨count, ⟨values, grouped, few, rfl⟩, same⟩
    exact ⟨values, grouped, few, same⟩
  · rintro ⟨values, grouped, few, same⟩
    exact ⟨_, ⟨values, grouped, few, rfl⟩, same⟩

theorem Plain.cons {c : Char} (digit : c.isDigit) (plain : Plain digits values) :
    Plain (c :: digits) ((c.toNat - '0'.toNat) :: values) :=
  ⟨List.cons_ne_nil _ _, List.forall_mem_cons.mpr ⟨digit, plain.2.1⟩, by rw [plain.2.2, List.map_cons]⟩

theorem Plain.grouped (plain : Plain digits values) : Grouped digits values := by
  obtain ⟨filled, all, rfl⟩ := plain
  have denotes {c : Char} (digit : c.isDigit) : Text.decimalDigit? c = some (c.toNat - '0'.toNat) := by
    rw [decimalDigit?_ascii (Nat.lt_succ_of_lt (isDigit_small digit)), if_pos digit]
  induction digits with
  | nil => exact absurd rfl filled
  | cons c rest ih =>
    obtain ⟨first, others⟩ := List.forall_mem_cons.mp all
    cases rest with
    | nil => exact .last (denotes first)
    | cons d rest => exact .next (denotes first) (ih (List.cons_ne_nil _ _) others)

theorem Grouped.plain (grouped : Grouped digits values) (ascii : ∀ c ∈ digits, c.toNat < 128 ∧ c ≠ '_') :
    Plain digits values := by
  have denotes {c : Char} {value : Nat} (small : c.toNat < 128) (digit : Text.decimalDigit? c = some value) :
      c.isDigit ∧ value = c.toNat - '0'.toNat := by
    rw [decimalDigit?_ascii small] at digit
    split at digit
    next plain => exact ⟨plain, (Option.some.inj digit).symm⟩
    next => cases digit
  induction grouped with
  | last digit =>
    obtain ⟨plain, rfl⟩ := denotes (ascii _ List.mem_cons_self).1 digit
    exact ⟨List.cons_ne_nil _ _, List.forall_mem_singleton.mpr plain, rfl⟩
  | next digit _ ih =>
    obtain ⟨first, others⟩ := List.forall_mem_cons.mp ascii
    obtain ⟨plain, rfl⟩ := denotes first.1 digit
    exact (ih others).cons plain
  | apart _ _ _ => exact absurd rfl (ascii '_' (by simp)).2

theorem Plain.ascii (plain : Plain digits values) : ∀ c ∈ digits, c.toNat < 128 ∧ c ≠ '_' := by
  intro c member
  have digit := plain.2.1 c member
  refine ⟨Nat.lt_succ_of_lt (isDigit_small digit), ?_⟩
  rintro rfl
  cases digit

/-- What goes for the digits of a numeral goes for the whole, since the signs are ASCII too. -/
theorem plain_numeral_iff {written : List Char} : Numeral Plain written value ↔
    Numeral Grouped written value ∧ ∀ c ∈ written, c.toNat < 128 ∧ c ≠ '_' := by
  have plus : '+'.toNat < 128 ∧ '+' ≠ '_' := by decide
  have minus : '-'.toNat < 128 ∧ '-' ≠ '_' := by decide
  constructor
  · rintro (⟨plain, few⟩ | ⟨plain, few⟩ | ⟨plain, few⟩)
    · exact ⟨.unsigned plain.grouped few, plain.ascii⟩
    · exact ⟨.plus plain.grouped few, List.forall_mem_cons.mpr ⟨plus, plain.ascii⟩⟩
    · exact ⟨.minus plain.grouped few, List.forall_mem_cons.mpr ⟨minus, plain.ascii⟩⟩
  · rintro ⟨⟨grouped, few⟩ | ⟨grouped, few⟩ | ⟨grouped, few⟩, ascii⟩
    · exact .unsigned (grouped.plain ascii) few
    · exact .plus (grouped.plain (List.forall_mem_cons.mp ascii).2) few
    · exact .minus (grouped.plain (List.forall_mem_cons.mp ascii).2) few

/-- Texts that are converted to integers are numerals in the digits of any script, with or without
underscores between digits; every other text is rejected. Numerals in the digits 0 to 9 alone are those
of them that are written in ASCII and without underscores. -/
theorem converted_texts_are_numerals (kind : TextKind) (text : String) :
    let written := (Text.trim text).toList
    (∀ value, (Value.text kind text).toInt = .ok value ↔ Numeral Grouped written value) ∧
      ((¬ ∃ value, Numeral Grouped written value) →
        (Value.text kind text).toInt = .error (Value.unreadable kind text "int") ∧
          (Value.unreadable kind text "int").name = "InvalidArgumentsError") ∧
      ∀ value, Numeral Plain written value ↔ Numeral Grouped written value ∧ ∀ c ∈ written, c.toNat < 128 ∧ c ≠ '_' := by
  intro written
  refine ⟨fun value => toInt_eq_ok_iff kind, fun none => ⟨?_, rfl⟩, fun value => ?_⟩
  · cases outcome : (Value.text kind text).toInt with
    | ok value => exact absurd ⟨value, (toInt_eq_ok_iff kind).mp outcome⟩ none
    | error failure =>
      rw [Value.toInt] at outcome
      split at outcome
      next => cases outcome
      next => exact outcome.symm
  · exact plain_numeral_iff

/-- A sign, a digit of another script, an underscore and a digit are converted; a number with a point is not. -/
theorem signed_groups_converted :
    Numeral Grouped (Text.trim " -\u0664_2 ").toList (-42) ∧ (Value.string " -\u0664_2 ").toInt = .ok (-42) ∧
      (¬ ∃ value, Numeral Grouped (Text.trim "4.5").toList value) ∧
      (Value.string "4.5").toInt = .error (Value.unreadable .string "4.5" "int") := by
  have numeral : Numeral Grouped (Text.trim " -\u0664_2 ").toList (-42) := by
    have trimmed : (Text.trim " -\u0664_2 ").toList = ['-', '\u0664', '_', '2'] := by decide +kernel
    have digits : Grouped ['\u0664', '_', '2'] [4, 2] := .apart (by decide) (.last (by decide))
    rw [trimmed]
    exact .minus digits (by decide)
  have none : ¬ ∃ value, Numeral Grouped (Text.trim "4.5").toList value := by
    have trimmed : (Text.trim "4.5").toList = ['4', '.', '5'] := by decide +kernel
    have point : Text.decimalDigit? '.' = .none := by decide
    rw [trimmed]
    rintro ⟨_, ⟨_ | ⟨_, _ | ⟨digit, _⟩⟩, _⟩⟩
    cases point.symm.trans digit
  exact ⟨numeral, ((converted_texts_are_numerals .string _).1 _).mpr numeral, none,
    ((converted_texts_are_numerals .string _).2.1 none).1⟩

/-- Neither an underscore nor a digit of another script keeps a text from being converted. -/
theorem converted_though_not_plain :
    (Value.string "1_000").toInt = .ok 1000 ∧ (¬ ∃ value, Numeral Plain (Text.trim "1_000").toList value) ∧
      (Value.string "\u0661\u0662").toInt = .ok 12 ∧
      ¬ ∃ value, Numeral Plain (Text.trim "\u0661\u0662").toList value := by
  have thousand : (Text.trim "1_000").toList = ['1', '_', '0', '0', '0'] := by decide +kernel
  have twelve : (Text.trim "\u0661\u0662").toList = ['\u0661', '\u0662'] := by decide +kernel
  have grouped : Grouped ['1', '_', '0', '0', '0'] [1, 0, 0, 0] :=
    .apart (by decide) (.next (by decide) (.next (by decide) (.last (by decide))))
  have foreign : Grouped ['\u0661', '\u0662'] [1, 2] := .next (by decide) (.last (by decide))
  refine ⟨(toInt_eq_ok_iff .string).mpr ?_, ?_, (toInt_eq_ok_iff .string).mpr ?_, ?_⟩
  · rw [thousand]
    exact .unsigned grouped (by decide)
  · rintro ⟨value, numeral⟩
    rw [thousand, plain_numeral_iff] at numeral
    exact (numeral.2 '_' (by decide)).2 rfl
  · rw [twelve]
    exact .unsigned foreign (by decide)
  · rintro ⟨value, numeral⟩
    rw [twelve, plain_numeral_iff] at numeral
    exact absurd (numeral.2 '\u0661' (by decide)).1 (by decide)

end Conversion

end CommonExpr.Proofs.IntegerNumerals

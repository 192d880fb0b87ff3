import CommonExpr.Proofs.FieldQuestions
import CommonExpr.Proofs.IntegerNumerals
import CommonExpr.Proofs.OverlongIntegers

/-! Integers and their texts. The text that an integer is formatted as is converted to it, and as a
source it evaluates to it. If the integer is not negative, then this text and its hexadecimal spellings
are literals for it, each of them a single token, with or without the suffix of unsigned ones. -/

namespace CommonExpr.Proofs.IntegerTexts
open Lexeme LexemeExtent CutTexts Grammar Recognition Spelling TreePrinter EscapedLiterals OverlongIntegers
open FieldQuestions IntegerLiterals IntegerNumerals

section Spellings

/-- The decimal text of a number, and its texts in hexadecimal digits of either letter case behind
either mark, with any number of leading zeros. -/
inductive Spells : List Char → Nat → Prop where
  | decimal {number : Nat} {text : String} (written : (Value.int number).format = .ok text) : Spells text.toList number
  | hexadecimal {mark : Char} {digits : List Char} {values : List Nat} (marks : mark = 'x' ∨ mark = 'X')
      (filled : digits ≠ []) (digitwise : List.Forall₂ IsHexDigit digits values) :
      Spells ('0' :: mark :: digits) (Nat.ofDigits 16 values.reverse)

/-- What may stand behind a spelling, and which token and literal they are together. -/
inductive Suffix : List Char → TokenKind → LiteralKind → Prop where
  | signed : Suffix [] .int .int
  | lower : Suffix ['u'] .uint .uint
  | upper : Suffix ['U'] .uint .uint

end Spellings

section Decimal
variable {value : Int} {text : String} {number : Nat}

def HasFewDigits (value : Int) : Prop :=
  (Nat.toDigits 10 value.natAbs).length ≤ digitLimit

/-- The sign of a negative integer, and its digits. -/
def written (value : Int) : List Char :=
  (if value < 0 then ['-'] else []) ++ Nat.toDigits 10 value.natAbs

private theorem length_toDigits_le_iff {number limit : Nat} (some : 0 < limit) :
    (Nat.toDigits 10 number).length ≤ limit ↔ ¬ Nat.pow 10 limit ≤ number := by
  rw [Nat.length_toDigits_le_iff (by decide) some, Nat.not_le]
  rfl

/-- An integer of too many digits has no text, and every other one has this. -/
theorem format_eq_ok_iff :
    (Value.int value).format = .ok text ↔ HasFewDigits value ∧ text = String.ofList (written value) := by
  have formatted : (Value.int value).format = integerText value := rfl
  have few : HasFewDigits value ↔ ¬ Nat.pow 10 digitLimit ≤ value.natAbs := length_toDigits_le_iff (by decide)
  rw [few, formatted]
  unfold integerText integerText?
  generalize Nat.pow 10 digitLimit = bound
  by_cases many : bound ≤ value.natAbs
  · simp only [if_pos many]
    exact iff_of_false nofun fun same => same.1 many
  · have same : (if value < 0 then "-" ++ String.ofList (Nat.toDigits 10 value.natAbs)
        else String.ofList (Nat.toDigits 10 value.natAbs)) = String.ofList (written value) := by
      unfold written
      split
      · rw [String.ofList_append]
      · rfl
    simp only [if_neg many, same, Except.ok.injEq]
    exact ⟨fun whole => ⟨many, whole.symm⟩, fun whole => whole.2.symm⟩

private theorem written_nat (number : Nat) : written number = Nat.toDigits 10 number := by
  rw [written, if_neg (by omega), List.nil_append, Int.natAbs_natCast]

theorem toDigits_isDigit (number : Nat) : ∀ c ∈ Nat.toDigits 10 number, c.isDigit :=
  fun _ member => Nat.isDigit_of_mem_toDigits (by decide) (by decide) member

private theorem toDigits_plain (number : Nat) :
    ∃ values, Plain (Nat.toDigits 10 number) values ∧ Text.ofDigits 10 values = number := by
  refine ⟨_, ⟨Nat.toDigits_ne_nil, toDigits_isDigit number, rfl⟩, ?_⟩
  rw [Text.ofDigits, List.foldl_map]
  exact Nat.ofDigitChars_ten_toDigits

theorem Plain.length {digits : List Char} {values : List Nat} (plain : Plain digits values) :
    values.length = digits.length := by
  rw [plain.2.2, List.length_map]

private theorem written_numeral (few : HasFewDigits value) : Numeral Plain (written value) value := by
  obtain ⟨values, plain, counted⟩ := toDigits_plain value.natAbs
  have short : values.length ≤ digitLimit := Plain.length plain ▸ few
  unfold written
  split
  next negative =>
    have same : (value : Int) = -Text.ofDigits 10 values := by omega
    have numeral := Numeral.minus plain short
    rwa [← same] at numeral
  next positive =>
    have same : (value : Int) = Text.ofDigits 10 values := by omega
    have numeral := Numeral.unsigned plain short
    rwa [← same] at numeral

private theorem blank_free (value : Int) : ∀ c ∈ written value, Text.isBlank c = false := by
  have digits : ∀ c ∈ Nat.toDigits 10 value.natAbs, Text.isBlank c = false := by
    intro c member
    obtain ⟨_, digit⟩ := IntegerLiterals.decimalDigit?_isSome (toDigits_isDigit _ c member)
    exact not_blank_of_digit digit
  unfold written
  split
  · exact List.forall_mem_cons.mpr ⟨by decide, digits⟩
  · exact digits

private theorem trim_written (value : Int) :
    Text.trim (String.ofList (written value)) = String.ofList (written value) := by
  rw [Text.trim, String.toList_ofList, strip_of_ends]
  · exact fun c first => blank_free value c (List.mem_of_mem_head? first)
  · exact fun c last => blank_free value c (List.mem_of_mem_getLast? last)

private theorem toInt_written (few : HasFewDigits value) (kind : TextKind) :
    (Value.text kind (String.ofList (written value))).toInt = .ok value := by
  rw [toInt_eq_ok_iff, trim_written, String.toList_ofList]
  exact (plain_numeral_iff.mp (written_numeral few)).1

end Decimal

section Lexemes
variable {digits spelling suffix : List Char} {values : List Nat} {number : Nat}
variable {kind : TokenKind} {literal : LiteralKind}

theorem Suffix.integerEnd (ends : Suffix suffix kind literal) (spelling : List Char) :
    Lexeme.integerEnd (spelling ++ suffix) spelling.length = .token kind (spelling ++ suffix).length := by
  rw [Lexeme.integerEnd, List.drop_left, List.length_append]
  cases ends <;> rfl

/-- Neither digits nor a fraction nor an exponent go on with a suffix. -/
theorem Suffix.stops (ends : Suffix suffix kind literal) : (∀ c ∈ suffix.head?, c.isDigit = false) ∧
    (∀ c ∈ suffix.head?, (Text.hexDigit? c).isSome = false) ∧ fractionLength suffix = 0 ∧ exponentLength suffix = 0 := by
  cases ends with
  | signed => exact ⟨nofun, nofun, rfl, rfl⟩
  | lower | upper => refine ⟨?_, ?_, rfl, rfl⟩ <;> (rintro _ ⟨⟩; rfl)

theorem takeWhile_before {accepts : Char → Bool} (all : ∀ c ∈ digits, accepts c)
    (stops : ∀ c ∈ suffix.head?, accepts c = false) : (digits ++ suffix).takeWhile accepts = digits := by
  rw [List.takeWhile_append_of_pos all]
  cases suffix with
  | nil => simp
  | cons c rest => rw [List.takeWhile_cons_of_neg (by simp [stops c rfl]), List.append_nil]

private theorem read_number {c : Char} {rest : List Char} (digit : c.isDigit) :
    Lexeme.read (c :: rest) = Lexeme.number (c :: rest) := by
  rw [read_unquoted (digit_not_quote digit) (.inr (digit_not_mark digit)), unquoted, if_pos digit]

/-- No hexadecimal mark stands behind a decimal digit, nor is a suffix one. -/
theorem hexLength_decimal (ends : Suffix suffix kind literal) (all : ∀ c ∈ digits, c.isDigit) :
    hexLength (digits ++ suffix) = 0 := by
  have unmarked {c : Char} (second : (digits ++ suffix)[1]? = some c) : ¬ (c = 'x' ∨ c = 'X') := by
    rw [List.getElem?_append] at second
    split at second
    next =>
      have digit := all c (List.mem_of_getElem? second)
      rintro (rfl | rfl) <;> cases digit
    next =>
      have behind := List.mem_of_getElem? second
      cases ends <;> rintro (rfl | rfl) <;> simp at behind
  unfold hexLength
  split
  next x rest same => exact if_neg fun marked => unmarked (congrArg (·[1]?) same) marked.1
  next => rfl

private theorem read_decimal (ends : Suffix suffix kind literal) (filled : digits ≠ [])
    (all : ∀ c ∈ digits, c.isDigit) :
    Lexeme.read (digits ++ suffix) = .token kind (digits ++ suffix).length := by
  obtain ⟨notDigit, _, noFraction, noExponent⟩ := ends.stops
  have count : digitCount (digits ++ suffix) = digits.length := by rw [digitCount, takeWhile_before all notDigit]
  cases digits with
  | nil => exact absurd rfl filled
  | cons c rest =>
    rw [List.cons_append, read_number (all c List.mem_cons_self), ← List.cons_append,
      decimal_eq _ (hexLength_decimal ends all)]
    simp only [count, List.drop_left, noFraction, noExponent, if_pos, Nat.add_zero]
    exact ends.integerEnd _

private theorem read_hex {mark : Char} (ends : Suffix suffix kind literal) (marks : mark = 'x' ∨ mark = 'X')
    (filled : digits ≠ []) (digitwise : List.Forall₂ IsHexDigit digits values) :
    Lexeme.read ('0' :: mark :: digits ++ suffix) = .token kind ('0' :: mark :: digits ++ suffix).length := by
  obtain ⟨_, notHex, _, _⟩ := ends.stops
  have run := takeWhile_before (hexDigit?_isSome digitwise) notHex
  have some : digits.length ≠ 0 := by simpa using filled
  have hex : hexLength ('0' :: mark :: digits ++ suffix) = ('0' :: mark :: digits).length := by
    simp only [List.cons_append, hexLength, run, List.length_cons]
    rw [if_pos ⟨marks, some⟩]
    omega
  have marked : hexLength ('0' :: mark :: digits ++ suffix) ≠ 0 := by
    rw [hex]
    exact Nat.succ_ne_zero _
  rw [List.cons_append, read_number (by rfl), ← List.cons_append, Lexeme.number, if_pos marked, hex]
  exact ends.integerEnd _

theorem Spells.read (spells : Spells spelling number) (ends : Suffix suffix kind literal) :
    Lexeme.read (spelling ++ suffix) = .token kind (spelling ++ suffix).length := by
  cases spells with
  | decimal formatted =>
    obtain ⟨_, rfl⟩ := format_eq_ok_iff.mp formatted
    rw [String.toList_ofList, written_nat]
    exact read_decimal ends Nat.toDigits_ne_nil (toDigits_isDigit number)
  | hexadecimal marks filled digitwise => exact read_hex ends marks filled digitwise

end Lexemes

section Literals
variable {digits spelling suffix : List Char} {values : List Nat} {number : Nat}
variable {kind : TokenKind} {literal : LiteralKind}

private theorem readDigits?_plain (plain : Plain digits values) (few : digits.length ≤ digitLimit) :
    readDigits? digits = some (Text.ofDigits 10 values) := by
  have same : values.map Nat.digitChar = digits := by
    rw [plain.2.2, List.map_map]
    exact (List.map_congr_left fun c member => digitChar_of_isDigit (plain.2.1 c member)).trans (List.map_id digits)
  have read := readDigits?_digitChars plain.grouped.small plain.grouped.filled
  rwa [same, if_pos (Plain.length plain ▸ few)] at read

theorem Spells.integer? (spells : Spells spelling number) : Literal.integer? spelling = some number := by
  cases spells with
  | decimal formatted =>
    obtain ⟨few, rfl⟩ := format_eq_ok_iff.mp formatted
    obtain ⟨values, plain, rfl⟩ := toDigits_plain number
    rw [String.toList_ofList, written_nat, integer?_digits plain.2.1, readDigits?_plain plain few]
  | @hexadecimal mark digits values marks filled digitwise =>
    have read : Literal.integer? ('0' :: mark :: digits) = Literal.readHexadecimal? digits := by
      rcases marks with rfl | rfl <;> rfl
    rw [read, Literal.readHexadecimal?, if_neg (by simpa using filled), mapM_hexDigit? digitwise, Option.map_some,
      ofDigits_eq]

theorem Spells.denotes (spells : Spells spelling number) (ends : Suffix suffix kind literal) (place : Location) :
    Literal.ofToken? ⟨kind, String.ofList (spelling ++ suffix), place⟩ =
      some (some (.literal literal (.int number))) := by
  cases ends with
  | signed => simp [Literal.ofToken?, spells.integer?]
  | lower | upper => simp [Literal.ofToken?, spells.integer?]

theorem Spells.readsAs (spells : Spells spelling number) (ends : Suffix suffix kind literal) :
    ReadsAs (spelling ++ suffix) kind (.literal literal (.int number)) :=
  readsAs_of_read (spells.read ends) (spells.denotes ends .start)

end Literals

section Sources
variable {digits : List Char} {number : Nat} {value : Int} {limits : Limits}

private theorem parse_of_words {source : String} {words : List Word} {tree : Expr} (cut : Cut words source.toList)
    (said : Says words (Derives · (.expression tree))) (short : source.length ≤ limits.maxSourceLength)
    (deep : (words.length : Int) ≤ limits.maxDepth) : Expr.parse source limits = .ok tree := by
  obtain ⟨place, tokens, stream, same⟩ := cut.stream
  rcases parse_of_stream stream short (.source (said.holds tokens same) rfl) with parsed | ⟨many, _⟩
  · exact parsed
  · rw [← same, List.length_map] at deep
    omega

/-- A minus sign is a token of its own, whatever is written behind it. -/
theorem read_minus (rest : List Char) : Lexeme.read ('-' :: rest) = .token .minus 1 :=
  read_unquoted rfl (.inr ⟨rfl, rfl⟩)

theorem Spells.parse_negated (spells : Spells digits number)
    (short : (String.ofList ('-' :: digits)).length ≤ limits.maxSourceLength) (deep : 2 ≤ limits.maxDepth) :
    Expr.parse (String.ofList ('-' :: digits)) limits = .ok (.unary .negate (.literal .int (.int number))) := by
  let digitWord : Word := ⟨.int, String.ofList digits⟩
  have lexeme : digitWord.IsLexeme := by
    have found := spells.read .signed
    rw [List.append_nil] at found
    rwa [Word.IsLexeme, String.toList_ofList]
  have cut : Cut [sign .minus, digitWord] ([] ++ ((sign .minus).text.toList ++ digitWord.text.toList)) :=
    .word (List.forall_mem_nil _) (read_minus _) (Cut.single lexeme)
  have said : Says [sign .minus, digitWord] (Derives · (.expression (.unary .negate (.literal .int (.int number))))) := by
    refine (Says.sign_cons .minus (by decide) (.cons lexeme .nothing)).mono fun tokens _ claim => ?_
    obtain ⟨minus, _, rfl, negates, token, _, rfl, same, rfl⟩ := claim
    have denotes := spells.denotes .signed token.location
    rw [List.append_nil] at denotes
    have kind : token.kind = .int := congrArg Word.kind same
    have text : token.text = String.ofList digits := congrArg Word.text same
    have literal : Literal.ofToken? token = some (some (.literal .int (.int number))) := by
      rw [← denotes, ← kind, ← text]
    exact expression_of_chain (chain_of_unary (.signed negates (.bare (.start (.literal literal)))) .product)
  refine parse_of_words ?_ said short deep
  rw [show digitWord.text.toList = digits from String.toList_ofList] at cut
  rw [String.toList_ofList]
  exact cut

private theorem evaluate_literal (kind : LiteralKind) (value : Value) (functions : Functions) (bindings : Bindings) :
    ((Expr.literal kind value).run functions bindings).1 = .ok value := by
  rw [Expr.run, Expr.evaluate]
  rfl

private theorem evaluate_negated (kind : LiteralKind) (value : Int) (functions : Functions) (bindings : Bindings) :
    ((Expr.unary .negate (.literal kind (.int value))).run functions bindings).1 = .ok (.int (-value)) := by
  simp only [Expr.run, Expr.evaluate]
  rfl

/-- The text of a negative integer is the literal for its magnitude behind the sign. -/
theorem evaluate_written (few : HasFewDigits value) (bindings : Bindings) (functions : Functions)
    (short : (String.ofList (written value)).length ≤ limits.maxSourceLength) (deep : 2 ≤ limits.maxDepth) :
    CommonExpr.evaluate (String.ofList (written value)) bindings functions limits = .ok (.int value) := by
  have spells : Spells (Nat.toDigits 10 value.natAbs) value.natAbs := by
    have decimal := Spells.decimal (format_eq_ok_iff.mpr ⟨show HasFewDigits value.natAbs from few, rfl⟩)
    rwa [String.toList_ofList, written_nat] at decimal
  by_cases negative : value < 0
  · have signed : written value = '-' :: Nat.toDigits 10 value.natAbs := by rw [written, if_pos negative]; rfl
    have same : value = -(value.natAbs : Int) := by omega
    rw [signed] at short ⊢
    rw [evaluate_of_parse (spells.parse_negated short deep), evaluate_negated, ← same]
    rfl
  · have plain : written value = Nat.toDigits 10 value.natAbs ++ [] := by rw [written, if_neg negative]; simp
    have same : (value.natAbs : Int) = value := by omega
    rw [plain] at short ⊢
    rw [evaluate_of_parse ((spells.readsAs .signed).2 limits (by omega) short), evaluate_literal, same]
    rfl

end Sources

section Agreement

/-- Every integer of at most 4300 digits has a text that is converted to it and that evaluates to it
under all limits that admit two tokens of that length. A number that is not negative is also
the value of the literals that its spellings are, alone as signed and with the suffix as unsigned ones. -/
theorem integer_texts_agree {value : Int} (few : (Nat.toDigits 10 value.natAbs).length ≤ 4300) :
    (∃ text, (Value.int value).format = .ok text ∧ (∀ kind, (Value.text kind text).toInt = .ok value) ∧
      ∀ bindings functions (limits : Limits), text.length ≤ limits.maxSourceLength → 2 ≤ limits.maxDepth →
        CommonExpr.evaluate text bindings functions limits = .ok (.int value)) ∧
      ∀ (number : Nat) spelling suffix kind literal, value = number → Spells spelling number →
        Suffix suffix kind literal → ReadsAs (spelling ++ suffix) kind (.literal literal (.int value)) := by
  refine ⟨⟨_, format_eq_ok_iff.mpr ⟨few, rfl⟩, toInt_written few, fun bindings functions limits short deep => ?_⟩, ?_⟩
  · exact evaluate_written few bindings functions short deep
  · rintro number spelling suffix kind literal rfl spells ends
    exact spells.readsAs ends

/-- The text of 255, and a literal for it with leading zeros and digits of both letter cases. -/
theorem texts_of_255 : (Value.int 255).format = .ok "255" ∧ (Value.string "255").toInt = .ok 255 ∧
    CommonExpr.evaluate "255" ⟨[]⟩ standardFunctions {} = .ok (.int 255) ∧
      ReadsAs ['0', 'X', '0', '0', 'f', 'F', 'U'] .uint (.literal .uint (.int 255)) := by
  have few : (Nat.toDigits 10 (255 : Int).natAbs).length ≤ 4300 := by decide
  have decimal : (Value.int 255).format = .ok "255" := format_eq_ok_iff.mpr ⟨few, rfl⟩
  have digits : List.Forall₂ IsHexDigit ['0', '0', 'f', 'F'] [0, 0, 15, 15] :=
    .cons ⟨by decide, by decide⟩ (.cons ⟨by decide, by decide⟩ (.cons ⟨by decide, by decide⟩
      (.cons ⟨by decide, by decide⟩ .nil)))
  have spells : Spells ['0', 'X', '0', '0', 'f', 'F'] 255 := .hexadecimal (.inr rfl) (List.cons_ne_nil _ _) digits
  have short : ("255".length : Int) ≤ ({} : Limits).maxSourceLength := by decide
  obtain ⟨⟨text, formatted, converted, evaluated⟩, literals⟩ := integer_texts_agree few
  have same : "255" = text := Except.ok.inj (decimal.symm.trans formatted)
  subst same
  have literal := literals 255 _ _ _ _ rfl spells .upper
  exact ⟨decimal, converted .string, evaluated ⟨[]⟩ standardFunctions {} short (by decide), literal⟩

end Agreement

end CommonExpr.Proofs.IntegerTexts

import CommonExpr.Proofs.EscapedLiterals
import CommonExpr.Proofs.FirstImpossibleToken
import Mathlib.Data.List.TakeWhile

/-! How reading an expression may fail. All that is wrong with a source is an error in it,
but for one thing: a decimal integer of more digits than can be converted is cut out as a
token, and only breaks the parser when that asks for its value. -/

namespace CommonExpr.Proofs.OverlongIntegers
open CommonExpr.Parser Grammar Lexeme LexemeExtent TokenReader TokenFootprint ParserFootprint SourceTokens
open Tokenization TokenSequence
open Lookahead ParserCompleteness IntegerLiterals ViablePrefix FirstImpossibleToken EscapedLiterals

section Tokens

def digitsOf (token : Token) : Nat :=
  (token.text.toList.takeWhile Char.isDigit).length

/-- A decimal integer with more digits than can be converted. -/
def Overlong (token : Token) : Prop :=
  (token.kind = .int ∨ token.kind = .uint) ∧ digitLimit < digitsOf token

/-- Of all that the lexer lets through, only these have no value. -/
theorem overlong_of_uncounted {token : Token} (genuine : Genuine token) (many : Literal.ofToken? token = some none) :
    Overlong token := by
  by_contra short
  refine ofToken?_countable genuine (fun integer => ?_) many
  exact Nat.le_of_not_lt fun long => short ⟨integer, long⟩

end Tokens

section Failures
variable {frame : Frame} {before : Reader} {allowance : Nat} {tokens : List Token} {last : Except LexicalError Token}
  {cause : Breakdown}

private theorem uncounted_among (short : tokens.length < frame.bound)
    (failed : source allowance (frame.reader tokens) = .error (.broken cause)) :
    ∃ token ∈ tokens, Literal.ofToken? token = some none ∧ cause = .tooManyDigits (digitsOf token) := by
  rcases source_blames allowance tokens _ short failed with excused | ⟨_, _, _, _, _, located, _⟩
  · cases excused with
    | uncounted member many => exact ⟨_, member, many, rfl⟩
  · cases located

/-- The parser breaks at a token without a value, whatever the lexer makes of the rest. -/
theorem uncounted_before (fed : Fed before tokens last) (roomy : tokens.length < before.bound)
    (failed : source allowance before = .error (.broken cause)) :
    ∃ token ∈ tokens, Literal.ofToken? token = some none ∧ cause = .tooManyDigits (digitsOf token) := by
  have reports : Reports (source allowance) before before (.error (.broken cause)) := failed
  rcases (source_local allowance).elim fed.sealed reports with gives | ⟨used, stop, _, _, footprint⟩
  · rcases givesUp_cases gives with ⟨_, deep⟩ | ⟨_, _, starved⟩
    · cases deep
    · cases starved
  rcases fed.stops footprint.consumes with ⟨token, rest, rfl, there⟩ | rfl
  · -- Where the lexer fails later on, the parser has broken on the tokens before that.
    rw [List.length_append] at roomy
    have again := repeats_anywhere footprint there (by omega)
    let cut : Frame := ⟨.start, (used ++ [token]).length + 1⟩
    obtain ⟨found, member, many, same⟩ := uncounted_among (Nat.lt_succ_self _) (again cut [] (Nat.lt_succ_self _))
    refine ⟨found, ?_, many, same⟩
    have inside : (used ++ [token]).Sublist (used ++ token :: rest) :=
      List.Sublist.append_left (List.singleton_sublist.mpr (List.mem_cons_self ..)) used
    exact inside.subset member
  · obtain ⟨frame, _, rfl⟩ := fed.framed
    rw [reader_bound] at roomy
    exact uncounted_among roomy failed

private theorem parse_breaks {source : String} {limits : Limits}
    (failed : Expr.parse source limits = .error (.broken cause)) :
    ∃ index token, (Lexer.ofSource source).nth index = .ok token ∧ Overlong token ∧
      cause = .tooManyDigits (digitsOf token) := by
  have short : source.length ≤ limits.maxSourceLength := by
    apply Int.not_lt.mp
    intro long
    rw [Expr.parse, if_pos long] at failed
    cases failed
  obtain ⟨tokens, last, written, listed⟩ := scanFrom_written (Nat.lt_succ_self (Cursor.ofSource source).rest.length)
  rcases parse_failed written short failed with ⟨_, _, _, lexical⟩ | ⟨before, fed, roomy, broken⟩
  · cases lexical
  · obtain ⟨token, member, many, same⟩ := uncounted_before fed roomy broken
    obtain ⟨index, within, rfl⟩ := List.getElem_of_mem member
    exact ⟨index, _, listed.inside index within, overlong_of_uncounted (written.genuine _ member) many, same⟩

/-- Whatever the source and the limits, there is a tree, or an error of the lexer or the parser, or
one of the tokens is a decimal integer of too many digits and the parser breaks on it. -/
theorem parse_returns_or_blames_or_breaks (source : String) (limits : Limits) :
    (∃ tree, Expr.parse source limits = .ok tree) ∨
      (∃ error, Expr.parse source limits = .error (.invalid error) ∧ error.name ∈ ["ParseError", "LexerError"]) ∨
      ∃ index token, (Lexer.ofSource source).nth index = .ok token ∧ Overlong token ∧
        Expr.parse source limits = .error (.broken (.tooManyDigits (digitsOf token))) := by
  cases outcome : Expr.parse source limits with
  | ok tree => exact .inl ⟨tree, rfl⟩
  | error failure =>
    cases failure with
    | invalid error =>
      refine .inr (.inl ⟨error, rfl, ?_⟩)
      unfold SyntaxError.name
      split <;> simp
    | broken cause =>
      obtain ⟨index, token, found, overlong, rfl⟩ := parse_breaks outcome
      exact .inr (.inr ⟨index, token, found, overlong, rfl⟩)

end Failures

section Digits
variable {digits : List Char}

theorem digit_not_quote {c : Char} (digit : c.isDigit) : isQuote c = false := by
  rw [Bool.eq_false_iff]
  intro quoted
  rcases (by simpa [isQuote] using quoted) with rfl | rfl <;> cases digit

theorem digit_not_mark {c : Char} (digit : c.isDigit) : isRawMark c = false ∧ isBytesMark c = false := by
  refine ⟨?_, ?_⟩ <;> rw [Bool.eq_false_iff] <;> intro marks
  · rcases (by simpa [isRawMark] using marks) with rfl | rfl <;> cases digit
  · rcases (by simpa [isBytesMark] using marks) with rfl | rfl <;> cases digit

private theorem hexLength_digits (all : ∀ c ∈ digits, c.isDigit) : hexLength digits = 0 := by
  unfold hexLength
  split
  next x rest =>
    have digit : x.isDigit := all x (by simp)
    have apart : ¬ (x = 'x' ∨ x = 'X') := by
      rintro (rfl | rfl) <;> cases digit
    simp [apart]
  next => rfl

private theorem read_digits (filled : digits ≠ []) (all : ∀ c ∈ digits, c.isDigit) :
    Lexeme.read digits = .token .int digits.length := by
  have whole : digitCount digits = digits.length := by
    rw [digitCount, List.takeWhile_eq_self_iff.mpr all]
  cases digits with
  | nil => exact absurd rfl filled
  | cons c rest =>
    have digit := all c (List.mem_cons_self ..)
    rw [read_unquoted (digit_not_quote digit) (.inr (digit_not_mark digit)), unquoted, if_pos digit,
      decimal_eq _ (hexLength_digits all), whole]
    simp [fractionLength, exponentLength, integerEnd]

private theorem uncounted_digits (all : ∀ c ∈ digits, c.isDigit) (many : digitLimit < digits.length)
    (place : Location) :
    Literal.ofToken? ⟨.int, String.ofList digits, place⟩ = some none := by
  have unread : Literal.integer? digits = none := by
    unfold Literal.integer?
    split
    next rest => cases all 'x' (by simp)
    next rest => cases all 'X' (by simp)
    next => rw [readDigits?, if_pos (.inr many)]
  rw [Literal.ofToken?, String.toList_ofList]
  simp [unread]

end Digits

section Sources
variable {frame : Frame} {token : Token} {rest : List Token} {digits : List Char}

private theorem operand_breaks (many : Literal.ofToken? token = some none) (integer : token.kind = .int)
    (allowance : Nat) :
    operand allowance (frame.reader (token :: rest)) = .error (.broken (.tooManyDigits (digitsOf token))) := by
  have primary_breaks (inner : Parser Expr) :
      primary inner (frame.reader (token :: rest)) = .error (.broken (.tooManyDigits (digitsOf token))) := by
    rw [primary, bind_of_ok get_reader, current_cons, many]
    exact bind_of_ok advance_reader
  have plain (operator : UnaryOperator) : headKind (token :: rest) ≠ mark operator := by
    rw [headKind_cons, integer]
    intro same
    cases operator <;> cases same
  rw [operand_eq, unary_of_other plain, member]
  exact bind_of_error (primary_breaks _)

/-- A source that starts with an integer without a value is not read any further. -/
theorem source_breaks (many : Literal.ofToken? token = some none) (integer : token.kind = .int) (allowance : Nat) :
    source (allowance + 1) (frame.reader (token :: rest)) = .error (.broken (.tooManyDigits (digitsOf token))) := by
  have first : disjunction (operand allowance) (frame.reader (token :: rest)) =
      .error (.broken (.tooManyDigits (digitsOf token))) :=
    bind_of_error <| bind_of_error <| bind_of_error <| bind_of_error <| bind_of_error <|
      operand_breaks many integer allowance
  have ordinary : headKind (token :: rest) ≠ .endOfInput := by
    rw [headKind_cons, integer]
    exact nofun
  rw [source, bind_of_ok kind_reader, if_neg ordinary, expression_succ, conditional]
  exact bind_of_error (bind_of_error first)

/-- Decimal digits that are more than can be converted, and nothing else. -/
theorem overlong_digits_break {limits : Limits} (all : ∀ c ∈ digits, c.isDigit) (many : digitLimit < digits.length)
    (short : digits.length ≤ limits.maxSourceLength) (deep : 0 < limits.maxDepth) :
    Expr.parse (String.ofList digits) limits = .error (.broken (.tooManyDigits digits.length)) := by
  have filled : digits ≠ [] := by
    rintro rfl
    cases many
  obtain ⟨allowance, enough⟩ : ∃ allowance, limits.maxDepth.toNat = allowance + 1 :=
    Nat.exists_eq_add_one.mpr (by omega)
  have counted : digitsOf ⟨.int, String.ofList digits, .start⟩ = digits.length := by
    rw [digitsOf, String.toList_ofList, List.takeWhile_eq_self_iff.mpr all]
  have size : (String.ofList digits).length = digits.length := by rw [← String.length_toList, String.toList_ofList]
  obtain ⟨frame, _, same⟩ := parse_eq (size ▸ short) (ofSource_whole (read_digits filled all))
  rw [same, enough, source_breaks (uncounted_digits all many .start) rfl, counted]
  rfl

/-- Four thousand three hundred and one digits are one too many. -/
theorem parse_fails_otherwise_than_with_syntax_error :
    ¬ ∀ (source : String) (limits : Limits), (∃ tree, Expr.parse source limits = .ok tree) ∨
      ∃ error, Expr.parse source limits = .error (.invalid error) := by
  intro claimed
  let digits := List.replicate 4301 '1'
  have size : digits.length = 4301 := List.length_replicate
  have all : ∀ c ∈ digits, c.isDigit := by
    intro c member
    rw [List.eq_of_mem_replicate member]
    rfl
  have many : digitLimit < digits.length := by
    rw [size]
    decide
  have short : digits.length ≤ ({} : Limits).maxSourceLength := by
    rw [size]
    decide
  have broken := overlong_digits_break all many short (by decide)
  rcases claimed (String.ofList digits) {} with ⟨tree, parsed⟩ | ⟨error, failed⟩
  · cases broken.symm.trans parsed
  · cases broken.symm.trans failed

end Sources

end CommonExpr.Proofs.OverlongIntegers

import CommonExpr.Proofs.DoubleLiterals
import CommonExpr.Proofs.Tokenization

/-! Numbers in a source denote a value unless they are decimal integers of too many digits. -/

namespace CommonExpr.Proofs.IntegerLiterals
open DoubleLiterals Lexeme LexemeExtent Tokenization

variable {source : List Char} {kind : TokenKind} {length : Nat}

private theorem read_integer {c : Char} {others : List Char} (found : Lexeme.read (c :: others) = .token kind length)
    (integer : kind = .int ∨ kind = .uint) : c.isDigit ∧ number (c :: others) = .token kind length := by
  rcases read_cases c others with ⟨_, same⟩ | ⟨_, _, _, _, _, same⟩ | ⟨_, _, _, _, _, same⟩ | ⟨_, _, same⟩
  · have quoted := (stringLiteral_bounds (same ▸ found)).1
    simp [quoted] at integer
  · have quoted := (stringLiteral_bounds (same ▸ found)).1
    simp [quoted] at integer
  · have quoted := (delimited_bounds (same ▸ found)).1
    simp [quoted] at integer
  · rw [same, unquoted] at found
    split at found
    next digit => exact ⟨digit, found⟩
    next =>
      split at found
      next =>
        obtain ⟨rfl, -⟩ := Lexeme.token.inj found
        unfold wordKind at integer
        split at integer <;> simp at integer
      next =>
        cases symbol : symbol? (c :: others) with
        | none => simp only [symbol] at found; cases found
        | some pair =>
          obtain ⟨made, length⟩ := pair
          simp only [symbol] at found
          obtain ⟨rfl, rfl⟩ := Lexeme.token.inj found
          unfold symbol? at symbol
          split at symbol <;> cases symbol <;> simp at integer

/-- The lexeme without its suffix. -/
def bare (kind : TokenKind) (source : List Char) : List Char :=
  if kind = .uint then source.dropLast else source

private theorem integerEnd_bare (ends : integerEnd source length = .token kind source.length) :
    bare kind source = source.take length := by
  unfold integerEnd at ends
  split at ends <;> obtain ⟨rfl, whole⟩ := Lexeme.token.inj ends
  · simp [bare, List.dropLast_eq_take, ← whole]
  · simp [bare, List.dropLast_eq_take, ← whole]
  · simp [bare, whole]

theorem decimalDigit?_isSome {c : Char} (digit : c.isDigit) : ∃ value, Text.decimalDigit? c = some value := by
  have range : 48 ≤ c.toNat ∧ c.toNat < 58 := by
    simp only [Char.isDigit, Bool.and_eq_true, decide_eq_true_eq, ge_iff_le, UInt32.le_iff_toNat_le] at digit
    exact ⟨digit.1, Nat.lt_succ_of_le digit.2⟩
  refine ⟨c.toNat - 48, ?_⟩
  rw [Text.decimalDigit?, Text.zeros, List.find?_cons_of_pos (by simpa using range)]
  rfl

/-- Where every character counts as a digit, none is left out. -/
theorem mapM_of_isSome {digit? : Char → Option Nat} {digits : List Char} (all : ∀ c ∈ digits, (digit? c).isSome) :
    digits.mapM digit? = some (digits.filterMap digit?) := by
  induction digits with
  | nil => rfl
  | cons c others ih =>
    obtain ⟨first, rest⟩ := List.forall_mem_cons.mp all
    obtain ⟨value, one⟩ := Option.isSome_iff_exists.mp first
    rw [List.mapM_cons, one, ih rest, List.filterMap_cons_some one]
    rfl

private theorem readDigits?_isSome {digits : List Char} (filled : digits ≠ []) (few : digits.length ≤ digitLimit)
    (all : ∀ c ∈ digits, c.isDigit) : ∃ value, readDigits? digits = some value := by
  have values := mapM_of_isSome fun c member => Option.isSome_iff_exists.mpr (decimalDigit?_isSome (all c member))
  rw [readDigits?, if_neg (by simpa using ⟨filled, few⟩), values]
  exact ⟨_, rfl⟩

theorem readHexadecimal?_eq {digits : List Char} (filled : digits ≠ []) (all : ∀ c ∈ digits, (Text.hexDigit? c).isSome) :
    Literal.readHexadecimal? digits = some (Text.ofDigits 16 (digits.filterMap Text.hexDigit?)) := by
  rw [Literal.readHexadecimal?, if_neg (by simpa using filled), mapM_of_isSome all]
  rfl

/-- Behind its mark, a hexadecimal lexeme has a digit, and nothing but digits. -/
theorem integer?_hexLength {x : Char} {rest : List Char} (hex : hexLength ('0' :: x :: rest) ≠ 0) :
    ∃ value, Literal.integer? (('0' :: x :: rest).take (hexLength ('0' :: x :: rest))) = some value := by
  let digits := rest.takeWhile fun c => (Text.hexDigit? c).isSome
  have prefixed : rest.take digits.length = digits := (List.prefix_iff_eq_take.mp (List.takeWhile_prefix _)).symm
  have all : ∀ c ∈ digits, (Text.hexDigit? c).isSome := fun c inside => List.all_eq_true.mp List.all_takeWhile c inside
  have counted : hexLength ('0' :: x :: rest) =
      if (x = 'x' ∨ x = 'X') ∧ digits.length ≠ 0 then 2 + digits.length else 0 := rfl
  rw [counted] at hex ⊢
  split at hex
  next marked =>
    have read := readHexadecimal?_eq (List.ne_nil_of_length_pos (Nat.pos_of_ne_zero marked.2)) all
    rw [if_pos marked, Nat.add_comm, List.take_succ_cons, List.take_succ_cons, prefixed]
    rcases marked.1 with rfl | rfl <;> exact ⟨_, read⟩
  next => exact absurd rfl hex

theorem integer?_digits {digits : List Char} (all : ∀ c ∈ digits, c.isDigit) :
    Literal.integer? digits = readDigits? digits := by
  unfold Literal.integer?
  split
  next rest => cases all 'x' (by simp)
  next rest => cases all 'X' (by simp)
  next => rfl

private theorem integer?_number (filled : source.head?.any Char.isDigit)
    (found : number source = .token kind source.length)
    (integer : kind = .int ∨ kind = .uint) (few : (source.takeWhile Char.isDigit).length ≤ digitLimit) :
    ∃ value, Literal.integer? (bare kind source) = some value := by
  by_cases plain : hexLength source = 0
  · rw [decimal_eq _ plain] at found
    dsimp only at found
    split at found
    next =>
      have run : source.take (digitCount source) = source.takeWhile Char.isDigit :=
        List.prefix_iff_eq_take.mp (List.takeWhile_prefix _) |>.symm
      rw [integerEnd_bare found, run]
      have some : source.takeWhile Char.isDigit ≠ [] := by
        cases source with
        | nil => cases filled
        | cons c others =>
          rw [List.takeWhile_cons_of_pos (by simpa using filled)]
          exact List.cons_ne_nil _ _
      have all : ∀ c ∈ source.takeWhile Char.isDigit, c.isDigit :=
        fun c inside => List.all_eq_true.mp List.all_takeWhile c inside
      rw [integer?_digits all]
      exact readDigits?_isSome some few all
    next =>
      obtain ⟨rfl, -⟩ := Lexeme.token.inj found
      simp at integer
  · have ends := found
    rw [number, if_pos plain] at ends
    rw [integerEnd_bare ends]
    by_cases zero : ∃ x rest, source = '0' :: x :: rest
    · obtain ⟨x, rest, rfl⟩ := zero
      exact integer?_hexLength plain
    · refine absurd ?_ plain
      unfold hexLength
      split
      next x rest => exact absurd ⟨x, rest, rfl⟩ zero
      next => rfl

/-- A literal without a value is a decimal integer with more digits than can be converted. -/
theorem ofToken?_countable {token : Token} (genuine : Genuine token)
    (few : token.kind = .int ∨ token.kind = .uint → (token.text.toList.takeWhile Char.isDigit).length ≤ digitLimit) :
    Literal.ofToken? token ≠ some none := by
  have whole (integer : token.kind = .int ∨ token.kind = .uint) :
      ∃ value, Literal.integer? (bare token.kind token.text.toList) = some value := by
    cases shape : token.text.toList with
    | nil =>
      rw [Genuine, shape] at genuine
      cases genuine
    | cons c others =>
      rw [Genuine, shape] at genuine
      obtain ⟨digit, found⟩ := read_integer genuine integer
      exact integer?_number (by simpa using digit) found integer (shape ▸ few integer)
  unfold Literal.ofToken?
  split
  case h_4 kind =>
    obtain ⟨value, denotes⟩ := whole (.inl kind)
    simp only [kind, bare, reduceCtorEq, if_false] at denotes
    simp [denotes]
  case h_5 kind =>
    obtain ⟨value, denotes⟩ := whole (.inr kind)
    simp only [kind, bare, if_true] at denotes
    simp [denotes]
  case h_6 kind =>
    rw [Genuine, kind] at genuine
    obtain ⟨decimal, read⟩ := Option.isSome_iff_exists.mp (readDecimal?_isSome genuine)
    simp [Literal.double?, read]
  all_goals simp

end CommonExpr.Proofs.IntegerLiterals

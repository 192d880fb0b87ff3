import CommonExpr.Proofs.LexemeExtent

/-! The last character of a lexeme is no white space. So no line break that is made of
two characters has one of them in a token and the other one behind it. -/

namespace CommonExpr.Proofs.LexemeEnding
open Lexeme LexemeExtent

/-- The first characters of a source, that many, are some and end in a visible one. -/
def VisibleEnd (source : List Char) (length : Nat) : Prop :=
  0 < length ∧ ∃ c, source[length - 1]? = some c ∧ isSpace c = false

theorem VisibleEnd.behind {source : List Char} {skipped length : Nat} (visible : VisibleEnd (source.drop skipped) length) :
    VisibleEnd source (skipped + length) := by
  obtain ⟨filled, c, here, plain⟩ := visible
  refine ⟨by omega, c, ?_, plain⟩
  rw [List.getElem?_drop] at here
  rwa [Nat.add_sub_assoc filled]

private theorem visibleEnd_takeWhile {accepts : Char → Bool} (visible : ∀ c, isSpace c → accepts c = false)
    {source : List Char}
    (filled : (source.takeWhile accepts).length ≠ 0) : VisibleEnd source (source.takeWhile accepts).length := by
  have inside : (source.takeWhile accepts).length - 1 < (source.takeWhile accepts).length := by omega
  have accepted : accepts (source.takeWhile accepts)[(source.takeWhile accepts).length - 1] :=
    List.all_eq_true.mp List.all_takeWhile _ (List.getElem_mem inside)
  have there := List.prefix_iff_getElem?.mp (List.takeWhile_prefix accepts) _ inside
  refine ⟨by omega, _, there, ?_⟩
  rw [← Bool.not_eq_true]
  intro space
  rw [visible _ space] at accepted
  cases accepted

section Numbers
variable {source : List Char}

private theorem visibleEnd_digits (filled : digitCount source ≠ 0) : VisibleEnd source (digitCount source) :=
  visibleEnd_takeWhile space_not_digit filled

private theorem visibleEnd_fraction (filled : fractionLength source ≠ 0) :
    VisibleEnd source (fractionLength source) := by
  unfold fractionLength at filled ⊢
  split at filled
  next rest =>
    split at filled
    next => exact absurd rfl filled
    next digits =>
      rw [if_neg digits, Nat.add_comm]
      have later : VisibleEnd (('.' :: rest).drop 1) (digitCount rest) := visibleEnd_digits digits
      exact later.behind
  next => exact absurd rfl filled

private theorem visibleEnd_exponent (filled : exponentLength source ≠ 0) :
    VisibleEnd source (exponentLength source) := by
  match source with
  | [] => exact absurd rfl filled
  | [c] => simp [exponentLength, digitCount] at filled
  | marker :: sign :: others =>
    rw [exponentLength_cons] at filled ⊢
    split at filled
    next marked =>
      rw [if_pos marked]
      refine VisibleEnd.behind ?_
      rw [Nat.add_comm 1, List.drop_succ_cons]
      exact visibleEnd_digits marked.2
    next => exact absurd rfl filled

private theorem visibleEnd_hex (filled : hexLength source ≠ 0) : VisibleEnd source (hexLength source) := by
  unfold hexLength at filled ⊢
  split at filled
  next x rest =>
    dsimp only at filled ⊢
    split at filled
    next marked =>
      rw [if_pos marked]
      have later : VisibleEnd (('0' :: x :: rest).drop 2) (rest.takeWhile fun c => (Text.hexDigit? c).isSome).length :=
        visibleEnd_takeWhile space_not_hex marked.2
      exact later.behind
    next => exact absurd rfl filled
  next => exact absurd rfl filled

private theorem visibleEnd_suffix {suffix : Char} {rest : List Char} {length : Nat} (visible : isSpace suffix = false)
    (left : source.drop length = suffix :: rest) : VisibleEnd source (length + 1) := by
  have there : (source.drop length)[0]? = some suffix := by rw [left, List.getElem?_cons_zero]
  rw [List.getElem?_drop] at there
  exact ⟨Nat.zero_lt_succ _, suffix, there, visible⟩

private theorem visibleEnd_integer {kind : TokenKind} {length total : Nat} (visible : VisibleEnd source length)
    (ends : integerEnd source length = .token kind total) : VisibleEnd source total := by
  unfold integerEnd at ends
  split at ends
  next rest left =>
    cases ends
    exact visibleEnd_suffix rfl left
  next rest left =>
    cases ends
    exact visibleEnd_suffix rfl left
  next =>
    cases ends
    exact visible

private theorem visibleEnd_number {c : Char} {others : List Char} {kind : TokenKind} {length : Nat} (digit : c.isDigit)
    (ends : number (c :: others) = .token kind length) : VisibleEnd (c :: others) length := by
  by_cases plain : hexLength (c :: others) = 0
  · have counted : digitCount (c :: others) ≠ 0 := by simp [digitCount, digit]
    rw [decimal_eq _ plain] at ends
    dsimp only at ends
    split at ends
    next => exact visibleEnd_integer (visibleEnd_digits counted) ends
    next some =>
      obtain ⟨rfl, rfl⟩ := Lexeme.token.inj ends
      by_cases raised : exponentLength ((c :: others).drop
          (digitCount (c :: others) + fractionLength ((c :: others).drop (digitCount (c :: others))))) = 0
      · rw [raised] at some ⊢
        exact (visibleEnd_fraction some).behind
      · exact (visibleEnd_exponent raised).behind
  · unfold number at ends
    rw [if_pos plain] at ends
    exact visibleEnd_integer (visibleEnd_hex plain) ends

end Numbers

section Delimiters
variable {closing : List Char} {raw : Bool}

private theorem visibleEnd_closing (filled : closing ≠ []) (visible : ∀ c ∈ closing, isSpace c = false)
    {passed length : Nat}
    {source : List Char} (found : closingEnd? closing raw passed source = some length) :
    VisibleEnd source (length - passed) := by
  induction many : source.length using Nat.strongRecOn generalizing source passed with
  | ind count ih =>
    have present := List.length_pos_iff.mpr filled
    cases source with
    | nil => cases found
    | cons c others =>
      rw [closingEnd?_cons] at found
      split at found
      next closes =>
        cases found
        have last : closing.length - 1 < closing.length := by omega
        rw [Nat.add_sub_cancel_left]
        refine ⟨present, closing[closing.length - 1], ?_, visible _ (List.getElem_mem last)⟩
        exact List.prefix_iff_getElem?.mp (List.isPrefixOf_iff_prefix.mp closes) _ last
      next =>
        -- A backslash takes two characters, so the search goes on in a shorter text, not in the tail.
        have forward := stride_pos raw c
        have within := (closingEnd?_bounds found).1
        have shorter : ((c :: others).drop (stride raw c)).length < count := by
          rw [List.length_drop, many]
          rw [List.length_cons] at many
          omega
        have later := (ih _ shorter found rfl).behind
        rwa [show stride raw c + (length - (passed + stride raw c)) = length - passed by omega] at later

private theorem visibleEnd_delimited (filled : closing ≠ []) (visible : ∀ c ∈ closing, isSpace c = false)
    {kind made : TokenKind}
    {form : Delimited} {opened length : Nat} {source : List Char}
    (found : delimited made form closing raw opened source = .token kind length) : VisibleEnd source length := by
  obtain ⟨_, ends⟩ := delimited_eq_token found
  have within := (closingEnd?_bounds ends).1
  have later := (visibleEnd_closing filled visible ends).behind
  rwa [Nat.add_sub_cancel' (by omega)] at later

private theorem visible_quote {quote : Char} (quoted : isQuote quote) : isSpace quote = false := by
  rw [← Bool.not_eq_true]
  intro space
  rw [space_not_quote quote space] at quoted
  cases quoted

private theorem visibleEnd_string {kind : TokenKind} {start length : Nat} {quote : Char} {source : List Char}
    (quoted : isQuote quote) (found : stringLiteral raw start quote source = .token kind length) :
    VisibleEnd source length := by
  have visible := visible_quote quoted
  unfold stringLiteral at found
  dsimp only at found
  split at found
  · exact visibleEnd_delimited (by simp) (by simp [visible]) found
  · exact visibleEnd_delimited (by simp) (by simp [visible]) found

end Delimiters

section Dispatch
variable {c : Char} {others : List Char} {kind : TokenKind} {length : Nat}

private theorem visibleEnd_word (starts : isNameStart c) (found : word (c :: others) = .token kind length) :
    VisibleEnd (c :: others) length := by
  have filled := (word_bounds starts found).1
  obtain ⟨-, rfl⟩ := Lexeme.token.inj found
  exact visibleEnd_takeWhile space_not_namePart (Nat.ne_of_gt filled)

private theorem visibleEnd_symbol {source : List Char} (found : symbol? source = some (kind, length)) :
    VisibleEnd source length := by
  unfold symbol? at found
  split at found <;> cases found <;> exact ⟨by decide, _, rfl, rfl⟩

private theorem visibleEnd_unquoted (found : unquoted c (c :: others) = .token kind length) :
    VisibleEnd (c :: others) length := by
  unfold unquoted at found
  split at found
  next digit => exact visibleEnd_number digit found
  next =>
    split at found
    next starts => exact visibleEnd_word starts found
    next =>
      cases symbol : symbol? (c :: others) with
      | none => simp only [symbol] at found; cases found
      | some pair =>
        obtain ⟨made, reach⟩ := pair
        simp only [symbol] at found
        obtain ⟨rfl, rfl⟩ := Lexeme.token.inj found
        exact visibleEnd_symbol symbol

theorem read_visibleEnd {source : List Char} (found : Lexeme.read source = .token kind length) :
    VisibleEnd source length := by
  cases source with
  | nil => cases found
  | cons c others =>
    rcases read_cases c others with ⟨quoted, same⟩ | ⟨quote, _, _, quoted, _, same⟩ |
      ⟨quote, _, _, quoted, _, same⟩ | ⟨_, _, same⟩
    · exact visibleEnd_string quoted (same ▸ found)
    · exact visibleEnd_string quoted (same ▸ found)
    · exact visibleEnd_delimited (by simp) (by simp [visible_quote quoted]) (same ▸ found)
    · exact visibleEnd_unquoted (same ▸ found)

end Dispatch

end CommonExpr.Proofs.LexemeEnding

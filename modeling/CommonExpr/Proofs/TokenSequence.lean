import CommonExpr.Proofs.LexemeExtent
import CommonExpr.Token.Lexer

/-! The tokens that a lexer gives if it is only asked for the next one, again and again.
Once it fails there is no token any more, and once it is at the end of the source it
gives the end token for ever. -/

namespace CommonExpr
open Lexeme

namespace Lexer

/-- The lexer when its first tokens, that many, are consumed; the failure, if one comes before. -/
def past (lexer : Lexer) : Nat → Except LexicalError Lexer
  | 0 => .ok lexer
  | count + 1 =>
    match lexer.past count with
    | .error failure => .error failure
    | .ok before =>
      match before.next with
      | (.error failure, _) => .error failure
      | (.ok _, after) => .ok after

/-- The token that comes after so many others, or the failure that comes first. -/
def nth (lexer : Lexer) (index : Nat) : Except LexicalError Token :=
  match lexer.past index with
  | .error failure => .error failure
  | .ok before => before.next.1

end Lexer

namespace Proofs.TokenSequence
open Lexer LexemeExtent

section Steps
variable {lexer before after : Lexer} {token : Token} {failure : LexicalError} {count index : Nat}

theorem nth_of_past (reached : lexer.past count = .ok before) : lexer.nth count = before.next.1 := by
  rw [nth, reached]

theorem past_succ (reached : lexer.past count = .ok before) (given : before.next = (.ok token, after)) :
    lexer.past (count + 1) = .ok after := by
  rw [past, reached]
  simp only [given]

theorem past_of_nth (given : lexer.nth count = .ok token) :
    ∃ before, lexer.past count = .ok before ∧ before.next.1 = .ok token := by
  unfold nth at given
  split at given
  next => cases given
  next before reached => exact ⟨before, reached, given⟩

theorem past_succ_ok (reached : lexer.past (count + 1) = .ok after) :
    ∃ before token, lexer.past count = .ok before ∧ before.next = (.ok token, after) := by
  unfold past at reached
  split at reached
  next => cases reached
  next before arrived =>
    split at reached
    next => cases reached
    next token behind given =>
      cases reached
      exact ⟨before, token, arrived, given⟩

theorem past_of_tokens (given : ∀ earlier, earlier < count → ∃ token, lexer.nth earlier = .ok token) :
    ∃ before, lexer.past count = .ok before := by
  cases count with
  | zero => exact ⟨lexer, rfl⟩
  | succ count =>
    obtain ⟨token, last⟩ := given count (Nat.lt_succ_self count)
    obtain ⟨before, reached, next⟩ := past_of_nth last
    exact ⟨before.next.2, past_succ reached (Prod.ext next rfl)⟩

private theorem past_succ_of_failure (failed : lexer.nth count = .error failure) :
    lexer.past (count + 1) = .error failure := by
  unfold nth at failed
  unfold past
  cases reached : lexer.past count with
  | error other =>
    rw [reached] at failed
    exact congrArg _ (Except.error.inj failed)
  | ok before =>
    simp only [reached] at failed ⊢
    rcases given : before.next with ⟨outcome, after⟩
    rw [given] at failed
    cases failed
    rfl

/-- A failure is the last thing that a lexer says. -/
theorem nth_after_failure (failed : lexer.nth count = .error failure) (later : count ≤ index) :
    lexer.nth index = .error failure := by
  induction later with
  | refl => exact failed
  | step _ ih => rw [nth, past_succ_of_failure ih]

theorem nth_before (given : lexer.nth index = .ok token) (earlier : count ≤ index) :
    ∃ other, lexer.nth count = .ok other := by
  cases here : lexer.nth count with
  | ok other => exact ⟨other, rfl⟩
  | error failure => cases given.symm.trans (nth_after_failure here earlier)

private theorem past_add (reached : lexer.past count = .ok before) (further : Nat) :
    lexer.past (count + further) = before.past further := by
  induction further with
  | zero => exact reached
  | succ further ih => rw [← Nat.add_assoc, past, past, ih]

theorem nth_add (reached : lexer.past count = .ok before) (further : Nat) :
    lexer.nth (count + further) = before.nth further := by
  rw [nth, nth, past_add reached]

end Steps

section Blanks
variable {cursor : Cursor}

/-- Text that does not begin with a blank. -/
def Trimmed (text : List Char) : Prop :=
  ∀ c ∈ text.head?, isSpace c = false

theorem skipSpace_rest (cursor : Cursor) : cursor.skipSpace.rest = cursor.rest.dropWhile isSpace := by
  have whole := List.takeWhile_append_dropWhile (p := isSpace) (l := cursor.rest)
  calc cursor.rest.drop (cursor.rest.takeWhile isSpace).length
      = (cursor.rest.takeWhile isSpace ++ cursor.rest.dropWhile isSpace).drop (cursor.rest.takeWhile isSpace).length := by
        rw [whole]
    _ = cursor.rest.dropWhile isSpace := List.drop_left

theorem skipSpace_trimmed (cursor : Cursor) : Trimmed cursor.skipSpace.rest := by
  intro c first
  have plain := List.head?_dropWhile_not isSpace cursor.rest
  rw [skipSpace_rest] at first
  rwa [Option.mem_def.mp first] at plain

theorem skipSpace_of_trimmed (trimmed : Trimmed cursor.rest) : cursor.skipSpace = cursor := by
  obtain ⟨rest, location⟩ := cursor
  cases rest with
  | nil => rfl
  | cons c others =>
    rw [Cursor.skipSpace, List.takeWhile_cons_of_neg (by simp [trimmed c rfl])]
    rfl

end Blanks

section Scanning
variable {cursor : Cursor} {token : Token} {failure : LexicalError}

/-- All that a scan can come to once the blanks are behind it. -/
inductive ScanResult (start : Cursor) : Except LexicalError Token × Cursor → Prop where
  | ended (left : start.rest = []) : ScanResult start (.ok ⟨.endOfInput, "", start.location⟩, start)
  | token {kind : TokenKind} {length : Nat} (found : Lexeme.read start.rest = .token kind length) :
      ScanResult start (.ok ⟨kind, String.ofList (start.rest.take length), start.location⟩, start.advance length)
  | unterminated {form : Delimited} (found : Lexeme.read start.rest = .unterminated form) :
      ScanResult start (.error ⟨.unterminated form, start.location⟩, start.advance start.rest.length)
  | unexpected {c : Char} (found : Lexeme.read start.rest = .unexpected c) :
      ScanResult start (.error ⟨.unexpected c, start.location⟩, start)

private theorem integerEnd_ne_nothing (source : List Char) (length : Nat) : integerEnd source length ≠ .nothing := by
  unfold integerEnd
  split <;> simp

private theorem delimited_ne_nothing {kind : TokenKind} {form : Delimited} {closing : List Char} {raw : Bool}
    {opened : Nat}
    {source : List Char} : delimited kind form closing raw opened source ≠ .nothing := by
  unfold delimited
  split <;> simp

private theorem stringLiteral_ne_nothing {raw : Bool} {start : Nat} {quote : Char} {source : List Char} :
    stringLiteral raw start quote source ≠ .nothing := by
  unfold stringLiteral
  dsimp only
  split <;> exact delimited_ne_nothing

private theorem unquoted_ne_nothing (c : Char) (source : List Char) : unquoted c source ≠ .nothing := by
  unfold unquoted
  split
  next =>
    unfold number
    dsimp only
    repeat' split
    · exact integerEnd_ne_nothing _ _
    · exact integerEnd_ne_nothing _ _
    · simp
  next =>
    split
    · simp [word]
    · split <;> simp

private theorem read_ne_nothing (c : Char) (others : List Char) : Lexeme.read (c :: others) ≠ .nothing := by
  rcases read_cases c others with ⟨_, same⟩ | ⟨_, _, _, _, _, same⟩ | ⟨_, _, _, _, _, same⟩ | ⟨_, _, same⟩
  · rw [same]
    exact stringLiteral_ne_nothing
  · rw [same]
    exact stringLiteral_ne_nothing
  · rw [same]
    exact delimited_ne_nothing
  · rw [same]
    exact unquoted_ne_nothing _ _

theorem scan_result (cursor : Cursor) : ScanResult cursor.skipSpace cursor.scan := by
  unfold Cursor.scan
  dsimp only
  split
  next found =>
    refine .ended ?_
    cases left : cursor.skipSpace.rest with
    | nil => rfl
    | cons c others => exact absurd (left ▸ found) (read_ne_nothing c others)
  next found => exact .token found
  next found => exact .unterminated found
  next found => exact .unexpected found

private theorem scan_of_end (left : cursor.rest = []) :
    cursor.scan = (.ok ⟨.endOfInput, "", cursor.location⟩, cursor) := by
  have there : cursor.skipSpace = cursor := skipSpace_of_trimmed (by simp [Trimmed, left])
  rw [Cursor.scan, there]
  simp only [left, Lexeme.read]

private theorem scan_endOfInput {after : Cursor} (scanned : cursor.scan = (.ok token, after))
    (ends : token.kind = .endOfInput) :
    after.rest = [] ∧ token = ⟨.endOfInput, "", after.location⟩ := by
  have result := scan_result cursor
  rw [scanned] at result
  cases result with
  | ended left => exact ⟨left, rfl⟩
  | token found => exact absurd ends (read_bounds found).2.2

end Scanning

section Unbuffered
variable {cursor : Cursor} {token : Token} {count index : Nat}

@[simp] theorem next_unbuffered (cursor : Cursor) : Lexer.next ⟨cursor, []⟩ = (cursor.scan.1, ⟨cursor.scan.2, []⟩) :=
  rfl

private theorem past_unbuffered {after : Lexer} (reached : Lexer.past ⟨cursor, []⟩ count = .ok after) :
    ∃ stop, after = ⟨stop, []⟩ := by
  induction count generalizing after with
  | zero => exact ⟨cursor, (Except.ok.inj reached).symm⟩
  | succ count ih =>
    obtain ⟨before, token, arrived, given⟩ := past_succ_ok reached
    obtain ⟨stop, rfl⟩ := ih arrived
    exact ⟨stop.scan.2, (congrArg Prod.snd given).symm⟩

theorem nth_of_end (left : cursor.rest = []) (index : Nat) :
    Lexer.nth ⟨cursor, []⟩ index = .ok ⟨.endOfInput, "", cursor.location⟩ := by
  have stays : Lexer.past ⟨cursor, []⟩ index = .ok ⟨cursor, []⟩ := by
    induction index with
    | zero => rfl
    | succ index ih => exact past_succ ih (by rw [next_unbuffered, scan_of_end left])
  rw [nth_of_past stays, next_unbuffered, scan_of_end left]

/-- The end token is given for ever. -/
theorem nth_after_end (given : Lexer.nth ⟨cursor, []⟩ count = .ok token) (ends : token.kind = .endOfInput)
    (later : count ≤ index) : Lexer.nth ⟨cursor, []⟩ index = .ok token := by
  obtain ⟨before, reached, scanned⟩ := past_of_nth given
  obtain ⟨stop, rfl⟩ := past_unbuffered reached
  rcases Nat.eq_or_lt_of_le later with rfl | beyond
  · exact given
  · obtain ⟨further, rfl⟩ := Nat.exists_eq_add_of_le beyond
    obtain ⟨left, same⟩ := scan_endOfInput (Prod.ext scanned rfl) ends
    rw [nth_add (past_succ reached (Prod.ext scanned rfl)), next_unbuffered, nth_of_end left, same]

end Unbuffered

end Proofs.TokenSequence
end CommonExpr

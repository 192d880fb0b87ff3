import CommonExpr.Proofs.TokenSequence

/-! Looking ahead changes nothing. The buffer always holds the tokens that come next in
the sequence without lookahead, and the cursor is behind all of them. A scan that fails
leaves the buffer as it is, and there is no token behind what it holds. -/

namespace CommonExpr.Proofs.LookaheadBuffer
open Lexer TokenSequence

/-- What a lexer is asked for: the next token, which is consumed, or one that lies ahead. -/
inductive Call where
  | next
  | peek (distance : Nat) (ahead : 1 ≤ distance)

namespace Call

def perform : Call → Lexer → Except LexicalError (Option Token) × Lexer
  | .next, lexer => (lexer.next.1.map some, lexer.next.2)
  | .peek distance _, lexer => lexer.peek? distance

def consumes : Call → Nat
  | .next => 1
  | .peek _ _ => 0

/-- Which token of the sequence the call is about when so many are consumed. -/
def wanted (consumed : Nat) : Call → Nat
  | .next => consumed
  | .peek distance _ => consumed + (distance - 1)

end Call

/-- Makes the calls in turn, up to the first one that fails and with it. -/
def run : List Call → Lexer → List (Except LexicalError (Option Token)) × Lexer
  | [], lexer => ([], lexer)
  | call :: later, lexer =>
    match call.perform lexer with
    | (.error failure, after) => ([.error failure], after)
    | (.ok answer, after) =>
      let (answers, last) := run later after
      (.ok answer :: answers, last)

/-- What the calls are to answer out of a sequence of which so many tokens are consumed,
up to the first failure and with it, and how many tokens are consumed after them. -/
def foretold (tokens : Nat → Except LexicalError Token) (consumed : Nat) :
    List Call → List (Except LexicalError (Option Token)) × Nat
  | [] => ([], consumed)
  | call :: later =>
    match tokens (call.wanted consumed) with
    | .error failure => ([.error failure], consumed)
    | .ok token =>
      let (answers, total) := foretold tokens (consumed + call.consumes) later
      (.ok (some token) :: answers, total)

section Buffered
variable {cursor : Cursor} {buffer : List Token} {token : Token} {index : Nat}

private theorem past_buffered (within : index ≤ buffer.length) :
    Lexer.past ⟨cursor, buffer⟩ index = .ok ⟨cursor, buffer.drop index⟩ := by
  induction index with
  | zero => rfl
  | succ index ih =>
    have first : Lexer.next ⟨cursor, buffer.drop index⟩ = (.ok buffer[index], ⟨cursor, buffer.drop (index + 1)⟩) := by
      rw [List.drop_eq_getElem_cons (by omega), next]
    exact past_succ (ih (by omega)) first

theorem nth_held (held : buffer[index]? = some token) : Lexer.nth ⟨cursor, buffer⟩ index = .ok token := by
  obtain ⟨within, rfl⟩ := List.getElem?_eq_some_iff.mp held
  rw [nth_of_past (past_buffered (by omega)), List.drop_eq_getElem_cons within, next]

theorem nth_behind (further : Nat) :
    Lexer.nth ⟨cursor, buffer⟩ (buffer.length + further) = Lexer.nth ⟨cursor, []⟩ further := by
  rw [nth_add (past_buffered (Nat.le_refl _)), List.drop_length]

end Buffered

section Invariant

/-- The buffer holds what comes next in the sequence when so many tokens are consumed. -/
def Holds (start : Cursor) (consumed : Nat) (buffer : List Token) : Prop :=
  ∀ index token, buffer[index]? = some token → Lexer.nth ⟨start, []⟩ (consumed + index) = .ok token

/-- The cursor is behind the tokens in the buffer. -/
structure Ahead (start : Cursor) (consumed : Nat) (lexer : Lexer) : Prop where
  holds : Holds start consumed lexer.buffer
  reached : Lexer.past ⟨start, []⟩ (consumed + lexer.buffer.length) = .ok ⟨lexer.cursor, []⟩

/-- The sequence fails behind the tokens in the buffer, and the cursor fails again or is at the end. -/
structure Broken (start : Cursor) (consumed : Nat) (lexer : Lexer) (failure : LexicalError) : Prop where
  holds : Holds start consumed lexer.buffer
  failed : Lexer.nth ⟨start, []⟩ (consumed + lexer.buffer.length) = .error failure
  spent : lexer.cursor.scan.1 = .error failure ∨ lexer.cursor.rest = []

variable {start after : Cursor} {consumed : Nat} {lexer : Lexer} {token : Token} {failure : LexicalError}

theorem Ahead.scan (ahead : Ahead start consumed lexer) :
    Lexer.nth ⟨start, []⟩ (consumed + lexer.buffer.length) = lexer.cursor.scan.1 :=
  nth_of_past ahead.reached

theorem Ahead.push (ahead : Ahead start consumed lexer) (scanned : lexer.cursor.scan = (.ok token, after)) :
    Ahead start consumed ⟨after, lexer.buffer ++ [token]⟩ where
  holds index later found := by
    rcases Nat.lt_or_ge index lexer.buffer.length with inside | behind
    · rw [List.getElem?_append_left inside] at found
      exact ahead.holds index later found
    · have last : index = lexer.buffer.length := by
        have within := (List.getElem?_eq_some_iff.mp found).1
        rw [List.length_append, List.length_singleton] at within
        omega
      rw [last, List.getElem?_concat_length] at found
      rw [last, ahead.scan, scanned, Option.some.inj found]
  reached := by
    rw [List.length_append, List.length_singleton, ← Nat.add_assoc]
    exact past_succ ahead.reached (by rw [next_unbuffered, scanned])

private theorem scan_again (failed : start.scan = (.error failure, after)) :
    after.scan.1 = .error failure ∨ after.rest = [] := by
  have result := scan_result start
  have trimmed := skipSpace_trimmed start
  rw [failed] at result
  cases result with
  | unterminated found => exact .inr (List.drop_length ..)
  | unexpected found =>
    refine .inl ?_
    rw [Cursor.scan, skipSpace_of_trimmed trimmed]
    simp only [found]

theorem Ahead.break (ahead : Ahead start consumed lexer) (scanned : lexer.cursor.scan = (.error failure, after)) :
    Broken start consumed ⟨after, lexer.buffer⟩ failure where
  holds := ahead.holds
  failed := by rw [ahead.scan, scanned]
  spent := scan_again scanned

end Invariant

section Calls
variable {start : Cursor} {consumed : Nat} {lexer : Lexer}

private theorem fill_cases (ahead : Ahead start consumed lexer) (missing : Nat) :
    (∃ filled, fill missing lexer = (.ok (), filled) ∧ Ahead start consumed filled ∧
      filled.buffer.length = lexer.buffer.length + missing) ∨
    ∃ failure filled, fill missing lexer = (.error failure, filled) ∧ Broken start consumed filled failure ∧
      lexer.buffer.length ≤ filled.buffer.length ∧ filled.buffer.length < lexer.buffer.length + missing := by
  induction missing generalizing lexer with
  | zero => exact .inl ⟨lexer, rfl, ahead, rfl⟩
  | succ missing ih =>
    rcases scanned : lexer.cursor.scan with ⟨outcome, after⟩
    cases outcome with
    | error failure =>
      exact .inr ⟨failure, _, by rw [fill, scanned], ahead.break scanned, Nat.le_refl _, by simp⟩
    | ok token =>
      have longer : (Lexer.mk after (lexer.buffer ++ [token])).buffer.length = lexer.buffer.length + 1 := List.length_append
      rcases ih (ahead.push scanned) with ⟨filled, fills, kept, count⟩ | ⟨failure, filled, fills, broken, count⟩
      · exact .inl ⟨filled, by rw [fill, scanned]; exact fills, kept, by omega⟩
      · exact .inr ⟨failure, filled, by rw [fill, scanned]; exact fills, broken, by omega⟩

/-- What one call does that is made while nothing has failed. -/
inductive Outcome (start : Cursor) (consumed : Nat) (call : Call) : Except LexicalError (Option Token) × Lexer → Prop where
  | answered {token : Token} {after : Lexer} (wanted : Lexer.nth ⟨start, []⟩ (call.wanted consumed) = .ok token)
      (ahead : Ahead start (consumed + call.consumes) after) : Outcome start consumed call (.ok (some token), after)
  | failed {failure : LexicalError} {after : Lexer} (wanted : Lexer.nth ⟨start, []⟩ (call.wanted consumed) = .error failure)
      (broken : Broken start consumed after failure) : Outcome start consumed call (.error failure, after)

private theorem next_outcome (ahead : Ahead start consumed lexer) :
    Outcome start consumed .next (Call.next.perform lexer) := by
  obtain ⟨cursor, buffer⟩ := lexer
  cases buffer with
  | cons token others =>
    refine .answered (ahead.holds 0 token rfl) ⟨fun index later found => ?_, ?_⟩
    · have shifted := ahead.holds (index + 1) later found
      rwa [show consumed + (index + 1) = consumed + 1 + index by omega] at shifted
    · have reached := ahead.reached
      rwa [List.length_cons, show consumed + (others.length + 1) = consumed + 1 + others.length by omega] at reached
  | nil =>
    have first := ahead.scan
    rcases scanned : cursor.scan with ⟨outcome, after⟩
    simp only [Call.perform, next, scanned] at first ⊢
    cases outcome with
    | error failure => exact .failed first (ahead.break scanned)
    | ok token => exact .answered first ⟨fun _ _ found => (nomatch found), past_succ ahead.reached (by rw [next_unbuffered, scanned])⟩

private theorem peek_outcome (ahead : Ahead start consumed lexer) {distance : Nat} (positive : 1 ≤ distance) :
    Outcome start consumed (.peek distance positive) (lexer.peek? distance) := by
  rw [peek?, if_neg (by omega)]
  rcases fill_cases ahead (distance - lexer.buffer.length) with
    ⟨filled, fills, kept, count⟩ | ⟨failure, filled, fills, broken, count⟩
  · have inside : distance - 1 < filled.buffer.length := by omega
    simp only [fills, Except.map, List.getElem?_eq_getElem inside]
    exact .answered (kept.holds _ _ (List.getElem?_eq_getElem inside)) kept
  · simp only [fills, Except.map]
    exact .failed (nth_after_failure broken.failed (by simp only [Call.wanted]; omega)) broken

private theorem perform_outcome (ahead : Ahead start consumed lexer) (call : Call) :
    Outcome start consumed call (call.perform lexer) := by
  cases call with
  | next => exact next_outcome ahead
  | peek distance positive => exact peek_outcome ahead positive

/-- The calls answer what they are to answer, and leave a lexer that is ahead or broken. -/
theorem run_foretold (ahead : Ahead start consumed lexer) (calls : List Call) :
    (run calls lexer).1 = (foretold (Lexer.nth ⟨start, []⟩) consumed calls).1 ∧
      (Ahead start (foretold (Lexer.nth ⟨start, []⟩) consumed calls).2 (run calls lexer).2 ∨
        ∃ failure, Broken start (foretold (Lexer.nth ⟨start, []⟩) consumed calls).2 (run calls lexer).2 failure) := by
  induction calls generalizing consumed lexer with
  | nil => exact ⟨rfl, .inl ahead⟩
  | cons call later ih =>
    have outcome := perform_outcome ahead call
    -- Both recursions stop at the same call, since they part on one and the same outcome.
    rw [run, foretold]
    generalize call.perform lexer = made at outcome ⊢
    cases outcome with
    | failed wanted broken =>
      simp only [wanted, true_and]
      exact .inr ⟨_, broken⟩
    | answered wanted kept =>
      obtain ⟨answers, left⟩ := ih kept
      simp only [wanted, answers, true_and]
      exact left

end Calls

section Rest
variable {start : Cursor} {consumed : Nat} {lexer : Lexer} {failure : LexicalError}

theorem Ahead.rest (ahead : Ahead start consumed lexer) (index : Nat) :
    lexer.nth index = Lexer.nth ⟨start, []⟩ (consumed + index) := by
  rcases Nat.lt_or_ge index lexer.buffer.length with inside | behind
  · have here := List.getElem?_eq_getElem inside
    rw [ahead.holds _ _ here]
    exact nth_held here
  · obtain ⟨further, rfl⟩ := Nat.exists_eq_add_of_le behind
    rw [← Nat.add_assoc, nth_add ahead.reached]
    exact nth_behind further

theorem Broken.rest (broken : Broken start consumed lexer failure) (index : Nat) :
    lexer.nth index = Lexer.nth ⟨start, []⟩ (consumed + index) ∨
      ((∃ failure, Lexer.nth ⟨start, []⟩ (consumed + index) = .error failure) ∧
        ∃ ending, lexer.nth index = .ok ending ∧ ending.kind = .endOfInput) := by
  rcases Nat.lt_or_ge index lexer.buffer.length with inside | behind
  · have here := List.getElem?_eq_getElem inside
    rw [broken.holds _ _ here]
    exact .inl (nth_held here)
  · have fails : Lexer.nth ⟨start, []⟩ (consumed + index) = .error failure :=
      nth_after_failure broken.failed (by omega)
    obtain ⟨further, rfl⟩ := Nat.exists_eq_add_of_le behind
    have behind : lexer.nth (lexer.buffer.length + further) = Lexer.nth ⟨lexer.cursor, []⟩ further := nth_behind further
    rw [fails, behind]
    -- A character that starts no token stays in place; a literal without an end uses the source up.
    cases broken.spent with
    | inl again =>
      have first : Lexer.nth ⟨lexer.cursor, []⟩ 0 = .error failure := again
      exact .inl (nth_after_failure first (Nat.zero_le _))
    | inr left => exact .inr ⟨⟨failure, rfl⟩, _, nth_of_end left further, rfl⟩

end Rest

/-- Calls that look ahead and consume in any order are answered out of the sequence of
tokens without lookahead, up to the first failure and with it. Behind them the lexer gives
the tokens of the sequence that are not consumed, and at its failure the failure again
or an end token. The sequence has one failure, or the end token for ever. -/
theorem lookahead_is_transparent (source : String) (calls : List Call) :
    let tokens := (Lexer.ofSource source).nth
    let made := run calls (Lexer.ofSource source)
    let told := foretold tokens 0 calls
    made.1 = told.1 ∧
    (∀ index, made.2.nth index = tokens (told.2 + index) ∨
      ((∃ failure, tokens (told.2 + index) = .error failure) ∧
        ∃ ending, made.2.nth index = .ok ending ∧ ending.kind = .endOfInput)) ∧
    ∀ index later, index ≤ later →
      (∀ failure, tokens index = .error failure → tokens later = .error failure) ∧
      ∀ ending, tokens index = .ok ending → ending.kind = .endOfInput → tokens later = .ok ending := by
  have fresh : Ahead (.ofSource source) 0 (Lexer.ofSource source) := ⟨fun _ _ found => (nomatch found), rfl⟩
  obtain ⟨answers, left⟩ := run_foretold fresh calls
  refine ⟨answers, fun index => ?_, fun index later order => ⟨?_, ?_⟩⟩
  · rcases left with ahead | ⟨failure, broken⟩
    · exact .inl (ahead.rest index)
    · exact broken.rest index
  · exact fun failure failed => nth_after_failure failed order
  · exact fun ending given ends => nth_after_end given ends order

end CommonExpr.Proofs.LookaheadBuffer

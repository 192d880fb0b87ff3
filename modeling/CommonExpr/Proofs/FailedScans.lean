import CommonExpr.Proofs.LookaheadBuffer
import CommonExpr.Proofs.SourceTokens

/-! What a lexer answers when it is asked on after a failure. All that it will ever answer is
in the sequence of its tokens without lookahead. A character that starts no token fails
again whenever it is reached; a literal without an end fails once, and after that the end
token stands in its place. -/

namespace CommonExpr.Proofs.FailedScans
open Lexer TokenSequence TokenPlaces LookaheadBuffer TokenReader Tokenization SourceTokens

/-- The tokens or the failure that a lexer comes to by and by. -/
abbrev Sequence := Nat → Except LexicalError Token

/-- What a lexer can be asked for: a token that it consumes or looks at, or all that are left. -/
inductive Request where
  | single (call : Call)
  | all

namespace Request

def perform : Request → Lexer → Except LexicalError (List Token) × Lexer
  | .single call, lexer => ((call.perform lexer).1.map Option.toList, (call.perform lexer).2)
  | .all, lexer => lexer.tokenize

end Request

/-- Makes the requests in turn, also after one of them has failed. -/
def serve : List Request → Lexer → List (Except LexicalError (List Token))
  | [], _ => []
  | request :: later, lexer => (request.perform lexer).1 :: serve later (request.perform lexer).2

/-- The tokens up to the end token, or the failure before that, and how many of them are taken. -/
inductive Gathered : Sequence → Except LexicalError (List Token) → Nat → Prop where
  | ended {sequence : Sequence} {token : Token} (first : sequence 0 = .ok token) (ends : token.kind = .endOfInput) :
      Gathered sequence (.ok [token]) 1
  | failed {sequence : Sequence} {failure : LexicalError} (first : sequence 0 = .error failure) :
      Gathered sequence (.error failure) 0
  | more {sequence : Sequence} {token : Token} {answer : Except LexicalError (List Token)} {taken : Nat}
      (first : sequence 0 = .ok token) (ordinary : token.kind ≠ .endOfInput)
      (rest : Gathered (fun index => sequence (1 + index)) answer taken) :
      Gathered sequence (answer.map (token :: ·)) (1 + taken)

/-- What a request is to answer out of a sequence, and how many tokens it takes. -/
inductive Answered (sequence : Sequence) : Request → Except LexicalError (List Token) → Nat → Prop where
  | given {call : Call} {token : Token} (wanted : sequence (call.wanted 0) = .ok token) :
      Answered sequence (.single call) (.ok [token]) call.consumes
  | refused {call : Call} {failure : LexicalError} (wanted : sequence (call.wanted 0) = .error failure) :
      Answered sequence (.single call) (.error failure) 0
  | all {answer : Except LexicalError (List Token)} {taken : Nat} (gathered : Gathered sequence answer taken) :
      Answered sequence .all answer taken

/-- The sequence with the end token in the place of a literal that has no end. -/
def resumed (ending : Token) (sequence : Sequence) : Sequence := fun index =>
  match sequence index with
  | .error ⟨.unterminated _, _⟩ => .ok ending
  | outcome => outcome

/-- The sequence that is left after an answer. -/
def afterwards {α : Type} (ending : Token) (answer : Except LexicalError α) (sequence : Sequence) : Sequence :=
  match answer with
  | .ok _ => sequence
  | .error _ => resumed ending sequence

/-- What requests are to answer out of a sequence, one after the other. -/
inductive Foretold (ending : Token) : Sequence → List Request → List (Except LexicalError (List Token)) → Prop where
  | done (sequence : Sequence) : Foretold ending sequence [] []
  | request {sequence : Sequence} {request : Request} {later : List Request} {answer : Except LexicalError (List Token)}
      {answers : List (Except LexicalError (List Token))} {taken : Nat} (answered : Answered sequence request answer taken)
      (rest : Foretold ending (afterwards ending answer fun index => sequence (taken + index)) later answers) :
      Foretold ending sequence (request :: later) (answer :: answers)

section Failures
variable {text passed : List Char} {cursor after : Cursor} {failure : LexicalError} {token ending : Token}
  {buffer : List Token} {sequence : Sequence} {index : Nat}

private theorem resumed_ok (given : sequence index = .ok token) : resumed ending sequence index = .ok token := by
  rw [resumed, given]

/-- The end of a text, as the lexer gives it. -/
def finish (text : List Char) : Token :=
  endToken (behind text)

private theorem stands_consumed (stands : Stands text passed cursor) :
    Stands text text (cursor.advance cursor.rest.length) := by
  have unsplit : Unsplit (passed ++ cursor.rest.take cursor.rest.length) (cursor.rest.drop cursor.rest.length) := by
    rw [List.drop_length]
    simp [Unsplit]
  have ended := stands.advance unsplit
  rwa [List.take_length, ← stands.whole] at ended

/-- A scan that failed leaves the cursor at the character at fault or at the end of the text. -/
theorem scan_failed (stands : Stands text passed cursor) (scanned : cursor.scan = (.error failure, after)) :
    (∃ passed, Stands text passed after) ∧
      ∀ index, Lexer.nth ⟨after, []⟩ index = resumed (finish text) (fun _ => .error failure) index := by
  have skipped := stands.skipSpace
  have trimmed := skipSpace_trimmed cursor
  have result := scan_result cursor
  rw [scanned] at result
  cases result with
  | unterminated found =>
    have ended := stands_consumed skipped
    refine ⟨⟨text, ended⟩, fun index => ?_⟩
    rw [nth_of_end List.drop_length, ended.place]
    rfl
  | @unexpected c found =>
    refine ⟨⟨_, skipped⟩, fun index => ?_⟩
    have again : Lexer.nth ⟨cursor.skipSpace, []⟩ 0 = .error ⟨.unexpected c, cursor.skipSpace.location⟩ := by
      rw [nth_of_past rfl, next_unbuffered, Cursor.scan, skipSpace_of_trimmed trimmed]
      simp only [found]
    exact nth_after_failure again (Nat.zero_le index)

/-- The tokens in the buffer are not touched by a failure behind them. -/
theorem nth_failed (stands : Stands text passed cursor) (scanned : cursor.scan = (.error failure, after)) :
    Lexer.nth ⟨after, buffer⟩ = resumed (finish text) (Lexer.nth ⟨cursor, buffer⟩) := by
  funext index
  rcases Nat.lt_or_ge index buffer.length with inside | later
  · have held := List.getElem?_eq_getElem inside
    rw [nth_held held, resumed_ok (nth_held held)]
  · obtain ⟨further, rfl⟩ := Nat.exists_eq_add_of_le later
    have first : Lexer.nth ⟨cursor, []⟩ 0 = .error failure := congrArg Prod.fst scanned
    rw [nth_behind, (scan_failed stands scanned).2, resumed, resumed, nth_behind,
      nth_after_failure first (Nat.zero_le further)]

/-- A token that is scanned into the buffer stays where it is in the sequence. -/
theorem nth_pushed (scanned : cursor.scan = (.ok token, after)) :
    Lexer.nth ⟨after, buffer ++ [token]⟩ = Lexer.nth ⟨cursor, buffer⟩ := by
  funext index
  rcases Nat.lt_or_ge index buffer.length with inside | later
  · have held := List.getElem?_eq_getElem inside
    rw [nth_held held, nth_held ((List.getElem?_append_left inside).trans held)]
  · obtain ⟨further, rfl⟩ := Nat.exists_eq_add_of_le later
    rw [nth_behind]
    cases further with
    | zero =>
      have held : (buffer ++ [token])[buffer.length]? = some token := List.getElem?_concat_length
      exact (nth_held held).trans (congrArg Prod.fst scanned).symm
    | succ further =>
      have longer : buffer.length + (further + 1) = (buffer ++ [token]).length + further := by
        rw [List.length_append, List.length_singleton]
        omega
      rw [longer, nth_behind, nth_scanned_succ scanned]

end Failures

section Requests
variable {text passed : List Char} {lexer after : Lexer} {cursor : Cursor} {token : Token}

/-- What a call leaves behind: the rest of the sequence, or what is to follow a failure. -/
structure Leaves {α : Type} (text : List Char) (sequence : Sequence) (taken : Nat) (answer : Except LexicalError α)
    (after : Lexer) : Prop where
  rest : after.nth = afterwards (finish text) answer fun index => sequence (taken + index)
  stands : ∃ passed, Stands text passed after.cursor

private theorem next_gives (stands : Stands text passed lexer.cursor) (given : lexer.next = (.ok token, after)) :
    Leaves text lexer.nth 1 (.ok token : Except LexicalError Token) after where
  rest := by
    funext index
    exact (nth_add (past_succ rfl given) index).symm
  stands := by
    obtain ⟨cursor, buffer⟩ := lexer
    cases buffer with
    | cons first others =>
      cases given
      exact ⟨passed, stands⟩
    | nil =>
      obtain ⟨scanned, same⟩ := Prod.mk.inj given
      obtain ⟨-, covered, reached, -⟩ := stands.tile (Prod.ext scanned rfl)
      exact ⟨covered, same ▸ reached⟩

private theorem next_fails (stands : Stands text passed lexer.cursor) {failure : LexicalError}
    (failed : lexer.next = (.error failure, after)) :
    Leaves text lexer.nth 0 (.error failure : Except LexicalError Token) after := by
  obtain ⟨cursor, buffer⟩ := lexer
  cases buffer with
  | cons first others => cases failed
  | nil =>
    obtain ⟨scanned, rfl⟩ := Prod.mk.inj failed
    have whole : cursor.scan = (.error failure, cursor.scan.2) := Prod.ext scanned rfl
    refine ⟨?_, (scan_failed stands whole).1⟩
    simp only [afterwards, Nat.zero_add]
    exact nth_failed stands whole

/-- Looking ahead scans as far as is asked for, or to a failure that is nearer. -/
theorem fill_leaves (stands : Stands text passed lexer.cursor) (missing : Nat) :
    Leaves text lexer.nth 0 (fill missing lexer).1 (fill missing lexer).2 ∧
      match (fill missing lexer).1 with
      | .ok _ => (fill missing lexer).2.buffer.length = lexer.buffer.length + missing
      | .error failure => ∃ further, further < missing ∧ lexer.nth (lexer.buffer.length + further) = .error failure := by
  induction missing generalizing lexer passed with
  | zero => exact ⟨⟨by simp [fill, afterwards], passed, stands⟩, rfl⟩
  | succ missing ih =>
    obtain ⟨cursor, buffer⟩ := lexer
    rcases scanned : cursor.scan with ⟨outcome, after⟩
    cases outcome with
    | error failure =>
      have failed : Lexer.nth ⟨cursor, buffer⟩ (buffer.length + 0) = .error failure :=
        (nth_behind 0).trans (congrArg Prod.fst scanned)
      simp only [fill, scanned]
      refine ⟨⟨?_, (scan_failed stands scanned).1⟩, 0, Nat.succ_pos missing, failed⟩
      simp only [afterwards, Nat.zero_add]
      exact nth_failed stands scanned
    | ok token =>
      obtain ⟨-, covered, reached, -⟩ := stands.tile scanned
      have pushed : Stands text covered (Lexer.mk after (buffer ++ [token])).cursor := reached
      obtain ⟨leaves, reaches⟩ := ih pushed
      rw [nth_pushed scanned] at leaves reaches
      simp only [fill, scanned]
      refine ⟨leaves, ?_⟩
      -- One token more is in the buffer, and one less is missing.
      cases outcome : (fill missing ⟨after, buffer ++ [token]⟩).1 with
      | ok _ =>
        rw [outcome] at reaches
        simp only [List.length_append, List.length_singleton] at reaches ⊢
        omega
      | error failure =>
        rw [outcome] at reaches
        obtain ⟨further, before, failed⟩ := reaches
        rw [List.length_append, List.length_singleton, Nat.add_assoc] at failed
        exact ⟨1 + further, by omega, failed⟩

/-- A call is answered out of the sequence, whatever has failed before. -/
theorem call_answered (stands : Stands text passed lexer.cursor) (call : Call) : ∃ taken,
    Answered lexer.nth (.single call) ((Request.single call).perform lexer).1 taken ∧
      Leaves text lexer.nth taken ((Request.single call).perform lexer).1 ((Request.single call).perform lexer).2 := by
  cases call with
  | next =>
    rcases given : lexer.next with ⟨outcome, after⟩
    have first : lexer.nth 0 = outcome := congrArg Prod.fst given
    simp only [Request.perform, Call.perform, given]
    cases outcome with
    | ok token =>
      obtain ⟨rest, stands⟩ := next_gives stands given
      exact ⟨1, .given first, rest, stands⟩
    | error failure =>
      obtain ⟨rest, stands⟩ := next_fails stands given
      exact ⟨0, .refused first, rest, stands⟩
  | peek distance ahead =>
    have positive : distance ≠ 0 := by omega
    obtain ⟨leaves, reaches⟩ := fill_leaves stands (distance - lexer.buffer.length)
    simp only [Request.perform, Call.perform, peek?, if_neg positive]
    rcases filled : fill (distance - lexer.buffer.length) lexer with ⟨outcome, after⟩
    rw [filled] at leaves reaches
    obtain ⟨rest, stands⟩ := leaves
    cases outcome with
    | ok _ =>
      have inside : distance - 1 < after.buffer.length := by
        simp only at reaches
        omega
      have same : after.nth = lexer.nth := by simpa [afterwards] using rest
      have held : lexer.nth (distance - 1) = .ok after.buffer[distance - 1] :=
        same ▸ nth_held (List.getElem?_eq_getElem inside)
      simp only [Except.map, List.getElem?_eq_getElem inside, Option.toList]
      exact ⟨0, .given (by simpa [Call.wanted] using held), rest, stands⟩
    | error failure =>
      obtain ⟨further, before, failed⟩ := reaches
      have wanted : lexer.nth (0 + (distance - 1)) = .error failure := nth_after_failure failed (by omega)
      exact ⟨0, .refused wanted, rest, stands⟩

/-- The sequence has come to its end or to a failure. -/
def Stops (outcome : Except LexicalError Token) : Prop :=
  ∀ token, outcome = .ok token → token.kind = .endOfInput

private theorem cursor_stops (cursor : Cursor) :
    ∃ index, index ≤ cursor.rest.length ∧ Stops (Lexer.nth ⟨cursor, []⟩ index) := by
  induction many : cursor.rest.length using Nat.strongRecOn generalizing cursor with
  | ind count ih =>
    rcases scanned : cursor.scan with ⟨outcome, after⟩
    have first : Lexer.nth ⟨cursor, []⟩ 0 = outcome := congrArg Prod.fst scanned
    by_cases stops : Stops outcome
    · exact ⟨0, Nat.zero_le _, first ▸ stops⟩
    · cases outcome with
      | error failure => exact absurd nofun stops
      | ok token =>
        rcases scan_ok scanned with ⟨place, rfl⟩ | ⟨-, shorter⟩
        · exact absurd (fun token same => by cases same; rfl) stops
        · obtain ⟨index, within, stops⟩ := ih _ (many ▸ shorter) after rfl
          exact ⟨index + 1, by omega, nth_scanned_succ scanned index ▸ stops⟩

/-- There are enough steps for the tokens in the buffer and for those that are still to be scanned. -/
theorem lexer_stops (lexer : Lexer) :
    ∃ index, index < lexer.buffer.length + lexer.cursor.rest.length + 1 ∧ Stops (lexer.nth index) := by
  obtain ⟨index, within, stops⟩ := cursor_stops lexer.cursor
  exact ⟨lexer.buffer.length + index, by omega, nth_behind index ▸ stops⟩

private theorem drain_answered {steps index : Nat} (stands : Stands text passed lexer.cursor) (enough : index < steps)
    (stops : Stops (lexer.nth index)) : ∃ taken, Gathered lexer.nth (drain steps lexer).1 taken ∧
      Leaves text lexer.nth taken (drain steps lexer).1 (drain steps lexer).2 := by
  induction steps generalizing lexer passed index with
  | zero => exact absurd enough (Nat.not_lt_zero _)
  | succ steps ih =>
    rcases given : lexer.next with ⟨outcome, after⟩
    have first : lexer.nth 0 = outcome := congrArg Prod.fst given
    simp only [drain, given]
    cases outcome with
    | error failure =>
      obtain ⟨rest, stands⟩ := next_fails stands given
      exact ⟨0, .failed first, rest, stands⟩
    | ok token =>
      obtain ⟨rest, covered, reached⟩ := next_gives stands given
      by_cases ends : token.kind = .endOfInput
      · simp only [if_pos ends]
        exact ⟨1, .ended first ends, rest, covered, reached⟩
      · simp only [if_neg ends]
        have shifted : after.nth = fun index => lexer.nth (1 + index) := rest
        obtain ⟨before, rfl⟩ : ∃ before, index = 1 + before := by
          cases index with
          | zero => exact absurd (stops token first) ends
          | succ before => exact ⟨before, Nat.add_comm before 1⟩
        rw [← congrFun shifted before] at stops
        obtain ⟨taken, gathered, left, stands⟩ := ih reached (by omega) stops
        rw [shifted] at gathered left
        refine ⟨1 + taken, .more first ends gathered, ?_, stands⟩
        simp only [Nat.add_assoc]
        cases drained : (drain steps after).1 with
        | ok _ => simpa only [drained, Except.map, afterwards] using left
        | error _ => simpa only [drained, Except.map, afterwards] using left

private theorem request_answered (stands : Stands text passed lexer.cursor) (request : Request) : ∃ taken,
    Answered lexer.nth request (request.perform lexer).1 taken ∧
      Leaves text lexer.nth taken (request.perform lexer).1 (request.perform lexer).2 := by
  cases request with
  | single call => exact call_answered stands call
  | all =>
    obtain ⟨index, enough, stops⟩ := lexer_stops lexer
    obtain ⟨taken, gathered, leaves⟩ := drain_answered stands enough stops
    exact ⟨taken, .all gathered, leaves⟩

/-- Requests are answered out of the sequence, one after the other. -/
theorem serve_foretold (stands : Stands text passed lexer.cursor) (requests : List Request) :
    Foretold (finish text) lexer.nth requests (serve requests lexer) := by
  induction requests generalizing lexer passed with
  | nil => exact .done lexer.nth
  | cons request later ih =>
    obtain ⟨taken, answered, left, covered, reached⟩ := request_answered stands request
    exact .request answered (left ▸ ih reached)

end Requests

/-- All requests are answered out of the sequence of tokens without lookahead, also when some of
them have failed. At a character that starts no token that changes nothing, so such a failure
is final. At a literal without an end the sequence goes on with the end token. -/
theorem failures_are_final_but_at_unterminated_literals (source : String) (requests : List Request) :
    let tokens := (Lexer.ofSource source).nth
    let ending := endToken (behind source.toList)
    Foretold ending tokens requests (serve requests (Lexer.ofSource source)) ∧
    (∀ index c place, tokens index = .error ⟨.unexpected c, place⟩ → resumed ending tokens = tokens) ∧
    ∀ index form place, tokens index = .error ⟨.unterminated form, place⟩ → ∀ later, index ≤ later →
      tokens later = .error ⟨.unterminated form, place⟩ ∧ resumed ending tokens later = .ok ending := by
  have stands : Stands source.toList [] (Lexer.ofSource source).cursor := ⟨rfl, rfl, fun ends => nomatch ends⟩
  refine ⟨serve_foretold stands requests, fun index c place failed => ?_, fun index form place failed later order => ?_⟩
  · funext other
    rcases Nat.le_total index other with later | earlier
    · rw [resumed, nth_after_failure failed later]
    · cases here : (Lexer.ofSource source).nth other with
      | ok token => rw [resumed, here]
      | error failure =>
        have same := (nth_after_failure here earlier).symm.trans failed
        cases same
        rw [resumed, here]
  · have fails := nth_after_failure failed order
    exact ⟨fails, by rw [resumed, fails]⟩

/-- The failure is at the string, and there the second call is given the end token. -/
theorem end_given_behind_unterminated_string :
    serve [.single .next, .single .next] (Lexer.ofSource "'abc") =
      [.error ⟨.unterminated .string, ⟨1, 1, 0⟩⟩, .ok [⟨.endOfInput, "", ⟨1, 5, 4⟩⟩]] := by
  rfl

end CommonExpr.Proofs.FailedScans

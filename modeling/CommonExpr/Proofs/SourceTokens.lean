import CommonExpr.Proofs.TokenFootprint
import CommonExpr.Proofs.TokenPlaces
import CommonExpr.Proofs.Tokenization

/-! The tokens of a source are the same in the stream that the parser is given, before its
reader, and in the sequence without lookahead. -/

namespace CommonExpr.Proofs.SourceTokens
open CommonExpr.Parser TokenReader Tokenization TokenFootprint TokenSequence

section Streams

/-- What the lexer makes of a source: lexemes, and the end token or a failure behind them. -/
inductive Written : TokenStream → List Token → Except LexicalError Token → Prop where
  | finished (place : Location) : Written (.finished (endToken place)) [] (.ok (endToken place))
  | failed (failure : LexicalError) : Written (.failed failure) [] (.error failure)
  | more {token : Token} {stream : TokenStream} {tokens : List Token} {last : Except LexicalError Token}
      (genuine : Genuine token) (rest : Written stream tokens last) : Written (.more token stream) (token :: tokens) last

/-- The sequence without lookahead begins with these tokens and then this. -/
structure Listed (sequence : Nat → Except LexicalError Token) (tokens : List Token) (last : Except LexicalError Token) : Prop where
  inside : ∀ index (within : index < tokens.length), sequence index = .ok tokens[index]
  behind : sequence tokens.length = last

variable {stream : TokenStream} {tokens : List Token} {last : Except LexicalError Token} {failure : LexicalError}
  {cursor after : Cursor} {token : Token}

theorem nth_scanned_succ (scanned : cursor.scan = (.ok token, after)) (index : Nat) :
    Lexer.nth ⟨cursor, []⟩ (index + 1) = Lexer.nth ⟨after, []⟩ index := by
  have reached : Lexer.past ⟨cursor, []⟩ (0 + 1) = .ok ⟨after, []⟩ := past_succ rfl (by rw [next_unbuffered, scanned])
  rw [← nth_add reached, Nat.zero_add, Nat.add_comm]

theorem Listed.cons (listed : Listed (Lexer.nth ⟨after, []⟩) tokens last) (scanned : cursor.scan = (.ok token, after)) :
    Listed (Lexer.nth ⟨cursor, []⟩) (token :: tokens) last := by
  refine ⟨fun index within => ?_, (nth_scanned_succ scanned _).trans listed.behind⟩
  cases index with
  | zero => exact congrArg Prod.fst scanned
  | succ index => exact (nth_scanned_succ scanned index).trans (listed.inside index (Nat.lt_of_succ_lt_succ within))

theorem scanFrom_written {steps : Nat} (enough : cursor.rest.length < steps) : ∃ tokens last,
    Written (TokenStream.scanFrom steps cursor) tokens last ∧ Listed (Lexer.nth ⟨cursor, []⟩) tokens last := by
  induction steps generalizing cursor with
  | zero => exact absurd enough (Nat.not_lt_zero _)
  | succ steps ih =>
    rw [TokenStream.scanFrom]
    rcases scanned : cursor.scan with ⟨outcome, after⟩
    have first : Lexer.nth ⟨cursor, []⟩ 0 = outcome := congrArg Prod.fst scanned
    cases outcome with
    | error failure => exact ⟨[], .error failure, .failed failure, fun _ within => absurd within (Nat.not_lt_zero _), first⟩
    | ok token =>
      rcases scan_ok scanned with ⟨place, rfl⟩ | ⟨genuine, shorter⟩
      · exact ⟨[], .ok (endToken place), .finished place, fun _ within => absurd within (Nat.not_lt_zero _), first⟩
      · simp only [if_neg genuine.ordinary]
        obtain ⟨tokens, last, written, listed⟩ := ih (show after.rest.length < steps by omega)
        exact ⟨token :: tokens, last, .more genuine written, listed.cons scanned⟩

theorem Written.genuine (written : Written stream tokens last) : ∀ token ∈ tokens, Genuine token := by
  induction written with
  | finished _ => exact nofun
  | failed _ => exact nofun
  | more genuine _ ih => exact List.forall_mem_cons.mpr ⟨genuine, ih⟩

theorem Written.sealed (written : Written stream tokens last) : Sealed stream := by
  induction written with
  | finished _ => exact rfl
  | failed _ => exact trivial
  | more _ _ ih => exact ih

theorem Written.length (written : Written stream tokens last) : stream.length = tokens.length := by
  induction written with
  | finished _ => rfl
  | failed _ => rfl
  | more _ _ ih => exact congrArg (· + 1) ih

/-- The tokens and what comes behind them are what the lexer makes of the whole source. -/
theorem Written.listing (written : Written stream tokens last) :
    listing stream = last.map (fun token => tokens ++ [token]) := by
  induction written with
  | finished _ => rfl
  | failed _ => rfl
  | @more token _ _ last _ _ ih =>
    rw [Tokenization.listing, ih]
    cases last <;> rfl

theorem Written.endsIn (written : Written stream tokens last) (ends : EndsIn failure stream) : last = .error failure := by
  induction written with
  | finished _ => cases ends
  | failed _ =>
    cases ends
    rfl
  | more _ _ ih =>
    cases ends with
    | more rest => exact ih rest

theorem Written.finishes {ending : Token} (written : Written stream tokens (.ok ending)) :
    ∃ place, ending = endToken place ∧ stream = streamOf place tokens := by
  generalize ends : Except.ok ending = last at written
  induction written with
  | finished place =>
    cases ends
    exact ⟨place, rfl, rfl⟩
  | failed _ => cases ends
  | more _ _ ih =>
    obtain ⟨place, same, stream⟩ := ih ends
    exact ⟨place, same, by rw [stream, streamOf]⟩

private theorem streamOf_written (place : Location) (genuine : ∀ token ∈ tokens, Genuine token) :
    Written (streamOf place tokens) tokens (.ok (endToken place)) := by
  induction tokens with
  | nil => exact .finished place
  | cons token others ih =>
    obtain ⟨first, rest⟩ := List.forall_mem_cons.mp genuine
    exact .more first (ih rest)

end Streams

section Readers

/-- A reader that has these tokens before it, and then this. -/
def Fed (reader : Reader) (tokens : List Token) (last : Except LexicalError Token) : Prop :=
  ∃ stream, Written stream tokens last ∧ stream.uncons = .ok (reader.current, reader.following)

variable {before after : Reader} {used others tokens rest : List Token} {last : Except LexicalError Token}
  {token ending : Token} {failure : LexicalError}

theorem Fed.sealed (fed : Fed before tokens last) : Sealed before.following := by
  obtain ⟨stream, written, given⟩ := fed
  exact written.sealed.uncons given

theorem Fed.endsIn (fed : Fed before tokens last) (ends : EndsIn failure before.following) : last = .error failure := by
  obtain ⟨stream, written, given⟩ := fed
  exact written.endsIn (ends.uncons given)

theorem Fed.current (fed : Fed before (token :: rest) last) : before.current = token := by
  obtain ⟨stream, written, given⟩ := fed
  cases written
  exact (Prod.mk.inj (Except.ok.inj given)).1.symm

/-- What stands behind the tokens consumed is one of the others or the end token. -/
theorem Fed.stops (fed : Fed before tokens last) (consumed : Consumes used before after) :
    (∃ token rest, tokens = used ++ token :: rest ∧ after.current = token) ∨ last = .ok after.current := by
  induction consumed generalizing tokens with
  | none reader =>
    obtain ⟨stream, written, given⟩ := fed
    cases written with
    | finished place => exact .inr (congrArg _ (Prod.mk.inj (Except.ok.inj given)).1)
    | failed _ => cases given
    | more _ _ => exact .inl ⟨_, _, rfl, (Prod.mk.inj (Except.ok.inj given)).1.symm⟩
  | more advanced _ ih =>
    obtain ⟨stream, written, given⟩ := fed
    obtain ⟨rfl, next, -⟩ := advance_eq_ok.mp advanced
    cases written with
    | failed _ => cases given
    | finished place =>
      obtain ⟨-, following⟩ := Prod.mk.inj (Except.ok.inj given)
      rw [← following] at next
      rcases ih ⟨_, .finished place, next⟩ with ⟨token, rest, more, -⟩ | ends
      · exact absurd more (by simp)
      · exact .inr ends
    | more _ written =>
      obtain ⟨current, following⟩ := Prod.mk.inj (Except.ok.inj given)
      rw [← following] at next
      rcases ih ⟨_, written, next⟩ with ⟨token, rest, rfl, stands⟩ | ends
      · exact .inl ⟨token, rest, by rw [current, List.cons_append], stands⟩
      · exact .inr ends

/-- Tokens in front of another one can be consumed. -/
theorem Fed.consumes (fed : Fed before (used ++ token :: rest) last) :
    ∃ after, Consumes used before after ∧ after.current = token := by
  induction used generalizing before with
  | nil => exact ⟨before, .none before, fed.current⟩
  | cons first used ih =>
    obtain ⟨stream, written, given⟩ := fed
    cases written with
    | more _ written =>
      obtain ⟨current, following⟩ := Prod.mk.inj (Except.ok.inj given)
      obtain ⟨next, behind, more⟩ : ∃ next behind, before.following.uncons = .ok (next, behind) := by
        rw [← following]
        cases used <;> cases written <;> exact ⟨_, _, rfl⟩
      let middle : Reader := ⟨next, behind, before.bound⟩
      have fed : Fed middle (used ++ token :: rest) last := ⟨_, written, following ▸ more⟩
      obtain ⟨after, consumed, stands⟩ := ih fed
      have advanced : advance before = .ok (first, middle) := advance_eq_ok.mpr ⟨current, more, rfl⟩
      exact ⟨after, .more advanced consumed, stands⟩

theorem Fed.framed (fed : Fed before tokens (.ok ending)) :
    ∃ frame : Frame, ending = endToken frame.place ∧ before = frame.reader tokens := by
  obtain ⟨stream, written, given⟩ := fed
  obtain ⟨place, rfl, rfl⟩ := written.finishes
  obtain ⟨current, following, bound⟩ := before
  refine ⟨⟨place, bound⟩, rfl, ?_⟩
  cases tokens <;> cases given <;> rfl

theorem reader_fed (frame : Frame) (genuine : ∀ token ∈ tokens, Genuine token) :
    Fed (frame.reader tokens) tokens (.ok (endToken frame.place)) :=
  ⟨streamOf frame.place tokens, streamOf_written frame.place genuine, by cases tokens <;> rfl⟩

theorem reader_sealed (frame : Frame) (tokens : List Token) : Sealed (frame.reader tokens).following := by
  have sealed (tokens : List Token) : Sealed (streamOf frame.place tokens) := by
    induction tokens with
    | nil => exact rfl
    | cons _ _ ih => exact ih
  cases tokens with
  | nil => exact rfl
  | cons _ rest => exact sealed rest

theorem reader_bound (frame : Frame) (tokens : List Token) : (frame.reader tokens).bound = frame.bound := by
  cases tokens <;> rfl

theorem reader_consumes (frame : Frame) (used rest : List Token) :
    Consumes used (frame.reader (used ++ rest)) (frame.reader rest) := by
  induction used with
  | nil => exact .none _
  | cons token used ih => exact .more advance_reader ih

end Readers

end CommonExpr.Proofs.SourceTokens

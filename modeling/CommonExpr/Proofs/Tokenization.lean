import CommonExpr.Proofs.LexemeExtent
import CommonExpr.Proofs.TokenReader

/-! A source that the lexer cuts into tokens gives the parser those tokens, one end token
behind them, and every other token is a lexeme of its kind. -/

namespace CommonExpr.Proofs.Tokenization
open TokenReader LexemeExtent

/-- The text of the token is a lexeme of its kind. -/
def Genuine (token : Token) : Prop :=
  Lexeme.read token.text.toList = .token token.kind token.text.toList.length

theorem Genuine.ordinary {token : Token} (genuine : Genuine token) : token.kind ≠ .endOfInput :=
  (read_bounds genuine).2.2

private theorem genuine_take {source : List Char} {kind : TokenKind} {length : Nat} (place : Location)
    (found : Lexeme.read source = .token kind length) : Genuine ⟨kind, String.ofList (source.take length), place⟩ := by
  have bounds := read_bounds found
  have sized : (source.take length).length = length := by
    rw [List.length_take]
    omega
  have filled : source.take length ≠ [] := by
    intro none
    rw [none, List.length_nil] at sized
    omega
  rw [Genuine, String.toList_ofList]
  have whole : Lexeme.read (source.take length ++ source.drop length) = .token kind (source.take length).length := by
    rw [List.take_append_drop, found, sized]
  have alone : Lexeme.read (source.take length ++ []) = .token kind (source.take length).length :=
    read_swap trivial filled whole
  rwa [List.append_nil] at alone

theorem scan_ok {cursor after : Cursor} {token : Token} (scanned : cursor.scan = (.ok token, after)) :
    (∃ place, token = endToken place) ∨ (Genuine token ∧ after.rest.length < cursor.rest.length) := by
  unfold Cursor.scan at scanned
  dsimp only at scanned
  split at scanned
  next =>
    cases scanned
    exact .inl ⟨_, rfl⟩
  next kind length found =>
    have bounds := read_bounds found
    cases scanned
    refine .inr ⟨genuine_take _ found, ?_⟩
    simp only [Cursor.advance, Cursor.skipSpace, List.length_drop] at bounds ⊢
    omega
  next => cases scanned
  next => cases scanned

/-- Tokens that are followed by what the lexer cannot read. -/
inductive Breaks : TokenStream → Prop where
  | failed (failure : LexicalError) : Breaks (.failed failure)
  | more {token : Token} {rest : TokenStream} (ordinary : token.kind ≠ .endOfInput) (breaks : Breaks rest) :
      Breaks (.more token rest)

/-- The stream of a source breaks, or it has come from tokens to their end. -/
theorem scanFrom_cases {steps : Nat} {cursor : Cursor} (enough : cursor.rest.length < steps) :
    Breaks (TokenStream.scanFrom steps cursor) ∨
      ∃ place tokens, TokenStream.scanFrom steps cursor = streamOf place tokens ∧ ∀ token ∈ tokens, Genuine token := by
  induction steps generalizing cursor with
  | zero => exact absurd enough (Nat.not_lt_zero _)
  | succ steps ih =>
    rw [TokenStream.scanFrom]
    rcases scanned : cursor.scan with ⟨outcome, after⟩
    cases outcome with
    | error failure => exact .inl (.failed failure)
    | ok token =>
      rcases scan_ok scanned with ⟨place, rfl⟩ | ⟨genuine, shorter⟩
      · exact .inr ⟨place, [], rfl, by simp⟩
      · simp only [if_neg genuine.ordinary]
        rcases ih (show after.rest.length < steps by omega) with breaks | ⟨place, tokens, stream, genuines⟩
        · exact .inl (.more genuine.ordinary breaks)
        · exact .inr ⟨place, token :: tokens, by rw [stream, streamOf], by simpa using ⟨genuine, genuines⟩⟩

/-- The tokens of a stream together with the one that ends it. -/
def listing : TokenStream → Except LexicalError (List Token)
  | .more token rest => (listing rest).map (token :: ·)
  | .finished ending => .ok [ending]
  | .failed failure => .error failure

theorem Breaks.listing {stream : TokenStream} (breaks : Breaks stream) : ∃ failure, listing stream = .error failure := by
  induction breaks with
  | failed failure => exact ⟨failure, rfl⟩
  | more _ _ ih =>
    obtain ⟨failure, failed⟩ := ih
    exact ⟨failure, by rw [Tokenization.listing, failed]; rfl⟩

theorem listing_streamOf (place : Location) (tokens : List Token) :
    listing (streamOf place tokens) = .ok (tokens ++ [endToken place]) := by
  induction tokens with
  | nil => rfl
  | cons token others ih => rw [streamOf, listing, ih]; rfl

/-- The lexer gives the tokens of the stream, one after the other. -/
theorem drain_eq_listing {steps : Nat} {cursor : Cursor} (enough : cursor.rest.length < steps) :
    (Lexer.drain steps ⟨cursor, []⟩).1 = listing (TokenStream.scanFrom steps cursor) := by
  induction steps generalizing cursor with
  | zero => exact absurd enough (Nat.not_lt_zero _)
  | succ steps ih =>
    rw [TokenStream.scanFrom]
    simp only [Lexer.drain, Lexer.next]
    rcases scanned : cursor.scan with ⟨outcome, after⟩
    cases outcome with
    | error failure => rfl
    | ok token =>
      by_cases ends : token.kind = .endOfInput
      · simp only [if_pos ends, listing]
      · simp only [if_neg ends, listing]
        rcases scan_ok scanned with ⟨place, rfl⟩ | ⟨_, shorter⟩
        · exact absurd rfl ends
        · rw [ih (by omega)]

theorem tokenize_eq_listing (source : String) : (Lexer.ofSource source).tokenize.1 = listing (TokenStream.ofSource source) := by
  rw [Lexer.tokenize, Lexer.ofSource, List.length_nil, Nat.zero_add]
  exact drain_eq_listing (Nat.lt_succ_self _)

theorem tokenize_ok {source : String} {all : List Token} (cut : (Lexer.ofSource source).tokenize.1 = .ok all) :
    ∃ place tokens, all = tokens ++ [endToken place] ∧ TokenStream.ofSource source = streamOf place tokens ∧
      ∀ token ∈ tokens, Genuine token := by
  rw [tokenize_eq_listing, TokenStream.ofSource] at cut
  rcases scanFrom_cases (Nat.lt_succ_self (Cursor.ofSource source).rest.length) with breaks | ⟨place, tokens, stream, genuines⟩
  · obtain ⟨failure, failed⟩ := breaks.listing
    rw [failed] at cut
    cases cut
  · rw [stream, listing_streamOf] at cut
    cases cut
    exact ⟨place, tokens, rfl, stream, genuines⟩

@[simp] theorem length_streamOf (place : Location) (tokens : List Token) : (streamOf place tokens).length = tokens.length := by
  induction tokens with
  | nil => rfl
  | cons token others ih => rw [streamOf, TokenStream.length, ih, List.length_cons]

/-- The parser starts with the tokens of the source before it and enough steps for its loops. -/
theorem parse_eq {source : String} {limits : Limits} {place : Location} {tokens : List Token}
    (short : source.length ≤ limits.maxSourceLength) (stream : TokenStream.ofSource source = streamOf place tokens) :
    ∃ frame : Frame, tokens.length < frame.bound ∧
      Expr.parse source limits = (Parser.source limits.maxDepth.toNat (frame.reader tokens)).map (·.1) := by
  refine ⟨⟨place, (tokens.length - 1) + 2⟩, by simp only; omega, ?_⟩
  rw [Expr.parse, if_neg (by omega), stream]
  cases tokens with
  | nil =>
    simp only [streamOf, TokenStream.uncons]
    split
    next read => exact (congrArg (Except.map (·.1)) read).symm
    next read => exact (congrArg (Except.map (·.1)) read).symm
  | cons token others =>
    simp only [streamOf, TokenStream.uncons, length_streamOf]
    split
    next read => exact (congrArg (Except.map (·.1)) read).symm
    next read => exact (congrArg (Except.map (·.1)) read).symm

end CommonExpr.Proofs.Tokenization

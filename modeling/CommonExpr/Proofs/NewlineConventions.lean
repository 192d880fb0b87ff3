import CommonExpr.Proofs.LexemeStops
import CommonExpr.Proofs.SourceTokens
import Mathlib.Data.List.Forall2

/-! Line feeds, carriage returns, and the two in a row break lines in the same way. A source
that has line feeds is scanned in step with the source that has another line break in the
place of each: the tokens are the same but for the line breaks within them, they stand on the
same lines and in the same columns, and where one source has no further token neither has the
other one. -/

namespace CommonExpr.Proofs.NewlineConventions
open Lexeme LexemeExtent LexemeStops TokenSequence Tokenization SourceTokens TokenReader

/-- What else may stand for a line break. -/
inductive Convention : List Char → Prop where
  | pair : Convention ['\r', '\n']
  | carriage : Convention ['\r']

/-- A text with another line break in the place of every line feed. -/
def written (newline text : List Char) : List Char :=
  text.flatMap fun c => if c = '\n' then newline else [c]

section Texts
variable {newline text : List Char} {c : Char}

@[simp] theorem written_nil : written newline [] = [] :=
  rfl

@[simp] theorem written_feed (rest : List Char) : written newline ('\n' :: rest) = newline ++ written newline rest :=
  rfl

private theorem written_other (other : c ≠ '\n') (rest : List Char) :
    written newline (c :: rest) = c :: written newline rest := by
  rw [written, List.flatMap_cons, if_neg other]
  rfl

private theorem written_append (text rest : List Char) :
    written newline (text ++ rest) = written newline text ++ written newline rest :=
  List.flatMap_append

private theorem written_of_plain (plain : '\n' ∉ text) : written newline text = text := by
  induction text with
  | nil => rfl
  | cons c rest ih =>
    obtain ⟨other, behind⟩ := not_or.mp (mt List.mem_cons.mpr plain)
    rw [written_other (Ne.symm other), ih behind]

private theorem written_split (text : List Char) (count : Nat) :
    written newline text = written newline (text.take count) ++ written newline (text.drop count) := by
  rw [← written_append, List.take_append_drop]

private theorem written_take (text : List Char) (count : Nat) :
    (written newline text).take (written newline (text.take count)).length = written newline (text.take count) := by
  rw [written_split text count, List.take_left]

private theorem written_drop (text : List Char) (count : Nat) :
    (written newline text).drop (written newline (text.take count)).length = written newline (text.drop count) := by
  rw [written_split text count, List.drop_left]

private theorem written_drop_plain {count : Nat} (plain : '\n' ∉ text.take count) (within : count ≤ text.length) :
    (written newline text).drop count = written newline (text.drop count) := by
  have behind : (written newline text).drop (written newline (text.take count)).length = _ := written_drop text count
  rwa [written_of_plain plain, List.length_take_of_le within] at behind

variable (convention : Convention newline)
include convention

theorem Convention.blank : ∀ c ∈ newline, isSpace c := by
  cases convention with
  | pair => exact List.forall_mem_cons.mpr ⟨rfl, List.forall_mem_singleton.mpr rfl⟩
  | carriage => exact List.forall_mem_singleton.mpr rfl

theorem Convention.begins : ∃ rest, newline = '\r' :: rest := by
  cases convention
  · exact ⟨_, rfl⟩
  · exact ⟨_, rfl⟩

private theorem takeWhile_written (text : List Char) :
    (written newline text).takeWhile isSpace = written newline (text.takeWhile isSpace) := by
  induction text with
  | nil => rfl
  | cons c rest ih =>
    by_cases feed : c = '\n'
    · rw [feed, written_feed, List.takeWhile_append_of_pos convention.blank, ih]
      rfl
    · rw [written_other feed, List.takeWhile_cons, List.takeWhile_cons]
      split
      · rw [ih, written_other feed]
      · rfl

end Texts

section Lexemes
variable {newline closing text : List Char} {raw : Bool} {kind : TokenKind} {form : Delimited}

/-- A lexeme of a text, measured where the text has other line breaks. -/
def rescaled (newline text : List Char) : Lexeme → Lexeme
  | .token kind length => .token kind (written newline (text.take length)).length
  | other => other

private theorem quote_ne_feed {quote : Char} (quoted : isQuote quote) : quote ≠ '\n' := by
  intro same
  rw [same] at quoted
  cases quoted

/-- A text begins with a line that has no break, and what is behind that begins with one. -/
theorem line_split (text : List Char) :
    ∃ line tail, text = line ++ tail ∧ '\n' ∉ line ∧ (tail = [] ∨ ∃ rest, tail = '\n' :: rest) := by
  induction text with
  | nil => exact ⟨[], [], rfl, by simp, .inl rfl⟩
  | cons c rest ih =>
    by_cases feed : c = '\n'
    · exact ⟨[], c :: rest, rfl, by simp, .inr ⟨rest, by rw [feed]⟩⟩
    · obtain ⟨line, tail, rfl, plain, breaks⟩ := ih
      exact ⟨c :: line, tail, rfl, by simp [Ne.symm feed, plain], breaks⟩

private theorem closingEnd?_at_head {passed : Nat} (filled : closing ≠ []) (begins : closing.isPrefixOf text) :
    closingEnd? closing raw passed text = some (passed + closing.length) := by
  cases text with
  | nil => exact absurd (List.prefix_nil.mp (List.isPrefixOf_iff_prefix.mp begins)) filled
  | cons c others => rw [closingEnd?_cons, if_pos begins]

/-- A character that closes nothing and escapes nothing is passed. -/
theorem closingEnd?_passes {passed : Nat} {c : Char} (filled : closing ≠ []) (quotes : ∀ c ∈ closing, isQuote c)
    (plain : isQuote c = false) (unescaped : c ≠ '\\') (rest : List Char) :
    closingEnd? closing raw passed (c :: rest) = closingEnd? closing raw (passed + 1) rest := by
  obtain ⟨quote, others, shape⟩ := List.exists_cons_of_ne_nil filled
  have other : quote ≠ c := by
    intro same
    have quoted := quotes quote (shape ▸ List.mem_cons_self)
    rw [same, plain] at quoted
    cases quoted
  have opens : ¬ closing.isPrefixOf (c :: rest) := by simp [shape, List.isPrefixOf, other]
  have single : stride raw c = 1 := by simp [stride, unescaped]
  rw [closingEnd?_cons, if_neg opens, single]
  rfl

variable (convention : Convention newline)
include convention

private theorem stopped_written {rest : List Char} : Stopped (newline ++ rest) := by
  obtain ⟨others, shape⟩ := convention.begins
  rw [shape]
  exact .cons (stops_of_space rfl) _

/-- Closing quotes are found in the same place. -/
theorem isPrefixOf_written (quotes : ∀ c ∈ closing, isQuote c) (text : List Char) :
    closing.isPrefixOf (written newline text) = closing.isPrefixOf text := by
  induction closing generalizing text with
  | nil => rfl
  | cons quote others ih =>
    obtain ⟨quoted, rest⟩ := List.forall_mem_cons.mp quotes
    cases text with
    | nil => rfl
    | cons c behind =>
      by_cases feed : c = '\n'
      · have first : quote ≠ '\r' := fun same => by rw [same] at quoted; cases quoted
        obtain ⟨more, shape⟩ := convention.begins
        rw [feed, written_feed, shape, List.cons_append, List.isPrefixOf, List.isPrefixOf,
          beq_eq_false_iff_ne.mpr first, beq_eq_false_iff_ne.mpr (quote_ne_feed quoted)]
        rfl
      · rw [written_other feed]
        simp only [List.isPrefixOf, ih rest]

private theorem closingEnd?_passes_break {passed : Nat} (filled : closing ≠ []) (quotes : ∀ c ∈ closing, isQuote c)
    (rest : List Char) :
    closingEnd? closing raw passed (newline ++ rest) = closingEnd? closing raw (passed + newline.length) rest := by
  have carriage (passed : Nat) (rest : List Char) :
      closingEnd? closing raw passed ('\r' :: rest) = closingEnd? closing raw (passed + 1) rest :=
    closingEnd?_passes filled quotes rfl (by decide) rest
  have feed (passed : Nat) (rest : List Char) :
      closingEnd? closing raw passed ('\n' :: rest) = closingEnd? closing raw (passed + 1) rest :=
    closingEnd?_passes filled quotes rfl (by decide) rest
  cases convention
  · exact (carriage passed _).trans (feed (passed + 1) rest)
  · exact carriage passed rest

/-- One step in search of the closing quotes. A backslash may take only half of a line break
with it; the other half is passed at once. -/
theorem closingEnd?_step {passed : Nat} {c : Char} (filled : closing ≠ []) (quotes : ∀ c ∈ closing, isQuote c)
    {others : List Char} (opens : ¬ closing.isPrefixOf (c :: others)) :
    closingEnd? closing raw passed (written newline (c :: others)) =
      closingEnd? closing raw (passed + (written newline ((c :: others).take (stride raw c))).length)
        (written newline ((c :: others).drop (stride raw c))) := by
  by_cases feed : c = '\n'
  · have single : stride raw c = 1 := by simp [stride, feed]
    rw [single, feed, written_feed, closingEnd?_passes_break convention filled quotes]
    simp
  · have still : ¬ closing.isPrefixOf (c :: written newline others) := by
      rwa [← written_other feed, isPrefixOf_written convention quotes]
    rw [written_other feed, closingEnd?_cons, if_neg still]
    have strides : stride raw c = 1 ∨ stride raw c = 2 := by
      unfold stride
      split
      · exact .inr rfl
      · exact .inl rfl
    rcases strides with single | double
    · rw [single]
      simp [written_other feed]
    · rw [double]
      cases others with
      | nil => simp [closingEnd?]
      | cons d more =>
        by_cases broken : d = '\n'
        · rw [broken]
          cases convention
          · simpa [written_other feed, Nat.add_assoc] using closingEnd?_passes filled quotes rfl (by decide) _
          · simp [written_other feed]
        · simp [written_other feed, written_other broken]

/-- The closing quotes are the same ones. -/
theorem closingEnd?_written (filled : closing ≠ []) (quotes : ∀ c ∈ closing, isQuote c) (passed start : Nat) (text : List Char) :
    closingEnd? closing raw start (written newline text) =
      (closingEnd? closing raw passed text).map fun stop => start + (written newline (text.take (stop - passed))).length := by
  induction many : text.length using Nat.strongRecOn generalizing text passed start with
  | ind count ih =>
    cases text with
    | nil => rfl
    | cons c others =>
      by_cases closes : closing.isPrefixOf (c :: others)
      · obtain ⟨behind, shape⟩ := List.isPrefixOf_iff_prefix.mp closes
        have also : closing.isPrefixOf (written newline (c :: others)) := by
          rwa [isPrefixOf_written convention quotes]
        have plain : '\n' ∉ closing := fun member => quote_ne_feed (quotes _ member) rfl
        rw [closingEnd?_at_head filled also, closingEnd?_at_head filled closes, Option.map_some, Nat.add_sub_cancel_left,
          ← shape, List.take_left, written_of_plain plain]
      · have forward := stride_pos raw c
        have shorter : ((c :: others).drop (stride raw c)).length < count := by
          rw [List.length_drop, many]
          rw [List.length_cons] at many
          omega
        rw [closingEnd?_step convention filled quotes closes, ih _ shorter (passed + stride raw c) _ _ rfl,
          closingEnd?_cons, if_neg closes]
        cases found : closingEnd? closing raw (passed + stride raw c) ((c :: others).drop (stride raw c)) with
        | none => rfl
        | some stop =>
          have later := (closingEnd?_bounds found).1
          have further : stop - passed = stride raw c + (stop - (passed + stride raw c)) := by omega
          rw [Option.map_some, Option.map_some, further, List.take_add, written_append, List.length_append, Nat.add_assoc]

/-- A literal ends at the same quotes, provided that no line feed is in what opens it. -/
theorem delimited_written {opened : Nat} (filled : closing ≠ []) (quotes : ∀ c ∈ closing, isQuote c)
    (plain : '\n' ∉ text.take opened) (within : opened ≤ text.length) :
    delimited kind form closing raw opened (written newline text) =
      rescaled newline text (delimited kind form closing raw opened text) := by
  unfold delimited
  rw [written_drop_plain plain within, closingEnd?_written convention filled quotes opened opened]
  cases found : closingEnd? closing raw opened (text.drop opened) with
  | none => rfl
  | some stop =>
    have later := (closingEnd?_bounds found).1
    have whole : text.take stop = text.take opened ++ (text.drop opened).take (stop - opened) := by
      rw [← List.take_add, Nat.add_sub_cancel' (by omega)]
    rw [Option.map_some, rescaled, whole, written_append, written_of_plain plain, List.length_append,
      List.length_take_of_le within]

private theorem stringLiteral_written {start : Nat} {quote : Char} {rest : List Char} (quoted : isQuote quote)
    (plain : '\n' ∉ text.take start) (shape : text.drop start = quote :: rest) :
    stringLiteral raw start quote (written newline text) = rescaled newline text (stringLiteral raw start quote text) := by
  have within : start < text.length := by
    have sized := congrArg List.length shape
    rw [List.length_drop, List.length_cons] at sized
    omega
  have quotes (count : Nat) : ∀ c ∈ List.replicate count quote, isQuote c := by
    intro c member
    rwa [List.eq_of_mem_replicate member]
  have plainQuotes (count : Nat) : '\n' ∉ List.replicate count quote := fun member => quote_ne_feed (quotes count _ member) rfl
  unfold stringLiteral
  dsimp only
  have same : [quote, quote, quote].isPrefixOf (written newline (text.drop start)) =
      [quote, quote, quote].isPrefixOf (text.drop start) := isPrefixOf_written convention (quotes 3) (text.drop start)
  rw [written_drop_plain plain (Nat.le_of_lt within), same]
  by_cases triple : [quote, quote, quote].isPrefixOf (text.drop start)
  · obtain ⟨behind, opens⟩ := List.isPrefixOf_iff_prefix.mp triple
    have opened : start + 3 ≤ text.length := by
      have sized := congrArg List.length opens
      simp only [List.length_append, List.length_drop, List.length_cons, List.length_nil] at sized
      omega
    rw [if_pos triple, if_pos triple]
    refine delimited_written convention (by simp) (quotes 3) ?_ opened
    rw [List.take_add, ← opens]
    exact List.not_mem_append plain (plainQuotes 3)
  · rw [if_neg triple, if_neg triple]
    refine delimited_written convention (by simp) (quotes 1) ?_ within
    rw [List.take_add, shape]
    exact List.not_mem_append plain (plainQuotes 1)

private theorem stopped_at_break {tail : List Char} (breaks : tail = [] ∨ ∃ rest, tail = '\n' :: rest) :
    Stopped tail ∧ Stopped (written newline tail) := by
  rcases breaks with rfl | ⟨rest, rfl⟩
  · exact ⟨.nil, .nil⟩
  · exact ⟨.cons (stops_of_space rfl) rest, stopped_written convention⟩

/-- What is not quoted ends before a line break. -/
theorem unquoted_written {c : Char} {others : List Char} (visible : c ≠ '\n') :
    unquoted c (written newline (c :: others)) = rescaled newline (c :: others) (unquoted c (c :: others)) := by
  obtain ⟨line, tail, rfl, plain, breaks⟩ := line_split others
  have filled : c :: line ≠ [] := by simp
  have clear : '\n' ∉ c :: line := by simp [Ne.symm visible, plain]
  obtain ⟨here, there⟩ := stopped_at_break convention breaks
  have before : unquoted c (c :: line ++ tail) = unquoted c (c :: line) := unquoted_stopped c here filled
  have after : unquoted c (c :: line ++ written newline tail) = unquoted c (c :: line) := unquoted_stopped c there filled
  rw [← List.cons_append, written_append, written_of_plain clear, after, before]
  cases found : unquoted c (c :: line) with
  | token kind length =>
    have inside := (unquoted_bounds found).2.1
    have taken : (c :: line ++ tail).take length = (c :: line).take length := List.take_append_of_le_length inside
    have none : '\n' ∉ (c :: line).take length := fun member => clear (List.mem_of_mem_take member)
    rw [rescaled, taken, written_of_plain none, List.length_take_of_le inside]
  | _ => rfl

private theorem quoted_written (text : List Char) :
    (written newline text).head?.filter isQuote = text.head?.filter isQuote := by
  cases text with
  | nil => rfl
  | cons c others =>
    by_cases feed : c = '\n'
    · obtain ⟨rest, shape⟩ := convention.begins
      rw [feed, written_feed, shape]
      rfl
    · rw [written_other feed]
      rfl

/-- The same lexeme stands at the head of both texts. -/
theorem read_written (visible : text.head? ≠ some '\n') :
    Lexeme.read (written newline text) = rescaled newline text (Lexeme.read text) := by
  cases text with
  | nil => rfl
  | cons c others =>
    have first : c ≠ '\n' := fun same => visible (congrArg some same)
    have single : '\n' ∉ (c :: others).take 1 := by simpa using Ne.symm first
    rcases read_cases c others with ⟨quoted, same⟩ | ⟨quote, more, rfl, quoted, marks, same⟩ |
      ⟨quote, more, rfl, quoted, marks, same⟩ | ⟨plain, unmarked, same⟩
    · rw [same, ← stringLiteral_written convention quoted (by simp) rfl, written_other first, read_quote _ quoted]
    · have second := quote_ne_feed quoted
      rw [same, ← stringLiteral_written convention quoted single rfl, written_other first, written_other second,
        read_raw _ marks quoted]
    · have second := quote_ne_feed quoted
      have opening : '\n' ∉ (c :: quote :: more).take 2 := by simpa using ⟨Ne.symm first, Ne.symm second⟩
      rw [same, ← delimited_written convention (by simp) (List.forall_mem_singleton.mpr quoted) opening (by simp),
        written_other first, written_other second, read_bytes _ marks quoted]
    · have also : Unmarked c (written newline others) := by
        rwa [Unmarked, quoted_written convention]
      rw [same, ← unquoted_written convention first, written_other first, read_unquoted plain also]

end Lexemes

section Cursors

/-- The same line and column. -/
structure SameSpot (location other : Location) : Prop where
  line : location.line = other.line
  column : location.column = other.column

variable {newline text : List Char} {location other : Location}

private theorem carriage_absent (plain : '\r' ∉ text) : (written ['\r'] text).head? ≠ some '\n' := by
  cases text with
  | nil => simp
  | cons c rest =>
    by_cases feed : c = '\n'
    · simp [feed]
    · rw [written_other feed]
      simpa using feed

private theorem after_other {c : Char} (visible : c ≠ '\r') (other : c ≠ '\n') (rest : List Char)
    (location : Location) :
    location.after (c :: rest) = Location.after ⟨location.line, location.column + 1, location.position + 1⟩ rest := by
  rw [Location.after]
  · exact fun _ same _ => visible same
  · exact visible
  · exact other

variable (convention : Convention newline)
include convention

/-- A line break of any convention leads to the start of the next line. -/
theorem after_newline (plain : '\r' ∉ text) (location : Location) : ∃ position,
    location.after (newline ++ written newline text) =
      Location.after ⟨location.line + 1, 1, position⟩ (written newline text) := by
  cases convention
  · exact ⟨_, rfl⟩
  · refine ⟨location.position + 1, ?_⟩
    rw [List.singleton_append, Location.after]
    intro rest shape
    exact carriage_absent plain (by rw [shape]; rfl)

private theorem after_written (plain : '\r' ∉ text) (same : SameSpot location other) :
    SameSpot (location.after text) (other.after (written newline text)) := by
  induction text generalizing location other with
  | nil => exact same
  | cons c rest ih =>
    obtain ⟨visible, behind⟩ := not_or.mp (mt List.mem_cons.mpr plain)
    by_cases feed : c = '\n'
    · obtain ⟨position, moved⟩ := after_newline convention behind other
      rw [feed, written_feed, moved]
      exact ih behind ⟨congrArg (· + 1) same.line, rfl⟩
    · rw [written_other feed, after_other (Ne.symm visible) feed, after_other (Ne.symm visible) feed]
      exact ih behind ⟨same.line, congrArg (· + 1) same.column⟩

/-- The cursors stand before the same text but for its line breaks, and on the same spot. -/
structure Kept (newline : List Char) (cursor changed : Cursor) : Prop where
  rest : changed.rest = written newline cursor.rest
  spot : SameSpot cursor.location changed.location
  plain : '\r' ∉ cursor.rest

/-- A token of the one source and that of the other: the same, but for the line breaks in its text. -/
structure SameToken (newline : List Char) (token other : Token) : Prop where
  kind : token.kind = other.kind
  text : other.text = String.ofList (written newline token.text.toList)
  spot : SameSpot token.location other.location

structure SameFailure (failure other : LexicalError) : Prop where
  cause : failure.cause = other.cause
  spot : SameSpot failure.location other.location

/-- Both a token, or both a failure. -/
inductive SameOutcome (newline : List Char) : Except LexicalError Token → Except LexicalError Token → Prop where
  | token {token other : Token} (same : SameToken newline token other) : SameOutcome newline (.ok token) (.ok other)
  | failure {failure other : LexicalError} (same : SameFailure failure other) :
      SameOutcome newline (.error failure) (.error other)

variable {cursor changed : Cursor}

theorem Kept.advance (kept : Kept newline cursor changed) (count : Nat) :
    Kept newline (cursor.advance count) (changed.advance (written newline (cursor.rest.take count)).length) where
  rest := by rw [Cursor.advance, kept.rest, written_drop]; rfl
  spot := by
    have passed : '\r' ∉ cursor.rest.take count := fun member => kept.plain (List.mem_of_mem_take member)
    rw [Cursor.advance, Cursor.advance, kept.rest, written_take]
    exact after_written convention passed kept.spot
  plain := fun member => kept.plain (List.mem_of_mem_drop member)

theorem Kept.skipSpace (kept : Kept newline cursor changed) : Kept newline cursor.skipSpace changed.skipSpace := by
  have run : cursor.rest.take (cursor.rest.takeWhile isSpace).length = cursor.rest.takeWhile isSpace :=
    List.prefix_iff_eq_take.mp (List.takeWhile_prefix _) |>.symm
  have advanced := kept.advance convention (cursor.rest.takeWhile isSpace).length
  rw [run] at advanced
  rw [Cursor.skipSpace, Cursor.skipSpace, kept.rest, takeWhile_written convention]
  exact advanced

/-- A scan on the one source does what the scan on the other one does. -/
theorem Kept.scan (kept : Kept newline cursor changed) :
    SameOutcome newline cursor.scan.1 changed.scan.1 ∧ Kept newline cursor.scan.2 changed.scan.2 := by
  have skipped := kept.skipSpace convention
  have visible : cursor.skipSpace.rest.head? ≠ some '\n' := fun feed => by
    have plain := skipSpace_trimmed cursor '\n' feed
    cases plain
  have both := read_written convention visible
  rw [← skipped.rest] at both
  unfold Cursor.scan
  dsimp only
  rw [both]
  cases Lexeme.read cursor.skipSpace.rest with
  | nothing => exact ⟨.token ⟨rfl, rfl, skipped.spot⟩, skipped⟩
  | token kind length =>
    refine ⟨.token ⟨rfl, ?_, skipped.spot⟩, skipped.advance convention length⟩
    rw [skipped.rest, written_take, String.toList_ofList]
  | unterminated form =>
    have ended := skipped.advance convention cursor.skipSpace.rest.length
    rw [List.take_length, ← skipped.rest] at ended
    exact ⟨.failure ⟨rfl, skipped.spot⟩, ended⟩
  | unexpected c => exact ⟨.failure ⟨rfl, skipped.spot⟩, skipped⟩

end Cursors

section Streams
variable {newline : List Char} {cursor changed : Cursor} {stream behind : TokenStream} {tokens others : List Token}
  {last ending : Except LexicalError Token}

/-- The same tokens and then the same end or failure, but for line breaks within the tokens. -/
inductive SameStreams (newline : List Char) : TokenStream → TokenStream → Prop where
  | finished {token other : Token} (same : SameToken newline token other) :
      SameStreams newline (.finished token) (.finished other)
  | failed {failure other : LexicalError} (same : SameFailure failure other) :
      SameStreams newline (.failed failure) (.failed other)
  | more {token other : Token} {stream behind : TokenStream} (same : SameToken newline token other)
      (rest : SameStreams newline stream behind) : SameStreams newline (.more token stream) (.more other behind)

private theorem scanFrom_same (convention : Convention newline) {steps more : Nat} (kept : Kept newline cursor changed)
    (enough : cursor.rest.length < steps) (also : changed.rest.length < more) :
    SameStreams newline (TokenStream.scanFrom steps cursor) (TokenStream.scanFrom more changed) := by
  induction steps generalizing cursor changed more with
  | zero => exact absurd enough (Nat.not_lt_zero _)
  | succ steps ih =>
    cases more with
    | zero => exact absurd also (Nat.not_lt_zero _)
    | succ more =>
      obtain ⟨same, next⟩ := kept.scan convention
      rw [TokenStream.scanFrom, TokenStream.scanFrom]
      rcases one : cursor.scan with ⟨outcome, after⟩
      rcases two : changed.scan with ⟨other, behind⟩
      rw [one, two] at same next
      cases same with
      | failure same => exact .failed same
      | @token token other same =>
        by_cases ends : token.kind = .endOfInput
        · simp only [if_pos ends, if_pos (same.kind ▸ ends)]
          exact .finished same
        · have further : other.kind ≠ .endOfInput := same.kind ▸ ends
          simp only [if_neg ends, if_neg further]
          rcases scan_ok one with ⟨place, rfl⟩ | ⟨-, shorter⟩
          · exact absurd rfl ends
          rcases scan_ok two with ⟨place, rfl⟩ | ⟨-, shorterToo⟩
          · exact absurd rfl further
          exact .more same (ih next (by omega) (by omega))

theorem SameStreams.written (same : SameStreams newline stream behind) (first : Written stream tokens last)
    (second : Written behind others ending) :
    List.Forall₂ (SameToken newline) tokens others ∧ SameOutcome newline last ending := by
  induction same generalizing tokens others with
  | finished same =>
    cases first
    cases second
    exact ⟨.nil, .token same⟩
  | failed same =>
    cases first
    cases second
    exact ⟨.nil, .failure same⟩
  | more same _ ih =>
    cases first with
    | more _ first =>
      cases second with
      | more _ second =>
        obtain ⟨tokens, last⟩ := ih first second
        exact ⟨.cons same tokens, last⟩

end Streams

/-- Two sources, one of them with line feeds and no carriage return, the other one with another
convention. Each gives a number of tokens and then the end token or a failure, as it is
tokenized. The numbers are the same; the tokens and the ends are the same, on the same
lines and in the same columns, but for the line breaks in the texts of tokens. -/
theorem newline_conventions_are_equivalent {newline : List Char} (convention : Convention newline) {source : String}
    (plain : '\r' ∉ source.toList) :
    let changed := String.ofList (written newline source.toList)
    ∃ tokens others last ending,
      Listed (Lexer.ofSource source).nth tokens last ∧ Listed (Lexer.ofSource changed).nth others ending ∧
      (Lexer.ofSource source).tokenize.1 = last.map (fun token => tokens ++ [token]) ∧
      (Lexer.ofSource changed).tokenize.1 = ending.map (fun token => others ++ [token]) ∧
      List.Forall₂ (SameToken newline) tokens others ∧ SameOutcome newline last ending := by
  intro changed
  have kept : Kept newline (Cursor.ofSource source) (Cursor.ofSource changed) :=
    ⟨String.toList_ofList, ⟨rfl, rfl⟩, plain⟩
  obtain ⟨tokens, last, first, listed⟩ := scanFrom_written (Nat.lt_succ_self (Cursor.ofSource source).rest.length)
  obtain ⟨others, ending, second, also⟩ := scanFrom_written (Nat.lt_succ_self (Cursor.ofSource changed).rest.length)
  have streams := scanFrom_same convention kept (Nat.lt_succ_self _) (Nat.lt_succ_self _)
  refine ⟨tokens, others, last, ending, listed, also, ?_, ?_, streams.written first second⟩
  · rw [tokenize_eq_listing]
    exact first.listing
  · rw [tokenize_eq_listing]
    exact second.listing

/-- A line break behind a backslash, inside of a token, and one before the literal that has no end. -/
theorem unterminated_behind_escaped_break :
    let source := "x\n'''a\\\nb'''\n\""
    '\r' ∉ source.toList ∧ ∃ failure other, (Lexer.ofSource source).tokenize.1 = .error failure ∧
      (Lexer.ofSource (String.ofList (written ['\r', '\n'] source.toList))).tokenize.1 = .error other ∧
      failure.location.line = 4 ∧ SameFailure failure other := by
  intro source
  have plain : '\r' ∉ source.toList := by decide
  have fails : (Lexer.ofSource "x\n'''a\\\nb'''\n\"").tokenize.1 = .error ⟨.unterminated .string, ⟨4, 1, 13⟩⟩ := by rfl
  obtain ⟨_, _, _, _, _, _, one, two, _, same⟩ := newline_conventions_are_equivalent .pair plain
  cases same with
  | token same => cases fails.symm.trans one
  | @failure failure other same =>
    cases fails.symm.trans one
    exact ⟨plain, _, other, fails, two, rfl, same⟩

end CommonExpr.Proofs.NewlineConventions

import CommonExpr.Proofs.LexemeEnding
import CommonExpr.Proofs.TokenSequence

/-! Tokens lie where they say. They cover the source from left to right with nothing but
blanks between them, and the line and the column of each are those of its position. The
same is true of the place at which the lexer fails. -/

namespace CommonExpr.Proofs.TokenPlaces
open Lexeme (isSpace)
open LexemeExtent LexemeEnding TokenSequence

section Lines

/-- How many line breaks a text has: a line feed is one, and so is a carriage return that
no line feed follows. -/
def lineBreaks : List Char → Nat
  | [] => 0
  | c :: rest => (if c = '\n' ∨ (c = '\r' ∧ rest.head? ≠ some '\n') then 1 else 0) + lineBreaks rest

/-- The text behind the last line break. -/
def lastLine (text : List Char) : List Char :=
  (text.reverse.takeWhile fun c => c ≠ '\r' ∧ c ≠ '\n').reverse

/-- The place that is reached behind a text. -/
def behind (passed : List Char) : Location :=
  ⟨1 + lineBreaks passed, 1 + (lastLine passed).length, passed.length⟩

/-- The cut between two texts goes through no line break. -/
def Unsplit (passed text : List Char) : Prop :=
  passed.getLast? = some '\r' → text.head? ≠ some '\n'

variable {passed text : List Char} {c : Char}

private theorem lineBreaks_append (unsplit : Unsplit passed text) :
    lineBreaks (passed ++ text) = lineBreaks passed + lineBreaks text := by
  induction passed with
  | nil => simp [lineBreaks]
  | cons c others ih =>
    cases others with
    | nil =>
      have last : c = '\r' → text.head? ≠ some '\n' := fun same => unsplit (by rw [same]; rfl)
      by_cases carriage : c = '\r'
      · simp [lineBreaks, carriage, last carriage]
      · simp [lineBreaks, carriage]
    | cons d more =>
      rw [List.cons_append, lineBreaks, ih unsplit, ← Nat.add_assoc]
      rfl

private theorem lastLine_break (text : List Char) (breaks : c = '\r' ∨ c = '\n') : lastLine (text ++ [c]) = [] := by
  rcases breaks with rfl | rfl <;> simp [lastLine]

private theorem lastLine_other (text : List Char) (plain : ¬(c = '\r' ∨ c = '\n')) :
    lastLine (text ++ [c]) = lastLine text ++ [c] := by
  simp only [lastLine, List.reverse_append, List.reverse_singleton, List.singleton_append]
  rw [List.takeWhile_cons_of_pos (by simpa using plain), List.reverse_cons]

private theorem behind_break (breaks : c = '\r' ∨ c = '\n') (unsplit : Unsplit passed [c]) :
    behind (passed ++ [c]) = ⟨(behind passed).line + 1, 1, (behind passed).position + 1⟩ := by
  have one : lineBreaks [c] = 1 := by rcases breaks with rfl | rfl <;> rfl
  rw [behind, lineBreaks_append unsplit, one, lastLine_break passed breaks, List.length_append]
  rfl

private theorem behind_pair (passed : List Char) :
    behind (passed ++ ['\r', '\n']) = ⟨(behind passed).line + 1, 1, (behind passed).position + 2⟩ := by
  have ended : lastLine (passed ++ ['\r', '\n']) = [] := by
    rw [show passed ++ ['\r', '\n'] = (passed ++ ['\r']) ++ ['\n'] by simp, lastLine_break _ (.inr rfl)]
  rw [behind, lineBreaks_append (fun _ => by simp), ended, List.length_append]
  rfl

private theorem behind_other (plain : ¬(c = '\r' ∨ c = '\n')) :
    behind (passed ++ [c]) = ⟨(behind passed).line, (behind passed).column + 1, (behind passed).position + 1⟩ := by
  have unsplit : Unsplit passed [c] := fun _ => by simpa using fun same => plain (.inr same)
  have none : lineBreaks [c] = 0 := by simpa [lineBreaks, or_comm] using plain
  rw [behind, lineBreaks_append unsplit, none, lastLine_other passed plain, List.length_append, List.length_append]
  rfl

private theorem unsplit_snoc (last : c = '\r' → text.head? ≠ some '\n') : Unsplit (passed ++ [c]) text := by
  intro ends
  exact last (by simpa using ends)

/-- A location moves over a text as the places behind what was passed do. -/
theorem after_behind (unsplit : Unsplit passed text) : (behind passed).after text = behind (passed ++ text) := by
  generalize here : behind passed = location
  -- The cases are those of `after`, where a carriage return and its line feed are one step.
  fun_induction Location.after location text generalizing passed with
  | case1 location => rw [List.append_nil, here]
  | case2 location rest ih =>
    have moved : Unsplit (passed ++ ['\r', '\n']) rest := by simp [Unsplit]
    rw [ih moved (here ▸ behind_pair passed), List.append_assoc]
    rfl
  | case3 location rest single ih =>
    have moved : Unsplit (passed ++ ['\r']) rest := unsplit_snoc fun _ follows => by
      obtain ⟨others, rfl⟩ := List.head?_eq_some_iff.mp follows
      exact single others rfl
    rw [ih moved (here ▸ behind_break (.inl rfl) fun _ => by simp), List.append_assoc]
    rfl
  | case4 location rest ih =>
    have moved : Unsplit (passed ++ ['\n']) rest := unsplit_snoc (by simp)
    rw [ih moved (here ▸ behind_break (.inr rfl) unsplit), List.append_assoc]
    rfl
  | case5 location c rest _ carriage feed ih =>
    have plain : ¬(c = '\r' ∨ c = '\n') := fun breaks => breaks.elim carriage feed
    have moved : Unsplit (passed ++ [c]) rest := unsplit_snoc fun same => absurd (.inl same) plain
    rw [ih moved (here ▸ behind_other plain), List.append_assoc]
    rfl

example : Location.start.after "a\r\n\rbc".toList = ⟨3, 3, 6⟩ := by decide

end Lines

section Cursors

/-- The cursor is in the text behind what was passed, and in no line break. -/
structure Stands (text passed : List Char) (cursor : Cursor) : Prop where
  whole : text = passed ++ cursor.rest
  place : cursor.location = behind passed
  unsplit : Unsplit passed cursor.rest

variable {text passed : List Char} {cursor : Cursor}

theorem Stands.advance (stands : Stands text passed cursor) {count : Nat}
    (unsplit : Unsplit (passed ++ cursor.rest.take count) (cursor.rest.drop count)) :
    Stands text (passed ++ cursor.rest.take count) (cursor.advance count) where
  whole := by rw [stands.whole, Cursor.advance, List.append_assoc, List.take_append_drop]
  place := by
    have before : Unsplit passed (cursor.rest.take count) := fun ends => by
      rw [List.head?_take]
      split
      · simp
      · exact stands.unsplit ends
    rw [Cursor.advance, stands.place, after_behind before]
  unsplit := unsplit

/-- Blanks are skipped to their end, so that a line feed stays with its carriage return. -/
theorem Stands.skipSpace (stands : Stands text passed cursor) :
    Stands text (passed ++ cursor.rest.takeWhile isSpace) cursor.skipSpace := by
  have run : cursor.rest.take (cursor.rest.takeWhile isSpace).length = cursor.rest.takeWhile isSpace :=
    List.prefix_iff_eq_take.mp (List.takeWhile_prefix _) |>.symm
  rw [← run]
  refine stands.advance fun _ feeds => ?_
  have plain := skipSpace_trimmed cursor '\n' feeds
  cases plain

theorem Stands.token (stands : Stands text passed cursor) {kind : TokenKind} {length : Nat}
    (found : Lexeme.read cursor.rest = .token kind length) :
    Stands text (passed ++ cursor.rest.take length) (cursor.advance length) := by
  obtain ⟨filled, c, last, visible⟩ := read_visibleEnd found
  refine stands.advance fun ends _ => ?_
  rw [List.getLast?_append, List.getLast?_take, if_neg (by omega), last, Option.some_or, Option.some_or] at ends
  rw [Option.some.inj ends] at visible
  cases visible

end Cursors

section Tiles

/-- The characters of a text from one position up to another one. -/
def between (text : List Char) (first last : Nat) : List Char :=
  (text.take last).drop first

/-- A location that is true of the text: its line and column are those of its position.
Only blanks come between it and the position that was reached before it. -/
structure Placed (text : List Char) (reached : Nat) (location : Location) : Prop where
  place : location = behind (text.take location.position)
  forward : reached ≤ location.position
  blank : ∀ c ∈ between text reached location.position, isSpace c

/-- A token that is what the text has at its location. -/
structure Tile (text : List Char) (reached : Nat) (token : Token) : Prop extends Placed text reached token.location where
  slice : token.text.toList = between text token.location.position (token.location.position + token.text.length)
  within : token.location.position + token.text.length ≤ text.length
  filled : token.kind ≠ .endOfInput → 0 < token.text.length
  ending : token.kind = .endOfInput → token.text = "" ∧ token.location.position = text.length

/-- What is wrong with a text that begins with something visible, but with no token. -/
def Offends (text : List Char) (cause : LexicalCause) : Prop :=
  (∃ c, text.head? = some c ∧ isSpace c = false) ∧
    Lexeme.read text = match cause with
      | .unterminated form => .unterminated form
      | .unexpected c => .unexpected c

variable {text passed : List Char} {cursor after : Cursor} {token : Token} {failure : LexicalError}

theorem Stands.position (stands : Stands text passed cursor) : cursor.location.position = passed.length := by
  rw [stands.place]
  rfl

theorem Stands.taken (stands : Stands text passed cursor) : text.take passed.length = passed := by
  rw [stands.whole, List.take_left]

theorem Stands.placed (stands : Stands text passed cursor) :
    Placed text passed.length cursor.skipSpace.location := by
  have skipped := stands.skipSpace
  refine ⟨?_, ?_, fun c inside => ?_⟩
  · rw [skipped.position, skipped.taken, skipped.place]
  · rw [skipped.position, List.length_append]
    omega
  · rw [skipped.position, between, skipped.taken, List.drop_left] at inside
    exact List.all_eq_true.mp List.all_takeWhile _ inside

private theorem between_behind (passed rest : List Char) (count : Nat) :
    between (passed ++ rest) passed.length (passed.length + count) = rest.take count := by
  rw [between, List.take_length_add_append, List.drop_left]

theorem Stands.tile_end (stands : Stands text passed cursor) {reached : Nat} (placed : Placed text reached cursor.location)
    (left : cursor.rest = []) : Tile text reached ⟨.endOfInput, "", cursor.location⟩ := by
  have all : cursor.location.position = text.length := by
    rw [stands.position, stands.whole, left, List.append_nil]
  exact ⟨placed, by simp [between], Nat.le_of_eq all, fun ordinary => absurd rfl ordinary, fun _ => ⟨rfl, all⟩⟩

private theorem length_taken {source : List Char} {kind : TokenKind} {length : Nat}
    (found : Lexeme.read source = .token kind length) :
    (String.ofList (source.take length)).length = length := by
  rw [String.length_ofList, List.length_take, Nat.min_eq_left (read_bounds found).2.1]

theorem Stands.tile_token (stands : Stands text passed cursor) {reached : Nat} (placed : Placed text reached cursor.location)
    {kind : TokenKind} {length : Nat} (found : Lexeme.read cursor.rest = .token kind length) :
    Tile text reached ⟨kind, String.ofList (cursor.rest.take length), cursor.location⟩ := by
  have bounds := read_bounds found
  refine ⟨placed, ?_, ?_, fun _ => ?_, fun ends => absurd ends bounds.2.2⟩
  · rw [String.toList_ofList, length_taken found, stands.position, stands.whole, between_behind]
  · rw [length_taken found, stands.position, stands.whole, List.length_append]
    exact Nat.add_le_add_left bounds.2.1 _
  · rw [length_taken found]
    exact bounds.1

/-- A scan that gives a token gives a tile of the text, and ends where that does. -/
theorem Stands.tile (stands : Stands text passed cursor) (scanned : cursor.scan = (.ok token, after)) :
    Tile text passed.length token ∧
      ∃ covered, Stands text covered after ∧ covered.length = token.location.position + token.text.length := by
  have skipped := stands.skipSpace
  have result := scan_result cursor
  rw [scanned] at result
  cases result with
  | ended left => exact ⟨skipped.tile_end stands.placed left, _, skipped, skipped.position.symm⟩
  | @token kind length found =>
    refine ⟨skipped.tile_token stands.placed found, _, skipped.token found, ?_⟩
    rw [List.length_append, skipped.position, length_taken found, List.length_take,
      Nat.min_eq_left (read_bounds found).2.1]

private theorem read_head {source : List Char} (trimmed : Trimmed source) (filled : Lexeme.read source ≠ .nothing) :
    ∃ c, source.head? = some c ∧ isSpace c = false := by
  cases source with
  | nil => exact absurd rfl filled
  | cons c others => exact ⟨c, rfl, trimmed c rfl⟩

/-- A scan that fails blames the text behind the blanks. -/
theorem Stands.offence (stands : Stands text passed cursor) (scanned : cursor.scan = (.error failure, after)) :
    Placed text passed.length failure.location ∧ Offends (text.drop failure.location.position) failure.cause := by
  have skipped := stands.skipSpace
  have left : text.drop cursor.skipSpace.location.position = cursor.skipSpace.rest := by
    rw [skipped.position, skipped.whole, List.drop_left]
  have visible := read_head (skipSpace_trimmed cursor)
  have result := scan_result cursor
  rw [scanned] at result
  cases result with
  | unterminated found =>
    rw [left]
    exact ⟨stands.placed, visible (by rw [found]; simp), found⟩
  | unexpected found =>
    rw [left]
    exact ⟨stands.placed, visible (by rw [found]; simp), found⟩

end Tiles


section Sequence

/-- Where the token before ends in a sequence; the first one has the start of the source before it. -/
def reach (tokens : Nat → Except LexicalError Token) : Nat → Nat
  | 0 => 0
  | index + 1 =>
    match tokens index with
    | .ok token => token.location.position + token.text.length
    | .error failure => failure.location.position

variable {source : String} {cursor : Cursor} {token : Token} {failure : LexicalError} {count index later : Nat}

private theorem reach_succ {tokens : Nat → Except LexicalError Token} (given : tokens index = .ok token) :
    reach tokens (index + 1) = token.location.position + token.text.length := by
  simp only [reach, given]

/-- Behind so many tokens the lexer stands where the last one of them ends. -/
theorem past_stands {after : Lexer} (arrived : (Lexer.ofSource source).past count = .ok after) :
    after.buffer = [] ∧
      ∃ passed, Stands source.toList passed after.cursor ∧ passed.length = reach (Lexer.ofSource source).nth count := by
  induction count generalizing after with
  | zero =>
    cases arrived
    exact ⟨rfl, [], ⟨rfl, rfl, fun ends => nomatch ends⟩, rfl⟩
  | succ count ih =>
    obtain ⟨before, token, arrived, given⟩ := past_succ_ok arrived
    -- Without lookahead every token comes from a scan, so one more tile is one more step.
    obtain ⟨unbuffered, passed, stands, -⟩ := ih arrived
    have first := nth_of_past arrived
    rw [given] at first
    rw [Lexer.next, unbuffered] at given
    obtain ⟨scanned, rfl⟩ := Prod.mk.inj given
    obtain ⟨-, covered, ends, extent⟩ := stands.tile (Prod.ext scanned rfl)
    exact ⟨rfl, covered, ends, by rw [reach_succ first, extent]⟩

/-- Where the lexer scans for a token or failure, so many tokens being behind it. -/
theorem nth_scanned {before : Lexer} (arrived : (Lexer.ofSource source).past index = .ok before) :
    (Lexer.ofSource source).nth index = before.cursor.scan.1 := by
  rw [nth_of_past arrived, Lexer.next, (past_stands arrived).1]

theorem nth_tile (given : (Lexer.ofSource source).nth index = .ok token) :
    Tile source.toList (reach (Lexer.ofSource source).nth index) token := by
  obtain ⟨before, arrived, -⟩ := past_of_nth given
  obtain ⟨-, passed, stands, extent⟩ := past_stands arrived
  rw [nth_scanned arrived] at given
  exact extent ▸ (stands.tile (Prod.ext given rfl)).1

theorem nth_offence (failed : (Lexer.ofSource source).nth index = .error failure)
    (first : ∀ earlier, earlier < index → ∃ token, (Lexer.ofSource source).nth earlier = .ok token) :
    Placed source.toList (reach (Lexer.ofSource source).nth index) failure.location ∧
      Offends (source.toList.drop failure.location.position) failure.cause := by
  obtain ⟨before, arrived⟩ := past_of_tokens first
  obtain ⟨-, passed, stands, extent⟩ := past_stands arrived
  rw [nth_scanned arrived] at failed
  exact extent ▸ stands.offence (Prod.ext failed rfl)

/-- A token ends before a later one starts, or where that starts. -/
theorem nth_apart (given : (Lexer.ofSource source).nth index = .ok token) (order : index < later) {other : Token}
    (following : (Lexer.ofSource source).nth later = .ok other) :
    token.location.position + token.text.length ≤ other.location.position := by
  induction order generalizing other with
  | refl => exact reach_succ given ▸ (nth_tile following).forward
  | @step later _ ih =>
    obtain ⟨middle, there⟩ := nth_before following (Nat.le_succ later)
    calc token.location.position + token.text.length
        ≤ middle.location.position := ih there
      _ ≤ middle.location.position + middle.text.length := Nat.le_add_right ..
      _ = reach (Lexer.ofSource source).nth (later + 1) := (reach_succ there).symm
      _ ≤ other.location.position := (nth_tile following).forward

/-- As long as the end is not reached each token takes a character. -/
theorem reach_grows (ordinary : ∀ index, index < count →
      ∃ token, (Lexer.ofSource source).nth index = .ok token ∧ token.kind ≠ .endOfInput) :
    count ≤ reach (Lexer.ofSource source).nth count := by
  induction count with
  | zero => exact Nat.zero_le _
  | succ count ih =>
    obtain ⟨token, given, kind⟩ := ordinary count (Nat.lt_succ_self count)
    have tile := nth_tile given
    have before := ih fun index inside => ordinary index (Nat.lt_succ_of_lt inside)
    have forward := tile.forward
    have filled := tile.filled kind
    rw [reach_succ given]
    omega

/-- A source has no more tokens than characters. -/
theorem sequence_ends (source : String) : ∃ index, index ≤ source.toList.length ∧
    ((∃ ending, (Lexer.ofSource source).nth index = .ok ending ∧ ending.kind = .endOfInput) ∨
      ∃ failure, (Lexer.ofSource source).nth index = .error failure) := by
  apply Classical.byContradiction
  intro endless
  -- One token more than there are characters would reach beyond the end.
  have ordinary (index : Nat) (inside : index < source.toList.length + 1) :
      ∃ token, (Lexer.ofSource source).nth index = .ok token ∧ token.kind ≠ .endOfInput := by
    cases given : (Lexer.ofSource source).nth index with
    | error failure => exact absurd ⟨index, Nat.le_of_lt_succ inside, .inr ⟨failure, given⟩⟩ endless
    | ok token =>
      exact ⟨token, rfl, fun ends => endless ⟨index, Nat.le_of_lt_succ inside, .inl ⟨token, given, ends⟩⟩⟩
  obtain ⟨last, given, -⟩ := ordinary source.toList.length (Nat.lt_succ_self _)
  have grows := reach_grows ordinary
  rw [reach_succ given] at grows
  have within := (nth_tile given).within
  omega

end Sequence

/-- The tokens of a source tile it up to the end token or the first failure: each is the
text at its position, on the line and in the column of that position, with only blanks
before it, and behind the one before. The first failure is placed in the same way and
where it is there is a visible character but no token. -/
theorem tokens_tile_source (source : String) :
    let text := source.toList
    let tokens := (Lexer.ofSource source).nth
    (∀ index token, tokens index = .ok token → Tile text (reach tokens index) token) ∧
    (∀ index later token other, index < later → tokens index = .ok token → tokens later = .ok other →
      token.kind ≠ .endOfInput → token.location.position < other.location.position) ∧
    (∀ index failure, tokens index = .error failure → (∀ earlier, earlier < index → ∃ token, tokens earlier = .ok token) →
      Placed text (reach tokens index) failure.location ∧ Offends (text.drop failure.location.position) failure.cause) ∧
    ∃ index, index ≤ text.length ∧
      ((∃ ending, tokens index = .ok ending ∧ ending.kind = .endOfInput) ∨ ∃ failure, tokens index = .error failure) := by
  refine ⟨fun index token given => nth_tile given, fun index later token other order given following kind => ?_,
    fun index failure failed first => nth_offence failed first, sequence_ends source⟩
  have apart := nth_apart given order following
  have filled := (nth_tile given).filled kind
  omega

end CommonExpr.Proofs.TokenPlaces

import CommonExpr.Proofs.LexemeStops
import CommonExpr.Proofs.Spelling
import CommonExpr.Proofs.TokenSequence

/-! A text that is cut into words: each begins where the blanks before it end, and it is read
as it is whatever follows it in the text. Such texts are the sources that the lexer makes
those words of, and they can be put one behind the other. -/

namespace CommonExpr.Proofs.CutTexts
open Lexeme LexemeExtent LexemeStops Tokenization TokenReader TokenSequence Spelling

/-- The words of a text, with blanks before each of them and behind the last one. -/
inductive Cut : List Word → List Char → Prop where
  | blank {text : List Char} (blank : ∀ c ∈ text, isSpace c) : Cut [] text
  | word {gap rest : List Char} {word : Word} {words : List Word} (blank : ∀ c ∈ gap, isSpace c)
      (found : Lexeme.read (word.text.toList ++ rest) = .token word.kind word.text.toList.length)
      (others : Cut words rest) : Cut (word :: words) (gap ++ (word.text.toList ++ rest))

section Building
variable {words others : List Word} {word : Word} {text tail gap : List Char}

theorem Cut.indent (cut : Cut words text) (blank : ∀ c ∈ gap, isSpace c) : Cut words (gap ++ text) := by
  have both {more : List Char} (also : ∀ c ∈ more, isSpace c) : ∀ c ∈ gap ++ more, isSpace c :=
    List.forall_mem_append.mpr ⟨blank, also⟩
  cases cut with
  | blank also => exact .blank (both also)
  | word also found others =>
    rw [← List.append_assoc]
    exact .word (both also) found others

theorem Cut.append (cut : Cut words text) (stopped : Stopped tail) (more : Cut others tail) :
    Cut (words ++ others) (text ++ tail) := by
  induction cut with
  | blank blank => exact more.indent blank
  | word blank found _ ih =>
    rw [List.append_assoc, List.append_assoc]
    refine .word blank ?_ ih
    rw [← List.append_assoc]
    exact read_append stopped found

theorem Cut.single (lexeme : word.IsLexeme) : Cut [word] word.text.toList := by
  have alone : Cut [word] ([] ++ (word.text.toList ++ [])) := by
    refine .word nofun ?_ (.blank nofun)
    rwa [List.append_nil]
  rwa [List.append_nil] at alone

/-- A word before a text that it does not run into. -/
theorem Cut.cons (lexeme : word.IsLexeme) (stopped : Stopped tail) (more : Cut others tail) :
    Cut (word :: others) (word.text.toList ++ tail) :=
  (Cut.single lexeme).append stopped more

theorem Cut.length_le (cut : Cut words text) : words.length ≤ text.length := by
  induction cut with
  | blank _ => exact Nat.zero_le _
  | word _ found _ ih =>
    have filled := (read_bounds found).1
    simp only [List.length_cons, List.length_append]
    omega

end Building

section Scanning
variable {words : List Word} {text gap rest : List Char} {kind : TokenKind} {length steps : Nat} {cursor : Cursor}

theorem trimmed_of_read {source : List Char} (found : Lexeme.read source = .token kind length) : Trimmed source := by
  intro c first
  obtain ⟨others, rfl⟩ := List.head?_eq_some_iff.mp first
  rw [Bool.eq_false_iff]
  intro space
  rcases isSpace_cases space with rfl | rfl | rfl | rfl
  all_goals
    rw [read_unquoted rfl (.inr ⟨rfl, rfl⟩)] at found
    cases found

private theorem skipSpace_gap (blank : ∀ c ∈ gap, isSpace c) (trimmed : Trimmed rest) (place : Location) :
    Cursor.skipSpace ⟨gap ++ rest, place⟩ = ⟨rest, place.after gap⟩ := by
  have run : (gap ++ rest).takeWhile isSpace = gap := by
    rw [List.takeWhile_append_of_pos blank]
    cases rest with
    | nil => simp
    | cons c others => rw [List.takeWhile_cons_of_neg (by simp [trimmed c rfl]), List.append_nil]
  rw [Cursor.skipSpace, run, Cursor.advance, List.drop_left, List.take_left]

/-- A word behind blanks is scanned as it is. -/
theorem scan_word {word : Word} (blank : ∀ c ∈ gap, isSpace c)
    (found : Lexeme.read (word.text.toList ++ rest) = .token word.kind word.text.toList.length) (place : Location) :
    ∃ token after, Cursor.scan ⟨gap ++ (word.text.toList ++ rest), place⟩ = (.ok token, ⟨rest, after⟩) ∧
      inscription token = word := by
  refine ⟨⟨word.kind, word.text, place.after gap⟩, (place.after gap).after word.text.toList, ?_, rfl⟩
  rw [Cursor.scan, skipSpace_gap blank (trimmed_of_read found)]
  simp only [found, Cursor.advance, List.take_left, List.drop_left, String.ofList_toList]

private theorem scan_blank (blank : ∀ c ∈ text, isSpace c) (place : Location) :
    ∃ ending after, Cursor.scan ⟨text, place⟩ = (.ok (endToken ending), after) := by
  have trimmed : Trimmed [] := nofun
  have skipped := skipSpace_gap blank trimmed place
  rw [List.append_nil] at skipped
  exact ⟨place.after text, ⟨[], place.after text⟩, by rw [Cursor.scan, skipped]; rfl⟩

theorem Cut.scanFrom (cut : Cut words text) (enough : text.length < steps) (place : Location) :
    ∃ ending tokens, TokenStream.scanFrom steps ⟨text, place⟩ = streamOf ending tokens ∧ tokens.map inscription = words := by
  induction cut generalizing steps place with
  | @blank text blank =>
    obtain ⟨ending, after, scanned⟩ := scan_blank blank place
    cases steps with
    | zero => exact absurd enough (Nat.not_lt_zero _)
    | succ steps => exact ⟨ending, [], by rw [TokenStream.scanFrom, scanned]; rfl, rfl⟩
  | @word gap rest word words blank found _ ih =>
    cases steps with
    | zero => exact absurd enough (Nat.not_lt_zero _)
    | succ steps =>
      obtain ⟨token, after, scanned, same⟩ := scan_word blank found place
      have kind : token.kind = word.kind := congrArg Word.kind same
      have bounds := read_bounds found
      have ordinary : token.kind ≠ .endOfInput := kind ▸ bounds.2.2
      rw [List.length_append, List.length_append] at enough
      obtain ⟨ending, tokens, stream, written⟩ := ih (show rest.length < steps by omega) after
      refine ⟨ending, token :: tokens, ?_, by rw [List.map_cons, same, written]⟩
      rw [TokenStream.scanFrom, scanned]
      simp only [if_neg ordinary]
      rw [stream, streamOf]

private theorem blank_of_ended (left : cursor.skipSpace.rest = []) : ∀ c ∈ cursor.rest, isSpace c := by
  have whole := List.takeWhile_append_dropWhile (p := isSpace) (l := cursor.rest)
  rw [← skipSpace_rest, left, List.append_nil] at whole
  rw [← whole]
  exact List.all_eq_true.mp List.all_takeWhile

/-- Blanks and a word are what a scan has passed that gives a token. -/
theorem scan_split {token : Token} {after : Cursor} (scanned : cursor.scan = (.ok token, after)) (ordinary : token.kind ≠ .endOfInput) :
    ∃ gap, (∀ c ∈ gap, isSpace c) ∧ cursor.rest = gap ++ (token.text.toList ++ after.rest) ∧
      Lexeme.read (token.text.toList ++ after.rest) = .token token.kind token.text.toList.length := by
  have whole : cursor.rest = cursor.rest.takeWhile isSpace ++ cursor.skipSpace.rest := by
    rw [skipSpace_rest, List.takeWhile_append_dropWhile]
  have result := scan_result cursor
  rw [scanned] at result
  cases result with
  | ended left => exact absurd rfl ordinary
  | @token kind length found =>
    have taken : (cursor.skipSpace.rest.take length).length = length :=
      List.length_take_of_le (read_bounds found).2.1
    refine ⟨cursor.rest.takeWhile isSpace, List.all_eq_true.mp List.all_takeWhile, ?_, ?_⟩
    · rw [String.toList_ofList, Cursor.advance, List.take_append_drop, ← whole]
    · rw [String.toList_ofList, Cursor.advance, List.take_append_drop, taken, found]

private theorem cut_of_scanFrom {place : Location} {tokens : List Token} (enough : cursor.rest.length < steps)
    (stream : TokenStream.scanFrom steps cursor = streamOf place tokens) : Cut (tokens.map inscription) cursor.rest := by
  induction steps generalizing cursor tokens with
  | zero => exact absurd enough (Nat.not_lt_zero _)
  | succ steps ih =>
    rw [TokenStream.scanFrom] at stream
    rcases scanned : cursor.scan with ⟨outcome, after⟩
    rw [scanned] at stream
    cases outcome with
    | error failure => cases tokens <;> cases stream
    | ok token =>
      by_cases ends : token.kind = .endOfInput
      · simp only [if_pos ends] at stream
        have result := scan_result cursor
        rw [scanned] at result
        cases result with
        | token found => exact absurd ends (read_bounds found).2.2
        | ended left =>
          cases tokens with
          | nil => exact .blank (blank_of_ended left)
          | cons _ _ => cases stream
      · simp only [if_neg ends] at stream
        obtain ⟨gap, blank, whole, found⟩ := scan_split scanned ends
        cases tokens with
        | nil => cases stream
        | cons first others =>
          obtain ⟨rfl, behind⟩ := TokenStream.more.inj stream
          have shorter := congrArg List.length whole
          have filled := (read_bounds found).1
          simp only [List.length_append] at shorter
          have rest : Cut (others.map inscription) after.rest := ih (by omega) behind
          have cut : Cut (inscription token :: others.map inscription) (gap ++ (token.text.toList ++ after.rest)) :=
            .word blank found rest
          rw [whole]
          exact cut

end Scanning

section Sources
variable {source : String} {words : List Word}

/-- The tokens of a source that is cut into words are those words. -/
theorem Cut.stream (cut : Cut words source.toList) : ∃ place tokens,
    TokenStream.ofSource source = streamOf place tokens ∧ tokens.map inscription = words :=
  cut.scanFrom (Nat.lt_succ_self _) .start

theorem cut_of_stream {place : Location} {tokens : List Token} (stream : TokenStream.ofSource source = streamOf place tokens) :
    Cut (tokens.map inscription) source.toList :=
  cut_of_scanFrom (Nat.lt_succ_self _) stream

end Sources

end CommonExpr.Proofs.CutTexts

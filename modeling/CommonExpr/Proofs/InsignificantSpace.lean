import CommonExpr.Proofs.AlikeTokens
import CommonExpr.Proofs.CutTexts
import CommonExpr.Proofs.ParserParametricity
import CommonExpr.Proofs.TokenFootprint

/-! White space between tokens is insignificant. Lexemes with other white space between them
are cut into the same tokens, and the parser, which does not see where a token stands, makes
the same of them: the same tree, or an error with the same cause. -/

namespace CommonExpr.Proofs.InsignificantSpace
open CommonExpr.Parser TokenReader TokenFootprint ParserParametricity Tokenization AlikeTokens Spelling LexemeStops
open CutTexts
open Lexeme (isSpace)

section Blindness

/-- The same tokens up to the end of two sources, wherever they stand. -/
inductive LikeStreams : TokenStream → TokenStream → Prop where
  | finished {ending other : Token} (same : Likewise ending other) : LikeStreams (.finished ending) (.finished other)
  | more {token other : Token} {stream rest : TokenStream} (same : Likewise token other) (behind : LikeStreams stream rest) :
      LikeStreams (.more token stream) (.more other rest)

structure LikeReaders (reader other : Reader) : Prop where
  current : Likewise reader.current other.current
  following : LikeStreams reader.following other.following
  bound : reader.bound = other.bound

/-- Values that belong together, or errors that differ at most in their places. -/
inductive SameReading {α : Type} (values : α → α → Prop) : Except ParseFailure α → Except ParseFailure α → Prop where
  | ok {value other : α} (same : values value other) : SameReading values (.ok value) (.ok other)
  | invalid (cause : SyntaxCause) (place other : Location) :
      SameReading values (.error (.invalid ⟨cause, place⟩)) (.error (.invalid ⟨cause, other⟩))
  | broken (cause : Breakdown) : SameReading values (.error (.broken cause)) (.error (.broken cause))

/-- The parsers do the same wherever the tokens before them stand. -/
def Blind {α : Type} (first second : Parser α) : Prop :=
  ∀ reader other, LikeReaders reader other →
    SameReading (fun result last => result.1 = last.1 ∧ LikeReaders result.2 last.2) (first reader) (second other)

variable {stream rest : TokenStream} {reader other : Reader}

theorem LikeStreams.length (like : LikeStreams stream rest) : stream.length = rest.length := by
  induction like with
  | finished _ => rfl
  | more _ _ ih => exact congrArg (· + 1) ih

theorem LikeStreams.uncons (like : LikeStreams stream rest) : ∃ token behind last others,
    stream.uncons = .ok (token, behind) ∧ rest.uncons = .ok (last, others) ∧ Likewise token last ∧ LikeStreams behind others := by
  cases like with
  | finished same => exact ⟨_, _, _, _, rfl, rfl, same, .finished same⟩
  | more same behind => exact ⟨_, _, _, _, rfl, rfl, same, behind⟩

theorem LikeStreams.qualified (like : LikeStreams stream rest) :
    ∃ answer, isQualifiedStruct stream = .ok answer ∧ isQualifiedStruct rest = .ok answer := by
  -- Two tokens are looked at before the rest, as `isQualifiedStruct` does.
  fun_induction isQualifiedStruct stream generalizing rest with
  | case1 failure => cases like
  | case2 ending =>
    cases like with
    | finished _ => exact ⟨false, rfl, rfl⟩
  | case3 name behind other =>
    cases like with
    | more same _ =>
      refine ⟨false, rfl, ?_⟩
      unfold isQualifiedStruct
      rw [if_pos (same.kind ▸ other)]
  | case4 name names failure =>
    cases like with
    | more _ behind => cases behind
  | case5 name names ending =>
    cases like with
    | more same behind =>
      cases behind with
      | finished _ => exact ⟨false, rfl, by rw [isQualifiedStruct, if_neg (same.kind ▸ names)]⟩
  | case6 name names mark behind brace =>
    cases like with
    | more same like =>
      cases like with
      | more second _ =>
        refine ⟨true, rfl, ?_⟩
        rw [isQualifiedStruct, if_neg (same.kind ▸ names)]
        exact if_pos (second.kind ▸ brace)
  | case7 name names mark behind brace dot ih =>
    cases like with
    | more same like =>
      cases like with
      | more second like =>
        obtain ⟨answer, one, two⟩ := ih like
        refine ⟨answer, one, ?_⟩
        rw [isQualifiedStruct, if_neg (same.kind ▸ names)]
        simp only [← second.kind, if_neg brace, if_pos dot, two]
  | case8 name names mark behind brace dot =>
    cases like with
    | more same like =>
      cases like with
      | more second like =>
        refine ⟨false, rfl, ?_⟩
        rw [isQualifiedStruct, if_neg (same.kind ▸ names)]
        simp only [← second.kind, if_neg brace, if_neg dot]

namespace Blind
variable {α β : Type}

theorem bind {first second : Parser α} {next last : α → Parser β} (start : Blind first second)
    (continues : ∀ value, Blind (next value) (last value)) : Blind (first >>= next) (second >>= last) := by
  intro reader other like
  have started := start reader other like
  generalize one : first reader = outcome at started
  generalize two : second other = ending at started
  cases started with
  | @ok result end' same =>
    obtain ⟨value, middle⟩ := result
    obtain ⟨_, behind⟩ := end'
    obtain ⟨rfl, readers⟩ := same
    rw [bind_of_ok one, bind_of_ok two]
    exact continues value middle behind readers
  | invalid cause place last =>
    rw [bind_of_error one, bind_of_error two]
    exact .invalid cause place last
  | broken cause =>
    rw [bind_of_error one, bind_of_error two]
    exact .broken cause

theorem fail (cause : SyntaxCause) : Blind (Parser.fail cause : Parser α) (Parser.fail cause) :=
  fun reader other _ => .invalid cause reader.current.location other.current.location

theorem unexpected : Blind (Parser.unexpected : Parser α) Parser.unexpected := by
  intro reader other like
  unfold Parser.unexpected
  rw [like.current.kind, like.current.text]
  split
  · exact fail _ reader other like
  · exact fail _ reader other like

theorem advance {first second : Token → Parser α}
    (each : ∀ token last, Likewise token last → Blind (first token) (second last)) :
    Blind (Parser.advance >>= first) (Parser.advance >>= second) := by
  intro reader other like
  obtain ⟨token, behind, last, others, one, two, same, rest⟩ := like.following.uncons
  have first : Parser.advance reader = .ok (reader.current, ⟨token, behind, reader.bound⟩) :=
    advance_eq_ok.mpr ⟨rfl, one, rfl⟩
  have second : Parser.advance other = .ok (other.current, ⟨last, others, other.bound⟩) :=
    advance_eq_ok.mpr ⟨rfl, two, rfl⟩
  rw [bind_of_ok first, bind_of_ok second]
  exact each reader.current other.current like.current _ _ ⟨same, rest, like.bound⟩

theorem startsField : Blind Parser.startsField Parser.startsField := by
  intro reader other like
  obtain ⟨token, behind, last, others, one, two, same, -⟩ := like.following.uncons
  unfold Parser.startsField
  rw [one, two, like.current.kind]
  split
  · exact .ok ⟨by rw [same.kind], like⟩
  · exact .ok ⟨rfl, like⟩

theorem startsQualifiedStruct : Blind Parser.startsQualifiedStruct Parser.startsQualifiedStruct := by
  intro reader other like
  obtain ⟨answer, one, two⟩ := like.following.qualified
  unfold Parser.startsQualifiedStruct
  rw [one, two, like.current.kind]
  split
  · exact .ok ⟨rfl, like⟩
  · exact .ok ⟨rfl, like⟩

theorem parametric : Parametric Blind where
  bind := bind
  pure _ := fun _ _ like => .ok ⟨rfl, like⟩
  fail _ := fail _
  broken cause := fun _ _ _ => .broken cause
  unexpected := unexpected
  steps := fun _ _ like => .ok ⟨like.bound, like⟩
  inspect _ _ each := fun reader other like => each reader.current other.current like.current reader other like
  advance := advance
  startsField := startsField
  startsQualifiedStruct := startsQualifiedStruct

end Blind

/-- The parser makes the same of sources that are cut into the same tokens. -/
theorem parse_alike {source changed : String} {limits : Limits} (short : source.length ≤ limits.maxSourceLength)
    (also : changed.length ≤ limits.maxSourceLength)
    (like : LikeStreams (TokenStream.ofSource source) (TokenStream.ofSource changed)) :
    SameReading (· = ·) (Expr.parse source limits) (Expr.parse changed limits) := by
  obtain ⟨token, behind, last, others, one, two, same, rest⟩ := like.uncons
  unfold Expr.parse
  rw [if_neg (Int.not_lt.mpr short), if_neg (Int.not_lt.mpr also), one, two]
  dsimp only
  have whole := Blind.parametric.source_self (Blind.fail _) limits.maxDepth.toNat
    ⟨token, behind, behind.length + 2⟩ ⟨last, others, others.length + 2⟩ ⟨same, rest, congrArg (· + 2) rest.length⟩
  generalize Parser.source limits.maxDepth.toNat ⟨token, behind, behind.length + 2⟩ = outcome at whole
  generalize Parser.source limits.maxDepth.toNat ⟨last, others, others.length + 2⟩ = ending at whole
  cases whole with
  | ok same => exact .ok same.1
  | invalid cause place other => exact .invalid cause place other
  | broken cause => exact .broken cause

end Blindness

section Spacing

/-- Words with white space before each of them, and white space behind the last one. -/
def spaced (pieces : List (List Char × Word)) (tail : List Char) : List Char :=
  pieces.flatMap (fun piece => piece.1 ++ piece.2.text.toList) ++ tail

/-- There is only white space around the words, and some of it between any two of them. -/
structure Spacing (pieces : List (List Char × Word)) (tail : List Char) : Prop where
  blank : ∀ piece ∈ pieces, ∀ c ∈ piece.1, isSpace c
  apart : ∀ piece ∈ pieces.tail, piece.1 ≠ []
  ending : ∀ c ∈ tail, isSpace c

variable {pieces : List (List Char × Word)} {piece : List Char × Word} {tail : List Char}

theorem Spacing.behind (spacing : Spacing (piece :: pieces) tail) : Spacing pieces tail where
  blank := fun other member => spacing.blank other (List.mem_cons_of_mem _ member)
  apart := fun other member => spacing.apart other (List.mem_of_mem_tail member)
  ending := spacing.ending

private theorem stopped_of_blank {gap : List Char} (blank : ∀ c ∈ gap, isSpace c) : Stopped gap :=
  fun c first => stops_of_space (blank c (List.mem_of_mem_head? first))

/-- A word does not run into the one behind it. -/
theorem Spacing.stopped (spacing : Spacing (piece :: pieces) tail) : Stopped (spaced pieces tail) := by
  cases pieces with
  | nil => exact stopped_of_blank spacing.ending
  | cons next others =>
    have filled : next.1 ≠ [] := spacing.apart next List.mem_cons_self
    obtain ⟨c, more, shape⟩ := List.exists_cons_of_ne_nil filled
    have space : isSpace c := spacing.behind.blank next List.mem_cons_self c (shape ▸ List.mem_cons_self)
    rw [spaced, List.flatMap_cons, shape]
    exact .cons (stops_of_space space) _

theorem Spacing.cut (spacing : Spacing pieces tail) (lexemes : ∀ piece ∈ pieces, piece.2.IsLexeme) :
    Cut (pieces.map Prod.snd) (spaced pieces tail) := by
  induction pieces with
  | nil => exact .blank spacing.ending
  | cons piece others ih =>
    obtain ⟨lexeme, rest⟩ := List.forall_mem_cons.mp lexemes
    rw [spaced, List.flatMap_cons, List.append_assoc, List.append_assoc]
    exact .word (spacing.blank piece List.mem_cons_self) (read_append spacing.stopped lexeme) (ih spacing.behind rest)

private theorem likeStreams_of_alike {place other : Location} {tokens others : List Token}
    (alike : Alike others tokens) :
    LikeStreams (streamOf place tokens) (streamOf other others) := by
  induction tokens generalizing others with
  | nil =>
    rw [alike_nil alike]
    exact .finished ⟨rfl, rfl⟩
  | cons token tokens ih =>
    obtain ⟨first, rest, rfl, kind, text, behind⟩ := alike_cons alike
    exact .more ⟨kind.symm, text.symm⟩ (ih behind)

/-- The tokens of a source are put down again with other white space around them, which is
not empty between two of them. They are cut into the same tokens, and the parser returns the
same tree for both sources or, where it fails, fails with the same cause. -/
theorem white_space_is_insignificant {source : String} {tokens : List Token} {ending : Token}
    (cut : (Lexer.ofSource source).tokenize.1 = .ok (tokens ++ [ending])) (spacing : Spacing pieces tail)
    (words : pieces.map Prod.snd = tokens.map inscription) :
    let rebuilt := String.ofList (spaced pieces tail)
    (∃ others, (Lexer.ofSource rebuilt).tokenize.1 = .ok others ∧
      others.map inscription = (tokens ++ [ending]).map inscription) ∧
    ∀ limits : Limits, source.length ≤ limits.maxSourceLength → rebuilt.length ≤ limits.maxSourceLength →
      SameReading (· = ·) (Expr.parse source limits) (Expr.parse rebuilt limits) := by
  intro rebuilt
  obtain ⟨place, _, same, stream, genuine⟩ := tokenize_ok cut
  obtain ⟨rfl, rfl⟩ := List.append_inj' same rfl |>.imp_right List.singleton_inj.mp
  have lexemes (piece : List Char × Word) (member : piece ∈ pieces) : piece.2.IsLexeme := by
    have written : piece.2 ∈ tokens.map inscription := words ▸ List.mem_map_of_mem member
    obtain ⟨token, given, same⟩ := List.mem_map.mp written
    exact same ▸ genuine token given
  have whole : Cut (pieces.map Prod.snd) rebuilt.toList := by
    rw [String.toList_ofList]
    exact spacing.cut lexemes
  obtain ⟨reached, others, found, written⟩ := whole.stream
  have alike : Alike others tokens := written.trans words
  refine ⟨⟨others ++ [endToken reached], ?_, ?_⟩, fun limits short also => ?_⟩
  · rw [tokenize_eq_listing, found, listing_streamOf]
  · rw [List.map_append, alike, List.map_append]
    rfl
  · refine parse_alike short also ?_
    rw [stream, found]
    exact likeStreams_of_alike alike

/-- Next to each other the two words would be one raw literal. -/
theorem name_before_quote_respaced :
    let pieces := [(['\n'], name "r"), (['\r', '\n', '\t'], ⟨.string, "'x'"⟩)]
    (Lexer.ofSource "r 'x'").tokenize.1 = .ok
      [⟨.identifier, "r", ⟨1, 1, 0⟩⟩, ⟨.string, "'x'", ⟨1, 3, 2⟩⟩, ⟨.endOfInput, "", ⟨1, 6, 5⟩⟩] ∧
      Spacing pieces [' '] ∧
      SameReading (· = ·) (Expr.parse "r 'x'" {}) (Expr.parse (String.ofList (spaced pieces [' '])) {}) := by
  intro pieces
  have cut : (Lexer.ofSource "r 'x'").tokenize.1 = .ok
      ([⟨.identifier, "r", ⟨1, 1, 0⟩⟩, ⟨.string, "'x'", ⟨1, 3, 2⟩⟩] ++ [⟨.endOfInput, "", ⟨1, 6, 5⟩⟩]) := by rfl
  have broken : ∀ c ∈ ['\r', '\n', '\t'], isSpace c :=
    List.forall_mem_cons.mpr ⟨rfl, List.forall_mem_cons.mpr ⟨rfl, List.forall_mem_singleton.mpr rfl⟩⟩
  have spacing : Spacing pieces [' '] :=
    ⟨List.forall_mem_cons.mpr ⟨List.forall_mem_singleton.mpr rfl, List.forall_mem_singleton.mpr broken⟩, by decide,
      List.forall_mem_singleton.mpr rfl⟩
  exact ⟨cut, spacing, (white_space_is_insignificant cut spacing rfl).2 {} (by decide) (by decide)⟩

end Spacing

end CommonExpr.Proofs.InsignificantSpace

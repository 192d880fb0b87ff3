import CommonExpr.Proofs.AlikeTokens
import CommonExpr.Proofs.EscapedLiterals

/-! Sources that are put together from others. A text that stands for a phrase stands for it
inside a longer text too, as long as its last lexeme does not run into what follows. So the source
of an expression keeps its tree between parentheses, whatever is written around them. -/

namespace CommonExpr.Proofs.EnclosedSources
open Lexeme LexemeExtent LexemeStops CutTexts Grammar TokenReader Tokenization ParserProgress Recognition
open WellFormedTree
open Spelling TreePrinter AlikeTokens EscapedLiterals

/-- The text is cut into words, and whatever tokens have these words are as claimed. -/
def Means (text : List Char) (Claim : List Token → Prop) : Prop :=
  ∃ words, Cut words text ∧ Says words Claim

namespace Means
variable {text tail front : List Char} {First Second : List Token → Prop}

theorem mono (means : Means text First) (weaker : ∀ tokens, First tokens → Second tokens) : Means text Second := by
  obtain ⟨words, cut, said⟩ := means
  exact ⟨words, cut, said.mono fun tokens _ => weaker tokens⟩

theorem nothing : Means [] (· = []) :=
  ⟨[], .blank nofun, .nothing⟩

theorem append (one : Means front First) (stopped : Stopped tail) (two : Means tail Second) :
    Means (front ++ tail) fun tokens => ∃ before behind, tokens = before ++ behind ∧ First before ∧ Second behind := by
  obtain ⟨words, cut, said⟩ := one
  obtain ⟨others, more, also⟩ := two
  exact ⟨words ++ others, cut.append stopped more, said.append also⟩

theorem blank (means : Means text First) : Means (' ' :: text) First := by
  obtain ⟨words, cut, said⟩ := means
  exact ⟨words, cut.indent (List.forall_mem_singleton.mpr rfl), said⟩

theorem word {word : Word} (lexeme : word.IsLexeme) (stopped : Stopped tail) (means : Means tail Second) :
    Means (word.text.toList ++ tail) fun tokens =>
      ∃ token others, tokens = token :: others ∧ inscription token = word ∧ Second others := by
  obtain ⟨words, cut, said⟩ := means
  exact ⟨word :: words, cut.cons lexeme stopped, .cons lexeme said⟩

theorem name {name : String} (named : IsName name) (stopped : Stopped tail) (means : Means tail Second) :
    Means (name.toList ++ tail) fun tokens =>
      ∃ token others, tokens = token :: others ∧ token.kind = .identifier ∧ token.text = name ∧ Second others := by
  refine (means.word (name_isLexeme named) stopped).mono fun tokens claim => ?_
  obtain ⟨token, others, rfl, same, holds⟩ := claim
  exact ⟨token, others, rfl, congrArg Word.kind same, congrArg Word.text same, holds⟩

end Means

section Signs
variable {tail : List Char} {Second : List Token → Prop}

/-- The signs that stand for themselves whatever is written behind them. -/
inductive Apart : TokenKind → Char → Prop where
  | leftParen : Apart .leftParen '('
  | rightParen : Apart .rightParen ')'
  | leftBracket : Apart .leftBracket '['
  | rightBracket : Apart .rightBracket ']'
  | dot : Apart .dot '.'
  | comma : Apart .comma ','

theorem Apart.written {kind : TokenKind} {c : Char} (apart : Apart kind c) : (sign kind).text.toList = [c] := by
  cases apart <;> rfl

theorem Apart.read {kind : TokenKind} {c : Char} (apart : Apart kind c) (rest : List Char) :
    Lexeme.read (c :: rest) = .token kind 1 := by
  cases apart <;> exact read_unquoted rfl (.inr ⟨rfl, rfl⟩)

/-- All of them but the dot, which may go on with a number, end what stands before them. -/
theorem Apart.stops {kind : TokenKind} {c : Char} (apart : Apart kind c) (other : c ≠ '.') : Stops c := by
  cases apart
  all_goals first | exact ⟨rfl, rfl, by decide⟩ | exact absurd rfl other

theorem stops_of_rightParen : Stops ')' :=
  Apart.rightParen.stops (by decide)

theorem Means.sign {kind : TokenKind} {c : Char} (apart : Apart kind c) (means : Means tail Second) :
    Means (c :: tail) fun tokens => ∃ token others, tokens = token :: others ∧ token.kind = kind ∧ Second others := by
  obtain ⟨words, cut, said⟩ := means
  have written : signText kind ≠ "" := by cases apart <;> decide
  have found : Lexeme.read ((Spelling.sign kind).text.toList ++ tail) =
      .token kind (Spelling.sign kind).text.toList.length := by
    rw [apart.written]
    exact apart.read tail
  have whole : Cut (Spelling.sign kind :: words) ([] ++ ((Spelling.sign kind).text.toList ++ tail)) := .word nofun found cut
  rw [apart.written] at whole
  exact ⟨_, whole, .sign_cons kind written said⟩

end Signs

section Parts
variable {tail source : List Char} {Second : List Token → Prop} {tree : Expr}

/-- An expression in parentheses is an operand, whatever is written behind it. -/
theorem Means.grouped (expression : Means source (Derives · (.expression tree))) (means : Means tail Second) :
    Means ('(' :: (source ++ ')' :: tail)) fun tokens =>
      ∃ before behind, tokens = before ++ behind ∧ Derives before (.primary tree) ∧ Second behind := by
  have inner := expression.append (.cons stops_of_rightParen tail) (means.sign .rightParen)
  refine (inner.sign .leftParen).mono fun tokens claim => ?_
  obtain ⟨opening, _, rfl, opens, held, _, rfl, derived, closing, behind, rfl, closes, holds⟩ := claim
  exact ⟨opening :: (held ++ [closing]), behind, by simp, .group opens derived closes, holds⟩

private theorem encodes_plain {quote : Char} {text : List Char} (plain : ∀ c ∈ text, c ≠ '\\' ∧ c ≠ quote) :
    Encodes quote text text := by
  induction text with
  | nil => exact .nil
  | cons c text ih =>
    obtain ⟨⟨visible, inside⟩, rest⟩ := List.forall_mem_cons.mp plain
    exact .cons (.plain visible inside) (ih rest)

private theorem name_plain {name : String} (named : IsName name) : ∀ c ∈ name.toList, c ≠ '\\' ∧ c ≠ '\'' := by
  intro c member
  have part := named.parts c member
  constructor
  · rintro rfl
    cases part
  · rintro rfl
    cases part

/-- A name in quotes is the text literal for it. -/
theorem Means.quoted {name : String} (named : IsName name) (stopped : Stopped tail) (means : Means tail Second) :
    Means ('\'' :: (name.toList ++ '\'' :: tail)) fun tokens => ∃ token others, tokens = token :: others ∧
      Literal.ofToken? token = some (some (.literal .string (.string name))) ∧ Second others := by
  have encodes := encodes_plain (name_plain named)
  have shaped : Body false '\'' name.toList := .encoded rfl encodes
  let word : Word := ⟨.string, String.ofList (EscapedLiterals.enclosed .single '\'' name.toList)⟩
  have lexeme : word.IsLexeme := by
    rw [Word.IsLexeme, String.toList_ofList]
    exact shaped.read_string rfl .single
  have literal := means.word lexeme stopped
  rw [String.toList_ofList, EscapedLiterals.enclosed, Quoting.delimiter, List.append_assoc, List.append_assoc] at literal
  refine literal.mono fun tokens claim => ?_
  obtain ⟨token, others, rfl, same, holds⟩ := claim
  have kind : token.kind = .string := congrArg Word.kind same
  have text : token.text = String.ofList (EscapedLiterals.enclosed .single '\'' name.toList) := congrArg Word.text same
  refine ⟨token, others, rfl, ?_, holds⟩
  simp only [Literal.ofToken?, kind, text, String.toList_ofList, string_enclosed shaped rfl, decode_encoded encodes]

end Parts

section Sources
variable {source : String} {limits : Limits} {tree : Expr}

theorem means_of_parse (parsed : Expr.parse source limits = .ok tree) :
    Means source.toList (Derives · (.expression tree)) := by
  obtain ⟨short, place, tokens, stream, genuine⟩ := stream_of_parse parsed
  have derived := expression_of_source (derives_of_stream stream short genuine parsed)
  exact ⟨tokens.map inscription, cut_of_stream stream, lexemes_of_genuine genuine, fun _ alike => derives_alike derived alike⟩

/-- The source is short enough, and the parser does not find it nested too deeply. -/
structure Admits (limits : Limits) (source : String) : Prop where
  short : source.length ≤ limits.maxSourceLength
  shallow : ∀ place, Expr.parse source limits ≠ .error (.invalid ⟨.nestedTooDeeply, place⟩)

private theorem parse_or_deeper (means : Means source.toList (Derives · (.expression tree)))
    (short : source.length ≤ limits.maxSourceLength) : Expr.parse source limits = .ok tree ∨
      (limits.maxDepth < source.length ∧
        ∃ place, Expr.parse source limits = .error (.invalid ⟨.nestedTooDeeply, place⟩)) := by
  obtain ⟨words, cut, said⟩ := means
  obtain ⟨place, tokens, stream, written⟩ := cut.stream
  have few := cut.length_le
  rw [← written, List.length_map, String.length_toList] at few
  refine (parse_of_stream stream short (.source (said.holds tokens written) rfl)).imp_right fun ⟨many, exceeded⟩ => ?_
  exact ⟨by omega, exceeded⟩

theorem parse_of_means (means : Means source.toList (Derives · (.expression tree))) (admits : Admits limits source) :
    Expr.parse source limits = .ok tree := by
  rcases parse_or_deeper means admits.short with parsed | ⟨_, place, exceeded⟩
  · exact parsed
  · exact absurd exceeded (admits.shallow place)

/-- A depth limit that is no less than the number of characters is never exceeded. -/
theorem admits_of_length (means : Means source.toList (Derives · (.expression tree)))
    (short : source.length ≤ limits.maxSourceLength) (shallow : source.length ≤ limits.maxDepth) : Admits limits source := by
  refine ⟨short, fun place failed => ?_⟩
  rcases parse_or_deeper means short with parsed | ⟨exceeded, _⟩
  · cases parsed.symm.trans failed
  · exact absurd exceeded (Int.not_lt.mpr shallow)

end Sources

end CommonExpr.Proofs.EnclosedSources

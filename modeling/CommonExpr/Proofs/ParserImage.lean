import CommonExpr.Proofs.CutTexts
import CommonExpr.Proofs.ParserProgress
import CommonExpr.Proofs.Recognition
import CommonExpr.Proofs.TreePrinter

/-! The parser returns the well-formed trees and no others: a tree that it returns is well
formed, and a well-formed tree is what its printed form is read back as. -/

namespace CommonExpr.Proofs.ParserImage
open Lexeme LexemeStops CutTexts Grammar TokenReader Tokenization ParserProgress Recognition WellFormedTree Spelling
open TreePrinter

theorem wellFormed_of_parse {source : String} {limits : Limits} {tree : Expr} (parsed : Expr.parse source limits = .ok tree) :
    WellFormed HasLexeme tree := by
  obtain ⟨short, place, tokens, stream, genuine⟩ := stream_of_parse parsed
  have lexical : Lexical (tokens ++ [endToken place]) := by
    refine lexical_append.mpr ⟨fun token member _ => genuine token member, ?_⟩
    exact lexical_cons.mpr ⟨fun other => absurd rfl other, nofun⟩
  exact derives_shaped (derives_of_stream stream short genuine parsed) lexical

section Layout
variable {words : List Word}

private theorem stopped_layout (words : List Word) : Stopped (layout words) := by
  cases words with
  | nil => exact .nil
  | cons word others => exact .cons (stops_of_space rfl) _

/-- Every word has a blank before it, so that it does not run into the one behind it. -/
theorem cut_layout (lexemes : ∀ word ∈ words, word.IsLexeme) : Cut words (layout words) := by
  induction words with
  | nil => exact .blank nofun
  | cons word others ih =>
    obtain ⟨lexeme, rest⟩ := List.forall_mem_cons.mp lexemes
    have shape : layout (word :: others) = [' '] ++ (word.text.toList ++ layout others) := rfl
    rw [shape]
    exact .word (List.forall_mem_singleton.mpr rfl) (read_append (stopped_layout others) lexeme) (ih rest)

theorem ofSource_layout (lexemes : ∀ word ∈ words, word.IsLexeme) : ∃ ending tokens,
    TokenStream.ofSource (String.ofList (layout words)) = streamOf ending tokens ∧ tokens.map inscription = words := by
  apply Cut.stream
  rw [String.toList_ofList]
  exact cut_layout lexemes

end Layout

private theorem parse_print {spell : Value → String} {tree : Expr} (formed : WellFormed (Spelled spell) tree)
    (limits : Limits)
    (short : (print spell tree).length ≤ limits.maxSourceLength) :
    Expr.parse (print spell tree) limits = .ok tree ∨ (limits.maxDepth < (words spell tree).length ∧
      ∃ place, Expr.parse (print spell tree) limits = .error (.invalid ⟨.nestedTooDeeply, place⟩)) := by
  have said := words_said formed
  obtain ⟨ending, tokens, stream, written⟩ := ofSource_layout said.lexemes
  have many : tokens.length = (words spell tree).length := by rw [← written, List.length_map]
  rw [← many]
  exact parse_of_stream stream short (.source (said.holds tokens written) rfl)

/-- The doubles of a well-formed tree have lexemes, which can be chosen as their spelling. -/
theorem exists_spelling {tree : Expr} (formed : WellFormed HasLexeme tree) : ∃ spell, WellFormed (Spelled spell) tree := by
  classical
  let spell (value : Value) : String := if known : HasLexeme .double value then known.choose else ""
  refine ⟨spell, formed.mono fun kind value lexeme => ⟨lexeme, ?_⟩⟩
  rintro rfl
  have chosen : spell value = lexeme.choose := dif_pos lexeme
  rw [chosen]
  exact lexeme.choose_spec

/-- The printed form of a tree is read back as the tree, unless the depth limit is exceeded, for
which it takes more words than that limit. -/
theorem parser_returns_wellFormed_trees (tree : Expr) :
    ((∃ source limits, Expr.parse source limits = .ok tree) ↔ WellFormed HasLexeme tree) ∧
      (WellFormed HasLexeme tree → ∃ spell, WellFormed (Spelled spell) tree) ∧
      ∀ spell, WellFormed (Spelled spell) tree → ∀ limits : Limits, (print spell tree).length ≤ limits.maxSourceLength →
        Expr.parse (print spell tree) limits = .ok tree ∨ (limits.maxDepth < (words spell tree).length ∧
          ∃ place, Expr.parse (print spell tree) limits = .error (.invalid ⟨.nestedTooDeeply, place⟩)) := by
  refine ⟨⟨fun ⟨source, limits, parsed⟩ => wellFormed_of_parse parsed, fun formed => ?_⟩, exists_spelling,
    fun spell formed limits short => parse_print formed limits short⟩
  obtain ⟨spell, spelled⟩ := exists_spelling formed
  let limits : Limits := ⟨(words spell tree).length, (print spell tree).length⟩
  rcases parse_print spelled limits (Int.le_refl _) with parsed | ⟨exceeded, _⟩
  · exact ⟨_, _, parsed⟩
  · exact absurd exceeded (Int.lt_irrefl _)

/-- The first key is a name, and the call of `has` with a selection is none that asks for presence. -/
theorem map_of_call_read_back :
    print (fun _ => "") (.map [(.identifier "a", .call none "has" [.select none "b" false] false)]) =
        " \x7b ( a ) : ( . has ( ( . b ) ) ) \x7d" ∧
      WellFormed (Spelled fun _ => "") (.map [(.identifier "a", .call none "has" [.select none "b" false] false)]) ∧
      Expr.parse " \x7b ( a ) : ( . has ( ( . b ) ) ) \x7d" {} =
        .ok (.map [(.identifier "a", .call none "has" [.select none "b" false] false)]) := by
  have nameA : IsName "a" := ⟨⟨'a', [], rfl, rfl, List.all_eq_true.mp rfl⟩, by decide⟩
  have nameB : IsName "b" := ⟨⟨'b', [], rfl, rfl, List.all_eq_true.mp rfl⟩, by decide⟩
  have nameHas : IsName "has" := ⟨⟨'h', ['a', 's'], rfl, rfl, List.all_eq_true.mp rfl⟩, by decide⟩
  have call : WellFormed (Spelled fun _ => "") (.call none "has" [.select none "b" false] false) :=
    .call nameHas nofun (List.forall_mem_singleton.mpr (.select nameB nofun))
  have formed : WellFormed (Spelled fun _ => "")
      (.map [(.identifier "a", .call none "has" [.select none "b" false] false)]) :=
    .map (List.forall_mem_singleton.mpr (.identifier nameA)) (List.forall_mem_singleton.mpr call)
  refine ⟨by rfl, formed, ?_⟩
  rcases (parser_returns_wellFormed_trees _).2.2 _ formed {} (by decide) with parsed | ⟨exceeded, _⟩
  · exact parsed
  · exact absurd exceeded (by decide)

end CommonExpr.Proofs.ParserImage

import CommonExpr.Proofs.NestingAllowance
import CommonExpr.Proofs.ParserCompleteness
import CommonExpr.Proofs.Tokenization

/-! The parser recognizes exactly its grammar, and the grammar is unambiguous. -/

namespace CommonExpr.Proofs.Recognition
open Grammar TokenReader ParserSoundness ParserCompleteness NestingAllowance Tokenization

/-- Both trees are what the parser returns when it is given room for the tokens. -/
theorem derives_unique {tokens : List Token} {tree other : Expr} (first : Derives tokens (.source tree))
    (second : Derives tokens (.source other)) : tree = other := by
  obtain ⟨front, ending, rfl⟩ : ∃ front ending, tokens = front ++ [ending] := by
    cases first with
    | @source front _ ending _ _ => exact ⟨front, ending, rfl⟩
  let frame : Frame := ⟨.start, front.length + 1⟩
  have one := source_complete frame first (Nat.lt_succ_self _) (Nat.le_refl _)
  have two := source_complete frame second (Nat.lt_succ_self _) (Nat.le_refl _)
  exact (Prod.mk.inj (Except.ok.inj (one.symm.trans two))).1

theorem expression_of_source {tokens : List Token} {ending : Token} {tree : Expr}
    (derived : Derives (tokens ++ [ending]) (.source tree)) : Derives tokens (.expression tree) := by
  generalize shape : tokens ++ [ending] = all at derived
  cases derived with
  | source whole _ =>
    obtain ⟨rfl, -⟩ := List.append_inj' shape rfl
    exact whole

section Streams
variable {source : String} {limits : Limits} {place : Location} {tokens : List Token} {tree : Expr}

theorem derives_of_stream (stream : TokenStream.ofSource source = streamOf place tokens)
    (short : source.length ≤ limits.maxSourceLength) (genuine : ∀ token ∈ tokens, Genuine token)
    (parsed : Expr.parse source limits = .ok tree) : Derives (tokens ++ [endToken place]) (.source tree) := by
  obtain ⟨frame, room, same⟩ := parse_eq short stream
  rw [same] at parsed
  cases read : Parser.source limits.maxDepth.toNat (frame.reader tokens) with
  | error failure => rw [read] at parsed; cases parsed
  | ok pair =>
    rw [read] at parsed
    cases parsed
    exact source_sound room rfl (fun token member => (genuine token member).ordinary) read

/-- Unless its allowance is used up, the parser finds the tree that the tokens stand for. -/
theorem parse_of_stream (stream : TokenStream.ofSource source = streamOf place tokens)
    (short : source.length ≤ limits.maxSourceLength) (derived : Derives (tokens ++ [endToken place]) (.source tree)) :
    Expr.parse source limits = .ok tree ∨
      (limits.maxDepth < tokens.length ∧
        ∃ place, Expr.parse source limits = .error (.invalid ⟨.nestedTooDeeply, place⟩)) := by
  obtain ⟨frame, room, same⟩ := parse_eq short stream
  rw [same]
  by_cases enough : tokens.length ≤ limits.maxDepth.toNat
  · rw [source_complete frame derived room enough]
    exact .inl rfl
  · have complete := source_complete frame derived room (Nat.le_refl _)
    rcases source_within (show limits.maxDepth.toNat ≤ tokens.length by omega) (frame.reader tokens) with
      agrees | ⟨place, exceeded⟩
    · rw [agrees, complete]
      exact .inl rfl
    · rw [exceeded]
      exact .inr ⟨by omega, place, rfl⟩

end Streams

/-- On a source that the lexer cuts into tokens and that is within the limits. -/
theorem parser_recognizes_grammar {source : String} {limits : Limits} {all : List Token}
    (cut : (Lexer.ofSource source).tokenize.1 = .ok all) (short : source.length ≤ limits.maxSourceLength)
    (shallow : ∀ place, Expr.parse source limits ≠ .error (.invalid ⟨.nestedTooDeeply, place⟩)) :
    (∀ tree, Expr.parse source limits = .ok tree ↔ Derives all (.source tree)) ∧
      ∀ tree other, Derives all (.source tree) → Derives all (.source other) → tree = other := by
  obtain ⟨place, tokens, rfl, stream, genuine⟩ := tokenize_ok cut
  refine ⟨fun tree => ⟨derives_of_stream stream short genuine, fun derived => ?_⟩, fun tree other => derives_unique⟩
  rcases parse_of_stream stream short derived with parsed | ⟨_, place, exceeded⟩
  · exact parsed
  · exact absurd exceeded (shallow place)

theorem presence_test_recognized :
    ∃ all, (Lexer.ofSource "has(a.b)").tokenize.1 = .ok all ∧ ("has(a.b)".length : Int) ≤ ({} : Limits).maxSourceLength ∧
      (∀ place, Expr.parse "has(a.b)" {} ≠ .error (.invalid ⟨.nestedTooDeeply, place⟩)) ∧
      Derives all (.source (.select (some (.identifier "a")) "b" true)) := by
  have parsed : Expr.parse "has(a.b)" {} = .ok (.select (some (.identifier "a")) "b" true) := by rfl
  have shallow : ∀ place, Expr.parse "has(a.b)" {} ≠ .error (.invalid ⟨.nestedTooDeeply, place⟩) := by
    rw [parsed]
    exact fun place => nofun
  have short : ("has(a.b)".length : Int) ≤ ({} : Limits).maxSourceLength := by decide
  refine ⟨_, rfl, short, shallow, ?_⟩
  exact ((parser_recognizes_grammar rfl short shallow).1 _).mp parsed

end CommonExpr.Proofs.Recognition

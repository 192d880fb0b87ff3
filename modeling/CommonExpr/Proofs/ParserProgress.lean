import CommonExpr.Proofs.ParserRelation
import CommonExpr.Proofs.Tokenization

/-! The parser only moves forward, a token at a time. So it can return a tree only where
the lexer comes to the end of the source. -/

namespace CommonExpr.Proofs.ParserProgress
open CommonExpr.Parser ParserRelation TokenReader Tokenization

inductive Reaches : Reader → Reader → Prop where
  | here (reader : Reader) : Reaches reader reader
  | step {before middle after : Reader} {token : Token} (advanced : advance before = .ok (token, middle))
      (onward : Reaches middle after) : Reaches before after

theorem Reaches.trans {first second third : Reader} (one : Reaches first second) (two : Reaches second third) :
    Reaches first third := by
  induction one with
  | here _ => exact two
  | step advanced _ ih => exact .step advanced (ih two)

def Moves {α : Type} (parser : Parser α) : Prop :=
  ∀ before value after, parser before = .ok (value, after) → Reaches before after

namespace Moves
variable {α β : Type}

theorem of_still {parser : Parser α} (still : ∀ before value after, parser before = .ok (value, after) → after = before) :
    Moves parser := by
  intro before value after parsed
  rw [still before value after parsed]
  exact .here before

theorem of_failing {parser : Parser α} (failing : ∀ before value after, parser before ≠ .ok (value, after)) : Moves parser :=
  fun before value after parsed => absurd parsed (failing before value after)

theorem bind {parser : Parser α} {next : α → Parser β} (start : Moves parser) (continues : ∀ value, Moves (next value)) :
    Moves (parser >>= next) := by
  intro before result after parsed
  obtain ⟨value, middle, read, continued⟩ := bind_eq_ok.mp parsed
  exact (start before value middle read).trans (continues value middle result after continued)

theorem fail (cause : SyntaxCause) : Moves (Parser.fail cause : Parser α) :=
  of_failing fun _ _ _ => nofun

theorem unexpected : Moves (Parser.unexpected : Parser α) := by
  apply of_failing
  intro before value after
  unfold Parser.unexpected
  split <;> exact nofun

theorem startsField : Moves Parser.startsField := by
  apply of_still
  intro before answer after answered
  unfold Parser.startsField at answered
  split at answered
  · split at answered <;> cases answered
    rfl
  · cases answered
    rfl

theorem startsQualifiedStruct : Moves Parser.startsQualifiedStruct := by
  apply of_still
  intro before answer after answered
  unfold Parser.startsQualifiedStruct at answered
  split at answered
  · split at answered <;> cases answered
    rfl
  · cases answered
    rfl

theorem compositional : Compositional (Alone Moves) where
  bind := bind
  pure _ := of_still fun _ _ _ returned => (pure_eq_ok.mp returned).2.symm
  fail _ := fail _
  broken _ := of_failing fun _ _ _ => nofun
  unexpected := unexpected
  get := of_still fun _ _ _ got => by cases got; rfl
  advance := fun _ _ after advanced => .step advanced (.here after)
  startsField := startsField
  startsQualifiedStruct := startsQualifiedStruct

end Moves

/-- Nothing stands behind what a whole source is read as. -/
theorem source_ends {allowance : Nat} {before after : Reader} {tree : Expr}
    (parsed : source allowance before = .ok (tree, after)) : Reaches before after ∧ after.current.kind = .endOfInput := by
  refine ⟨(Moves.compositional.parametric.source_self (Moves.fail _) allowance).self before tree after parsed, ?_⟩
  have kind_is (reader : Reader) : kind reader = .ok (reader.current.kind, reader) := rfl
  rw [source, bind_of_ok (kind_is before)] at parsed
  split at parsed
  next => obtain ⟨_, _, failed, _⟩ := bind_eq_ok.mp parsed; cases failed
  next =>
    obtain ⟨tree, middle, _, finished⟩ := bind_eq_ok.mp parsed
    rw [bind_of_ok (kind_is middle)] at finished
    split at finished
    next =>
      obtain ⟨_, _, _, failed⟩ := bind_eq_ok.mp finished
      cases failed
    next ends =>
      obtain ⟨rfl, rfl⟩ := pure_eq_ok.mp finished
      exact Decidable.not_not.mp ends

private theorem never_ends {before after : Reader} (reaches : Reaches before after)
    (ordinary : before.current.kind ≠ .endOfInput)
    (breaks : Breaks before.following) : after.current.kind ≠ .endOfInput := by
  induction reaches with
  | here _ => exact ordinary
  | @step before middle after token advanced _ ih =>
    unfold advance at advanced
    generalize before.following = following at advanced breaks
    cases breaks with
    | failed failure => cases advanced
    | more next rest =>
      cases advanced
      exact ih next rest

/-- A source that has a tree is cut into tokens to its end. -/
theorem stream_of_parse {source : String} {limits : Limits} {tree : Expr} (parsed : Expr.parse source limits = .ok tree) :
    source.length ≤ limits.maxSourceLength ∧
      ∃ place tokens, TokenStream.ofSource source = streamOf place tokens ∧ ∀ token ∈ tokens, Genuine token := by
  unfold Expr.parse at parsed
  split at parsed
  next => cases parsed
  next short =>
    refine ⟨Int.not_lt.mp short, ?_⟩
    rcases scanFrom_cases (Nat.lt_succ_self (Cursor.ofSource source).rest.length) with breaks | finished
    · change Breaks (TokenStream.ofSource source) at breaks
      generalize TokenStream.ofSource source = stream at breaks parsed
      cases breaks with
      | failed failure => cases parsed
      | @more token rest ordinary breaks =>
        simp only [TokenStream.uncons] at parsed
        split at parsed
        next read =>
          have ends := source_ends read
          exact absurd ends.2 (never_ends ends.1 ordinary breaks)
        next => cases parsed
    · exact finished

end CommonExpr.Proofs.ParserProgress

import CommonExpr.Proofs.TokenReader

/-! The parser sees of a token its kind and its text, and does not see where it stands. It is
put together from few steps. A relation between parsers that holds between each step and
itself, also where the two have tokens that differ in their places, and that sequencing
keeps, holds between all that is put together from related parsers of sub-expressions. -/

namespace CommonExpr.Proofs.ParserParametricity
open CommonExpr.Parser TokenReader

/-- The same token, but for the place where it stands. -/
structure Likewise (token other : Token) : Prop where
  kind : token.kind = other.kind
  text : token.text = other.text

theorem Likewise.refl (token : Token) : Likewise token token :=
  ⟨rfl, rfl⟩

theorem Likewise.literal {token other : Token} (same : Likewise token other) :
    Literal.ofToken? token = Literal.ofToken? other := by
  simp only [Literal.ofToken?, same.kind, same.text]

/-- What sequencing keeps, and what every single step has to itself. What follows the steps
that hand out a token is related for tokens that differ in their places. -/
structure Parametric (Related : {α : Type} → Parser α → Parser α → Prop) : Prop where
  bind {α β : Type} {first second : Parser α} {next other : α → Parser β} (start : Related first second)
    (continues : ∀ value, Related (next value) (other value)) : Related (first >>= next) (second >>= other)
  pure {α : Type} (value : α) : Related (pure value) (pure value)
  fail {α : Type} {cause : SyntaxCause} (plain : cause ≠ .nestedTooDeeply) : Related (fail cause : Parser α) (fail cause)
  broken {α : Type} (cause : Breakdown) : Related (failWith (.broken cause) : Parser α) (failWith (.broken cause))
  unexpected {α : Type} : Related (unexpected : Parser α) unexpected
  steps : Related steps steps
  inspect {α : Type} (first second : Token → Parser α)
    (each : ∀ token other, Likewise token other → Related (first token) (second other)) :
    Related (get >>= fun reader => first reader.current) (get >>= fun reader => second reader.current)
  advance {α : Type} {first second : Token → Parser α}
    (each : ∀ token other, Likewise token other → Related (first token) (second other)) :
    Related (advance >>= first) (advance >>= second)
  startsField : Related startsField startsField
  startsQualifiedStruct : Related startsQualifiedStruct startsQualifiedStruct

/-- A tree is what the source stands for if nothing stands behind it. -/
def finished (tree : Expr) : Parser Expr := do
  if (← kind) ≠ .endOfInput then fail (.trailing (← get).current.text)
  return tree

theorem ite {Related : {α : Type} → Parser α → Parser α → Prop} {α : Type} {condition : Prop} [Decidable condition]
    {first second third fourth : Parser α} (whenTrue : Related first third) (otherwise : Related second fourth) :
    Related (if condition then first else second) (if condition then third else fourth) := by
  split
  · exact whenTrue
  · exact otherwise

namespace Parametric
variable {Related : {α : Type} → Parser α → Parser α → Prop} (law : Parametric Related)
include law

section Steps

theorem kind : Related kind kind := by
  refine law.inspect (fun token => Pure.pure token.kind) (fun token => Pure.pure token.kind) fun token other same => ?_
  rw [same.kind]
  exact law.pure other.kind

theorem accept (expected : TokenKind) : Related (accept expected) (accept expected) :=
  law.bind law.kind fun _ => ite (law.advance fun _ _ _ => law.pure true) (law.pure false)

theorem expect {α : Type} {expected : TokenKind} {expectation : Expectation} {next rest : Token → Parser α}
    (continues : ∀ token other, Likewise token other → Related (next token) (rest other)) :
    Related (expect expected expectation >>= next) (expect expected expectation >>= rest) := by
  simp only [Parser.expect, bind_assoc]
  refine law.bind law.kind fun found => ?_
  split
  · exact law.advance continues
  · simp only [bind_assoc]
    refine law.inspect (fun token => Parser.fail (.expected expectation token.text) >>= next)
      (fun token => Parser.fail (.expected expectation token.text) >>= rest) fun token other same => ?_
    rw [same.text]
    have plain : SyntaxCause.expected expectation other.text ≠ .nestedTooDeeply := by
      intro same
      cases same
    exact law.bind (law.fail plain) fun value => continues value value (.refl value)

theorem expectName (expectation : Expectation) : Related (expectName expectation) (expectName expectation) := by
  refine law.expect fun token other same => ?_
  rw [same.text]
  exact law.pure other.text

theorem nameParts (limit : Nat) : Related (nameParts limit) (nameParts limit) := by
  induction limit with
  | zero => exact law.pure []
  | succ limit ih =>
    refine law.bind (law.accept .dot) fun _ => ite (law.pure []) ?_
    exact law.bind (law.expectName .typeNamePart) fun part => law.bind ih fun parts => law.pure (part :: parts)

end Steps

section Loops
variable {operator? : TokenKind → Option BinaryOperator} {first second : Parser Expr} {α : Type} {item other : Parser α}

theorem chainFrom (related : Related first second) (limit : Nat) :
    ∀ left, Related (chainFrom operator? first limit left) (chainFrom operator? second limit left) := by
  induction limit with
  | zero => exact law.pure
  | succ limit ih =>
    intro left
    refine law.bind law.kind fun found => ?_
    cases operator? found with
    | none => exact law.pure left
    | some operator => exact law.advance fun _ _ _ => law.bind related fun right => ih _

theorem chain (related : Related first second) : Related (chain operator? first) (chain operator? second) :=
  law.bind related fun left => law.bind law.steps fun limit => law.chainFrom related limit left

theorem disjunction (related : Related first second) : Related (disjunction first) (disjunction second) :=
  law.chain <| law.chain <| law.chain <| law.chain <| law.chain related

theorem itemsFrom (related : Related item other) {closing : TokenKind} (limit : Nat) :
    Related (itemsFrom item closing limit) (itemsFrom other closing limit) := by
  induction limit with
  | zero => exact law.pure []
  | succ limit ih =>
    refine law.bind (law.accept .comma) fun _ => ite (law.pure []) (law.bind law.kind fun _ => ite (law.pure []) ?_)
    exact law.bind related fun value => law.bind ih fun values => law.pure (value :: values)

theorem items (related : Related item other) {closing : TokenKind} :
    Related (items item closing) (items other closing) :=
  law.bind law.kind fun _ => ite (law.pure []) <| law.bind related fun value => law.bind law.steps fun limit =>
    law.bind (law.itemsFrom related limit) fun values => law.pure (value :: values)

end Loops

section Operands
variable {first second : Parser Expr}

theorem callArguments (related : Related first second) : Related (callArguments first) (callArguments second) :=
  law.bind (law.items related) fun arguments => law.expect fun _ _ _ => law.pure arguments

theorem listLiteral (related : Related first second) : Related (listLiteral first) (listLiteral second) :=
  law.advance fun _ _ _ => law.bind (law.items related) fun _ => law.expect fun _ _ _ => law.pure _

theorem structField (related : Related first second) : Related (structField first) (structField second) :=
  law.bind (law.expectName _) fun _ => law.expect fun _ _ _ => law.bind related fun _ => law.pure _

theorem mapEntry (related : Related first second) : Related (mapEntry first) (mapEntry second) :=
  law.bind related fun _ => law.expect fun _ _ _ => law.bind related fun _ => law.pure _

theorem braces (related : Related first second) (typeName : Option String) :
    Related (braces first typeName) (braces second typeName) := by
  refine law.advance fun _ _ _ => law.bind (law.accept .rightBrace) fun _ => ite (law.pure _) ?_
  have fields : Related
      (do
        let members ← Parser.items (Parser.structField first) .rightBrace
        let _ ← Parser.expect .rightBrace .structEnd
        return Expr.struct typeName members)
      (do
        let members ← Parser.items (Parser.structField second) .rightBrace
        let _ ← Parser.expect .rightBrace .structEnd
        return Expr.struct typeName members) :=
    law.bind (law.items (law.structField related)) fun _ => law.expect fun _ _ _ => law.pure _
  have entries : Related
      (do
        let pairs ← Parser.items (Parser.mapEntry first) .rightBrace
        let _ ← Parser.expect .rightBrace .mapEnd
        return Expr.map pairs)
      (do
        let pairs ← Parser.items (Parser.mapEntry second) .rightBrace
        let _ ← Parser.expect .rightBrace .mapEnd
        return Expr.map pairs) :=
    law.bind (law.items (law.mapEntry related)) fun _ => law.expect fun _ _ _ => law.pure _
  exact ite (law.bind (law.pure true) fun _ => ite fields entries)
    (law.bind law.startsField fun _ => ite fields entries)

theorem named (related : Related first second) (name : String) : Related (named first name) (named second name) := by
  refine law.bind (law.accept .leftParen) fun _ => ite ?_ (law.bind law.startsQualifiedStruct fun _ => ite ?_ ?_)
  · exact law.bind (law.callArguments related) fun _ => law.pure _
  · exact law.bind law.steps fun limit => law.bind (law.nameParts limit) fun _ => law.braces related _
  · exact law.bind law.kind fun _ => ite (law.braces related _) (law.pure _)

theorem leadingDot (related : Related first second) : Related (leadingDot first) (leadingDot second) :=
  law.bind (law.expectName _) fun _ => law.bind (law.accept .leftParen) fun _ =>
    ite (law.bind (law.callArguments related) fun _ => law.pure _) (law.pure _)

theorem primary (related : Related first second) : Related (primary first) (primary second) := by
  refine law.inspect (operandAt first) (operandAt second) fun token other same => ?_
  unfold operandAt
  rw [same.literal, same.kind, same.text]
  cases Literal.ofToken? other with
  | some literal =>
    refine law.advance fun _ _ _ => ?_
    cases literal with
    | some tree => exact law.pure tree
    | none => exact law.broken _
  | none =>
    cases other.kind
    case leftBracket => exact law.listLiteral related
    case leftBrace => exact law.braces related none
    case leftParen =>
      exact law.advance fun _ _ _ => law.bind related fun _ => law.expect fun _ _ _ => law.pure _
    case dot => exact law.advance fun _ _ _ => law.leadingDot related
    case identifier => exact law.advance fun _ _ _ => law.named related _
    all_goals exact law.unexpected

theorem membersFrom (related : Related first second) (limit : Nat) :
    ∀ operand, Related (membersFrom first limit operand) (membersFrom second limit operand) := by
  induction limit with
  | zero => exact law.pure
  | succ limit ih =>
    intro operand
    refine law.bind (law.accept .dot) fun _ => ite ?_ (law.bind (law.accept .leftBracket) fun _ => ite ?_ (law.pure _))
    · refine law.bind (law.expectName .memberName) fun _ => law.bind (law.accept .leftParen) fun _ => ite ?_ (ih _)
      exact law.bind (law.callArguments related) fun _ => ih _
    · exact law.bind related fun _ => law.expect fun _ _ _ => ih _

theorem member (related : Related first second) : Related (member first) (member second) :=
  law.bind (law.primary related) fun operand => law.bind law.steps fun limit => law.membersFrom related limit operand

theorem unary {deeper further : Parser Expr} (related : Related first second) (beneath : Related deeper further) :
    Related (unary first deeper) (unary second further) := by
  refine law.bind law.kind fun found => ?_
  cases found
  case bang => exact law.advance fun _ _ _ => law.bind beneath fun _ => law.pure _
  case minus => exact law.advance fun _ _ _ => law.bind beneath fun _ => law.pure _
  all_goals exact law.member related

theorem conditional {operand other : Parser Expr} (related : Related first second) (beneath : Related operand other) :
    Related (conditional first operand) (conditional second other) := by
  refine law.bind (law.disjunction beneath) fun _ => law.bind (law.accept .question) fun _ => ite ?_ (law.pure _)
  exact law.bind (law.disjunction beneath) fun _ => law.expect fun _ _ _ => law.bind related fun _ => law.pure _

end Operands

/-- What reads expressions within an allowance is put together from steps and from giving up where
that is used up. -/
theorem nested (exhausted : Related (Parser.fail .nestedTooDeeply : Parser Expr) (Parser.fail .nestedTooDeeply))
    (allowance : Nat) :
    Related (expression allowance) (expression allowance) ∧ Related (operand allowance) (operand allowance) := by
  induction allowance with
  | zero => exact ⟨exhausted, law.unary exhausted exhausted⟩
  | succ allowance ih =>
    have expressions : Related (expression (allowance + 1)) (expression (allowance + 1)) := law.conditional ih.1 ih.2
    exact ⟨expressions, law.unary expressions ih.2⟩

/-- A related parser of expressions makes a related parser of whole sources. -/
theorem source {small large : Nat} (related : Related (expression small) (expression large)) :
    Related (source small) (source large) := by
  have ended (tree : Expr) : Related (finished tree) (finished tree) := by
    refine law.bind law.kind fun _ => ite ?_ (law.pure tree)
    refine law.inspect (fun token => Parser.fail (.trailing token.text) >>= fun _ => Pure.pure tree)
      (fun token => Parser.fail (.trailing token.text) >>= fun _ => Pure.pure tree) fun token other same => ?_
    rw [same.text]
    exact law.bind (law.fail nofun) fun _ => law.pure tree
  refine law.bind law.kind fun _ => ite (law.bind (law.fail nofun) fun _ => ?_) ?_
  · exact law.bind related ended
  · exact law.bind related ended

theorem source_self (exhausted : Related (Parser.fail .nestedTooDeeply : Parser Expr) (Parser.fail .nestedTooDeeply))
    (allowance : Nat) : Related (Parser.source allowance) (Parser.source allowance) :=
  law.source (law.nested exhausted allowance).1

end Parametric
end CommonExpr.Proofs.ParserParametricity

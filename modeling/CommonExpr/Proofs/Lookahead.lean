import CommonExpr.Proofs.Grammar
import CommonExpr.Proofs.TokenReader

/-! How the parser decides between readings: what the first token of an operand makes of
it, whether braces begin with a field, whether a dot continues the name of a struct
type, and whether a call asks for presence. The question about the type takes as many
tokens as its name is long. -/

namespace CommonExpr.Proofs.Lookahead
open CommonExpr.Parser Grammar TokenReader

variable {frame : Frame}

section Operands
variable {inner : Parser Expr} {token : Token} {others : List Token}

theorem primary_of_literal {literal : Expr} (denotes : Literal.ofToken? token = some (some literal)) :
    primary inner (frame.reader (token :: others)) = .ok (literal, frame.reader others) := by
  rw [primary, bind_of_ok get_reader, current_cons, denotes]
  simp only
  rw [bind_of_ok advance_reader]
  rfl

theorem primary_of_bracket (opens : token.kind = .leftBracket) :
    primary inner (frame.reader (token :: others)) = listLiteral inner (frame.reader (token :: others)) := by
  rw [primary, bind_of_ok get_reader, current_cons]
  simp only [Literal.ofToken?, opens]

theorem primary_of_brace (opens : token.kind = .leftBrace) :
    primary inner (frame.reader (token :: others)) = braces inner none (frame.reader (token :: others)) := by
  rw [primary, bind_of_ok get_reader, current_cons]
  simp only [Literal.ofToken?, opens]

theorem primary_of_paren (opens : token.kind = .leftParen) :
    primary inner (frame.reader (token :: others)) = (do
      let tree ← inner
      let _ ← expect .rightParen .groupEnd
      return tree) (frame.reader others) := by
  rw [primary, bind_of_ok get_reader, current_cons]
  simp only [Literal.ofToken?, opens, bind_of_ok advance_reader]

theorem primary_of_dot (dots : token.kind = .dot) :
    primary inner (frame.reader (token :: others)) = leadingDot inner (frame.reader others) := by
  rw [primary, bind_of_ok get_reader, current_cons]
  simp only [Literal.ofToken?, dots, bind_of_ok advance_reader]

theorem primary_of_name (names : token.kind = .identifier) :
    primary inner (frame.reader (token :: others)) = named inner token.text (frame.reader others) := by
  rw [primary, bind_of_ok get_reader, current_cons]
  simp only [Literal.ofToken?, names, bind_of_ok advance_reader]

theorem unary_of_mark {deeper : Parser Expr} {operator : UnaryOperator} (marks : token.kind = mark operator) :
    unary inner deeper (frame.reader (token :: others)) =
      (do return Expr.unary operator (← deeper)) (frame.reader others) := by
  rw [unary, bind_of_ok kind_reader, headKind_cons, marks]
  cases operator <;> exact bind_of_ok advance_reader

theorem unary_of_other {deeper : Parser Expr} {tokens : List Token} (plain : ∀ operator, headKind tokens ≠ mark operator) :
    unary inner deeper (frame.reader tokens) = member inner (frame.reader tokens) := by
  rw [unary, bind_of_ok kind_reader]
  cases found : headKind tokens
  case bang => exact absurd found (plain .not)
  case minus => exact absurd found (plain .negate)
  all_goals rfl

end Operands

theorem startsField_cons {name colon : Token} {rest : List Token} :
    StartsField (name :: colon :: rest) ↔ name.kind = .identifier ∧ colon.kind = .colon := by
  constructor
  · rintro ⟨name, colon, rest, same, kinds⟩
    cases same
    exact kinds
  · exact fun kinds => ⟨name, colon, rest, rfl, kinds⟩

theorem startsField_append {held rest : List Token} {closing : Token} (closes : closing.kind = .rightBrace) :
    StartsField (held ++ closing :: rest) ↔ StartsField held := by
  match held with
  | [] => cases rest <;> simp [StartsField, closes]
  | [name] => simp [StartsField, closes]
  | name :: colon :: others => simp only [List.cons_append, startsField_cons]

theorem startsField_reader (frame : Frame) (tokens : List Token) : ∃ answer : Bool,
    startsField (frame.reader tokens) = .ok (answer, frame.reader tokens) ∧ (answer = true ↔ StartsField tokens) := by
  match tokens with
  | [] => exact ⟨false, rfl, by simp [StartsField]⟩
  | [name] =>
    refine ⟨false, ?_, by simp [StartsField]⟩
    by_cases named : name.kind = .identifier <;> simp [startsField, Frame.reader, streamOf, named]
    rfl
  | name :: colon :: rest =>
    by_cases named : name.kind = .identifier
    · refine ⟨decide (colon.kind = .colon), ?_, ?_⟩
      · simp [startsField, Frame.reader, streamOf, TokenStream.uncons, named]
      · simp [startsField_cons, named]
    · exact ⟨false, by simp [startsField, Frame.reader, named], by simp [startsField_cons, named]⟩

/-- A dotted name and a brace behind it. -/
inductive LeadsToBrace : List Token → Prop where
  | opening {name brace : Token} {rest : List Token} (names : name.kind = .identifier) (opens : brace.kind = .leftBrace) :
      LeadsToBrace (name :: brace :: rest)
  | dotted {name dot : Token} {rest : List Token} (names : name.kind = .identifier) (dots : dot.kind = .dot)
      (leads : LeadsToBrace rest) : LeadsToBrace (name :: dot :: rest)

/-- The dots and names behind a first name, up to a brace: what makes a struct of it. -/
def ContinuesType (tokens : List Token) : Prop :=
  ∃ dot rest, tokens = dot :: rest ∧ dot.kind = .dot ∧ LeadsToBrace rest

theorem continuesType_cons {dot : Token} {rest : List Token} :
    ContinuesType (dot :: rest) ↔ dot.kind = .dot ∧ LeadsToBrace rest := by
  constructor
  · rintro ⟨dot, rest, same, continues⟩
    cases same
    exact continues
  · exact fun continues => ⟨dot, rest, rfl, continues⟩

private theorem isQualifiedStruct_stream (place : Location) : ∀ tokens : List Token, ∃ answer : Bool,
    isQualifiedStruct (streamOf place tokens) = .ok answer ∧ (answer = true ↔ LeadsToBrace tokens)
  | [] => ⟨false, rfl, by simp only [Bool.false_eq_true, false_iff]; intro leads; cases leads⟩
  | [name] => by
    refine ⟨false, ?_, by simp only [Bool.false_eq_true, false_iff]; intro leads; cases leads⟩
    simp [streamOf, isQualifiedStruct]
  | name :: mark :: rest => by
    by_cases named : name.kind = .identifier
    · by_cases opens : mark.kind = .leftBrace
      · exact ⟨true, by simp [streamOf, isQualifiedStruct, named, opens], by simpa using .opening named opens⟩
      · by_cases dots : mark.kind = .dot
        · obtain ⟨answer, answered, meaning⟩ := isQualifiedStruct_stream place rest
          refine ⟨answer, by simpa [streamOf, isQualifiedStruct, named, dots] using answered, meaning.trans ?_⟩
          refine ⟨.dotted named dots, fun leads => ?_⟩
          cases leads with
          | opening _ brace => exact absurd brace opens
          | dotted _ _ later => exact later
        · refine ⟨false, by simp [streamOf, isQualifiedStruct, named, opens, dots], ?_⟩
          simp only [Bool.false_eq_true, false_iff]
          intro leads
          cases leads with
          | opening _ brace => exact opens brace
          | dotted _ dot _ => exact dots dot
    · refine ⟨false, by simp [streamOf, isQualifiedStruct, named], ?_⟩
      simp only [Bool.false_eq_true, false_iff]
      intro leads
      cases leads with
      | opening names _ => exact named names
      | dotted names _ _ => exact named names

theorem startsQualifiedStruct_reader (frame : Frame) (tokens : List Token) : ∃ answer : Bool,
    startsQualifiedStruct (frame.reader tokens) = .ok (answer, frame.reader tokens) ∧
      (answer = true ↔ ContinuesType tokens) := by
  cases tokens with
  | nil => exact ⟨false, rfl, by simp [ContinuesType]⟩
  | cons dot rest =>
    by_cases dots : dot.kind = .dot
    · obtain ⟨answer, answered, meaning⟩ := isQualifiedStruct_stream frame.place rest
      refine ⟨answer, by simp [startsQualifiedStruct, Frame.reader, dots, answered], meaning.trans ?_⟩
      simp [continuesType_cons, dots]
    · exact ⟨false, by simp [startsQualifiedStruct, Frame.reader, dots], by simp [continuesType_cons, dots]⟩

/-- A dotted name of which a brace follows is read to its end. -/
theorem nameParts_reads {used rest : List Token} {parts : List String} {dot brace : Token}
    (name : Derives used (.typeName parts)) (dots : dot.kind = .dot) (opens : brace.kind = .leftBrace) (limit : Nat)
    (enough : used.length < limit) :
    nameParts limit (frame.reader (dot :: (used ++ brace :: rest))) = .ok (parts, frame.reader (brace :: rest)) := by
  generalize shape : Phrase.typeName parts = phrase at name
  induction name generalizing parts dot limit with
  | simpleName names =>
    cases shape
    match limit, enough with
    | limit + 2, _ =>
      have stops : nameParts (limit + 1) (frame.reader (brace :: rest)) = .ok ([], frame.reader (brace :: rest)) := by
        rw [nameParts, bind_of_ok (accept_of_other (by simp [opens]))]
        rfl
      rw [nameParts, bind_of_ok (accept_of_kind dots)]
      simp only [Bool.not_true, Bool.false_eq_true, ↓reduceIte, List.singleton_append]
      rw [bind_of_ok (expectName_of_kind names), bind_of_ok stops]
      rfl
  | dottedName names between _ ih =>
    cases shape
    match limit, enough with
    | limit + 1, enough =>
      rw [nameParts, bind_of_ok (accept_of_kind dots)]
      simp only [Bool.not_true, Bool.false_eq_true, ↓reduceIte, List.cons_append]
      rw [bind_of_ok (expectName_of_kind names), bind_of_ok (ih between limit (by simp at enough; omega) rfl)]
      rfl
  | _ => cases shape

theorem leadsToBrace_of_typeName {used rest : List Token} {parts : List String} {brace : Token}
    (name : Derives used (.typeName parts)) (opens : brace.kind = .leftBrace) : LeadsToBrace (used ++ brace :: rest) := by
  generalize shape : Phrase.typeName parts = phrase at name
  induction name generalizing parts with
  | simpleName names => exact .opening names opens
  | dottedName names dots _ ih =>
    cases shape
    exact .dotted names dots (ih rfl)
  | _ => cases shape

theorem LeadsToBrace.typeName {tokens : List Token} (leads : LeadsToBrace tokens) :
    ∃ used brace rest parts, tokens = used ++ brace :: rest ∧ brace.kind = .leftBrace ∧
      Derives used (.typeName parts) := by
  induction leads with
  | @opening name brace rest names opens => exact ⟨[name], brace, rest, [name.text], rfl, opens, .simpleName names⟩
  | @dotted name dot rest names dots _ ih =>
    obtain ⟨used, brace, behind, parts, rfl, opens, derived⟩ := ih
    exact ⟨name :: dot :: used, brace, behind, name.text :: parts, rfl, opens, .dottedName names dots derived⟩

theorem presenceTest_cases (function : String) (arguments : List Expr) :
    (∃ operand field, function = "has" ∧ arguments = [.select operand field false] ∧
        presenceTest function arguments = .select operand field true) ∨
      (¬ AsksPresence function arguments ∧ presenceTest function arguments = .call none function arguments false) := by
  unfold presenceTest
  split
  next operand field => exact .inl ⟨operand, field, rfl, rfl, rfl⟩
  next other =>
    refine .inr ⟨?_, rfl⟩
    rintro ⟨has, operand, field, only⟩
    exact other operand field has only

theorem presenceTest_ordinary {function : String} {arguments : List Expr} (ordinary : ¬ AsksPresence function arguments) :
    presenceTest function arguments = .call none function arguments false := by
  rcases presenceTest_cases function arguments with ⟨operand, field, has, only, _⟩ | ⟨_, call⟩
  · exact absurd ⟨has, operand, field, only⟩ ordinary
  · exact call

end CommonExpr.Proofs.Lookahead

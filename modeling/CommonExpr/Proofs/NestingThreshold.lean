import CommonExpr.Proofs.NestingAllowance
import CommonExpr.Proofs.ParserFootprint
import CommonExpr.Proofs.ParserProgress
import CommonExpr.Proofs.SourceTokens
import Mathlib.Data.Nat.Find

/-! What the limits do to a source. Each expression inside another one starts behind a token
of its own, so that an allowance above the number of tokens is never used up. A larger
allowance only takes away failures for nesting. So every source has a threshold: from there on
the allowance does not matter, and below it the source is nested too deeply. -/

namespace CommonExpr.Proofs.NestingThreshold
open CommonExpr.Parser ParserParametricity ParserRelation NestingAllowance ParserProgress TokenReader TokenFootprint
open ParserFootprint SourceTokens

section Ahead

/-- How many tokens there are from the one at hand up to the end. -/
def ahead (reader : Reader) : Nat :=
  reader.following.length + if reader.current.kind = .endOfInput then 0 else 1

variable {before after : Reader} {token : Token} {stream behind : TokenStream}

private theorem ahead_of_uncons (closed : Sealed stream) (given : stream.uncons = .ok (token, behind)) (bound : Nat) :
    ahead ⟨token, behind, bound⟩ ≤ stream.length := by
  unfold ahead
  cases stream with
  | more first rest =>
    cases given
    dsimp only [TokenStream.length]
    split <;> omega
  | finished ending =>
    obtain ⟨rfl, rfl⟩ := Prod.mk.inj (Except.ok.inj given)
    rw [if_pos (show ending.kind = .endOfInput from closed)]
    exact Nat.le_refl _
  | failed failure => cases given

/-- Moving on takes a token away from those ahead, unless it is the end. -/
theorem ahead_of_reaches (reaches : Reaches before after) (closed : Sealed before.following) :
    Sealed after.following ∧ ahead after ≤ ahead before := by
  induction reaches with
  | here reader => exact ⟨closed, Nat.le_refl _⟩
  | @step before middle after token advanced _ ih =>
    obtain ⟨_, given, _⟩ := advance_eq_ok.mp advanced
    obtain ⟨kept, fewer⟩ := ih (closed.uncons given)
    refine ⟨kept, Nat.le_trans fewer (Nat.le_trans (ahead_of_uncons closed given _) ?_)⟩
    unfold ahead
    omega

end Ahead

section Lasting
variable {α β : Type} {room spare : Nat} {parser : Parser α} {before : Reader}

/-- Whatever uses up its allowance from here on has at least so many tokens ahead. -/
def Spares (room : Nat) (parser : Parser α) (before : Reader) : Prop :=
  ∀ place, parser before = .error (.invalid ⟨.nestedTooDeeply, place⟩) → room ≤ ahead before

/-- The parser only moves forward, and has tokens ahead wherever its allowance is used up. -/
structure Lasts (room : Nat) (parser : Parser α) : Prop where
  moves : Moves parser
  spares : ∀ before, Sealed before.following → Spares room parser before

/-- What consumes a token first has one token more ahead. That token does not matter to it, so
that the end can stand in its place. -/
theorem Lasts.opening {rest : Parser β} (lasts : Lasts room (Parser.advance >>= fun _ => rest))
    (closed : Sealed before.following) (ordinary : before.current.kind ≠ .endOfInput) :
    Spares (room + 1) (Parser.advance >>= fun _ => rest) before := by
  obtain ⟨current, following, bound⟩ := before
  intro place failed
  have ended : (Parser.advance >>= fun _ => rest) ⟨endToken current.location, following, bound⟩ =
      .error (.invalid ⟨.nestedTooDeeply, place⟩) := by
    rw [← failed]
    change Except.bind (Parser.advance _) _ = Except.bind (Parser.advance _) _
    unfold Parser.advance
    cases following.uncons <;> rfl
  have many : room ≤ following.length := lasts.spares ⟨endToken current.location, following, bound⟩ closed place ended
  rw [ahead, if_neg ordinary]
  exact Nat.succ_le_succ many

namespace Lasts

theorem weaken (lasts : Lasts room parser) (less : spare ≤ room) : Lasts spare parser :=
  ⟨lasts.moves, fun before closed place failed => Nat.le_trans less (lasts.spares before closed place failed)⟩

theorem of_plain (moves : Moves parser)
    (plain : ∀ before place, parser before ≠ .error (.invalid ⟨.nestedTooDeeply, place⟩)) : Lasts room parser :=
  ⟨moves, fun before _ place failed => absurd failed (plain before place)⟩

/-- With no room asked for, the allowance may be used up anywhere. -/
theorem exhausted : Lasts 0 (fail .nestedTooDeeply : Parser α) :=
  ⟨.fail _, fun _ _ _ _ => Nat.zero_le _⟩

theorem bind {next : α → Parser β} (first : Lasts room parser) (rest : ∀ value, Lasts room (next value)) :
    Lasts room (parser >>= next) := by
  refine ⟨first.moves.bind fun value => (rest value).moves, ?_⟩
  intro before closed place failed
  have reports : Reports (parser >>= next) before before (.error (.invalid ⟨.nestedTooDeeply, place⟩)) := failed
  rcases reports_bind_cases reports with ⟨failure, same, early⟩ | ⟨value, middle, read, late⟩
  · cases same
    exact first.spares before closed place early
  · obtain ⟨kept, fewer⟩ := ahead_of_reaches (first.moves before value middle read) closed
    exact Nat.le_trans ((rest value).spares middle kept place late) fewer

theorem unexpected : Lasts room (Parser.unexpected : Parser α) := by
  apply of_plain .unexpected
  intro before place failed
  unfold Parser.unexpected at failed
  split at failed <;> cases failed

theorem advance : Lasts room Parser.advance := by
  apply of_plain Moves.compositional.advance
  intro before place failed
  unfold Parser.advance at failed
  split at failed <;> cases failed

theorem startsField : Lasts room Parser.startsField := by
  apply of_plain .startsField
  intro before place failed
  unfold Parser.startsField at failed
  split at failed
  · split at failed <;> cases failed
  · cases failed

theorem startsQualifiedStruct : Lasts room Parser.startsQualifiedStruct := by
  apply of_plain .startsQualifiedStruct
  intro before place failed
  unfold Parser.startsQualifiedStruct at failed
  split at failed
  · split at failed <;> cases failed
  · cases failed

theorem compositional (room : Nat) : Compositional (Alone (Lasts room)) where
  bind := bind
  pure value := of_plain (Moves.compositional.pure value) fun _ _ => nofun
  fail plain := by
    apply of_plain (.fail _)
    intro before place failed
    cases failed
    exact plain rfl
  broken cause := of_plain (Moves.compositional.broken cause) fun _ _ => nofun
  unexpected := unexpected
  get := of_plain Moves.compositional.get fun _ _ => nofun
  advance := advance
  startsField := startsField
  startsQualifiedStruct := startsQualifiedStruct

/-- Behind a token that is taken, one token less need be ahead. -/
theorem accept_then {expected : TokenKind} {taken passed : Parser β} (ordinary : expected ≠ .endOfInput)
    (behind : Lasts room taken) (here : Lasts (room + 1) passed) :
    Lasts (room + 1) (accept expected >>= fun found => if found then taken else passed) := by
  have law := (compositional room).parametric
  have whole : Lasts room (accept expected >>= fun found => if found then taken else passed) :=
    Alone.self <| law.bind (law.accept expected) fun _ => ite behind (here.weaken (Nat.le_succ room))
  refine ⟨whole.moves, ?_⟩
  intro before closed
  by_cases found : before.current.kind = expected
  · have shape : (accept expected >>= fun found => if found then taken else passed) before =
        (Parser.advance >>= fun _ => taken) before := by
      rw [accept, bind_assoc, bind_of_ok (show kind before = .ok (before.current.kind, before) from rfl), if_pos found,
        bind_assoc]
      rfl
    have opened : Lasts room (Parser.advance >>= fun _ => taken) := Alone.self <| law.advance fun _ _ _ => behind
    intro place failed
    exact opened.opening closed (found ▸ ordinary) place (shape ▸ failed)
  · have shape : (accept expected >>= fun found => if found then taken else passed) before = passed before := by
      rw [accept, bind_assoc, bind_of_ok (show kind before = .ok (before.current.kind, before) from rfl), if_neg found]
      rfl
    intro place failed
    exact here.spares before closed place (shape ▸ failed)

section Operands
variable {inner deeper operand : Parser Expr}

theorem operandAt (lasts : Lasts room inner) (closed : Sealed before.following) :
    Spares (room + 1) (operandAt inner before.current) before := by
  have law := (compositional room).parametric
  have above := (compositional (room + 1)).parametric
  unfold TokenReader.operandAt
  cases Literal.ofToken? before.current with
  | some literal =>
    refine (Alone.self <| above.advance fun _ _ _ => ?_).spares before closed
    cases literal with
    | some tree => exact above.pure tree
    | none => exact above.broken _
  | none =>
    cases kind : before.current.kind
    case leftBracket => exact (law.listLiteral lasts).self.opening closed (kind ▸ nofun)
    case leftBrace => exact (law.braces lasts none).self.opening closed (kind ▸ nofun)
    case leftParen =>
      refine Lasts.opening ?_ closed (kind ▸ nofun)
      refine Alone.self <| law.advance fun _ _ _ => law.bind lasts fun _ => ?_
      exact law.expect fun _ _ _ => law.pure _
    case dot =>
      refine Lasts.opening ?_ closed (kind ▸ nofun)
      exact Alone.self <| law.advance fun _ _ _ => law.leadingDot lasts
    case identifier =>
      refine Lasts.opening ?_ closed (kind ▸ nofun)
      exact Alone.self <| law.advance fun _ _ _ => law.named lasts _
    all_goals exact above.unexpected.spares before closed

theorem primary (lasts : Lasts room inner) : Lasts (room + 1) (primary inner) :=
  ⟨(Moves.compositional.parametric.primary lasts.moves).self, fun _ closed => lasts.operandAt closed⟩

theorem membersFrom (lasts : Lasts room inner) (limit : Nat) (tree : Expr) :
    Lasts (room + 1) (membersFrom inner limit tree) := by
  have law := (compositional room).parametric
  cases limit with
  | zero => exact (compositional _).pure tree
  | succ limit =>
    refine accept_then nofun ?_ (accept_then nofun ?_ ((compositional _).pure tree))
    · refine Alone.self <| law.bind (law.expectName _) fun _ => law.bind (law.accept _) fun _ =>
        ite (law.bind (law.callArguments lasts) fun _ => ?_) ?_
      all_goals exact law.membersFrom lasts limit _
    · exact Alone.self <| law.bind lasts fun position => law.expect fun _ _ _ =>
        law.membersFrom lasts limit (Expr.index tree position)

theorem member (lasts : Lasts room inner) : Lasts (room + 1) (member inner) := by
  have law := (compositional (room + 1)).parametric
  exact Alone.self <| law.bind lasts.primary fun tree => law.bind law.steps fun limit => lasts.membersFrom limit tree

theorem unary (lasts : Lasts room inner) (beneath : Lasts room deeper) : Lasts (room + 1) (unary inner deeper) := by
  have law := (compositional room).parametric
  refine ⟨(Moves.compositional.parametric.unary lasts.moves beneath.moves).self, ?_⟩
  intro before closed
  have signed (operator : UnaryOperator) (ordinary : before.current.kind ≠ .endOfInput) :
      Spares (room + 1) (Parser.advance >>= fun _ => deeper >>= fun tree => pure (Expr.unary operator tree)) before := by
    refine Lasts.opening ?_ closed ordinary
    exact Alone.self <| law.advance fun _ _ _ => law.bind beneath fun tree => law.pure (Expr.unary operator tree)
  have plain := lasts.member.spares before closed
  intro place failed
  rw [Parser.unary, bind_of_ok (show Parser.kind before = .ok (before.current.kind, before) from rfl)] at failed
  cases kind : before.current.kind
  all_goals rw [kind] at failed
  case bang => exact signed .not (by simp [kind]) place failed
  case minus => exact signed .negate (by simp [kind]) place failed
  all_goals exact plain place failed

/-- The first operand stands where the expression does, the last part behind a mark. -/
theorem conditional (lasts : Lasts room inner) (beneath : Lasts (room + 1) operand) :
    Lasts (room + 1) (conditional inner operand) := by
  have law := (compositional room).parametric
  have above := (compositional (room + 1)).parametric
  have whole : Alone (Lasts (room + 1)) (Parser.conditional inner operand) (Parser.conditional inner operand) := by
    refine above.bind (above.disjunction beneath) fun _ => accept_then nofun ?_ (above.pure _)
    refine Alone.self <| law.bind (law.disjunction (beneath.weaken (Nat.le_succ room))) fun _ => ?_
    exact law.expect fun _ _ _ => law.bind lasts fun _ => law.pure _
  exact whole.self

/-- An operand may use up its whole allowance and then still read a token. -/
theorem nested (allowance : Nat) :
    Lasts allowance (expression allowance) ∧ Lasts (allowance + 1) (Parser.operand allowance) := by
  induction allowance with
  | zero => exact ⟨exhausted, unary exhausted exhausted⟩
  | succ allowance ih =>
    have expressions : Lasts (allowance + 1) (expression (allowance + 1)) := ih.1.conditional ih.2
    exact ⟨expressions, expressions.unary ih.2⟩

theorem source (allowance : Nat) : Lasts allowance (source allowance) :=
  Alone.self <| (compositional allowance).parametric.source (nested allowance).1

end Operands
end Lasts
end Lasting

section Thresholds
variable {α : Type}

/-- From its threshold on the allowance does not matter; below it, it is used up. -/
structure CutsOff (threshold : Nat) (outcome : Except ParseFailure α) (result : Nat → Except ParseFailure α) : Prop where
  plain : ∀ place, outcome ≠ .error (.invalid ⟨.nestedTooDeeply, place⟩)
  enough : ∀ allowance, threshold ≤ allowance → result allowance = outcome
  short : ∀ allowance, allowance < threshold → ∃ place, result allowance = .error (.invalid ⟨.nestedTooDeeply, place⟩)

/-- Where an allowance is not used up, the least such one is the threshold. -/
theorem cutsOff_of_enough {result : Nat → Except ParseFailure α} {enough : Nat}
    (grows : ∀ small large, small ≤ large →
      result small = result large ∨ ∃ place, result small = .error (.invalid ⟨.nestedTooDeeply, place⟩))
    (plain : ∀ place, result enough ≠ .error (.invalid ⟨.nestedTooDeeply, place⟩)) :
    ∃ threshold outcome, CutsOff threshold outcome result := by
  classical
  have some : ∃ allowance, ∀ place, result allowance ≠ .error (.invalid ⟨.nestedTooDeeply, place⟩) := ⟨enough, plain⟩
  refine ⟨Nat.find some, result (Nat.find some), Nat.find_spec some, ?_, ?_⟩
  · intro allowance above
    rcases grows _ _ above with same | ⟨place, exceeded⟩
    · exact same.symm
    · exact absurd exceeded (Nat.find_spec some place)
  · intro allowance below
    simpa using Nat.find_min some below

private theorem source_cutsOff {before : Reader} (closed : Sealed before.following) :
    ∃ threshold outcome, CutsOff threshold outcome fun allowance => source allowance before := by
  have plain (place : Location) : source (ahead before + 1) before ≠ .error (.invalid ⟨.nestedTooDeeply, place⟩) := by
    intro exceeded
    have many := (Lasts.source (ahead before + 1)).spares before closed place exceeded
    exact absurd many (Nat.not_succ_le_self _)
  exact cutsOff_of_enough (fun small large less => source_within less before) plain

end Thresholds

section Sources

/-- What a text is read as within an allowance, whatever its length. -/
def unlimited (text : String) (allowance : Nat) : Except ParseFailure Expr :=
  match (TokenStream.ofSource text).uncons with
  | .error failure => .error (.invalid failure.toSyntaxError)
  | .ok (token, rest) => (source allowance ⟨token, rest, rest.length + 2⟩).map Prod.fst

variable {text : String} {limits : Limits}

private theorem parse_of_short (short : text.length ≤ limits.maxSourceLength) :
    Expr.parse text limits = unlimited text limits.maxDepth.toNat := by
  rw [Expr.parse, if_neg (Int.not_lt.mpr short), unlimited]
  cases (TokenStream.ofSource text).uncons with
  | error failure => rfl
  | ok pair =>
    dsimp only
    cases source limits.maxDepth.toNat ⟨pair.1, pair.2, pair.2.length + 2⟩ <;> rfl

private theorem unlimited_cutsOff (text : String) :
    ∃ threshold outcome, CutsOff threshold outcome (unlimited text) := by
  obtain ⟨tokens, last, written, _⟩ := scanFrom_written (Nat.lt_succ_self (Cursor.ofSource text).rest.length)
  have closed : Sealed (TokenStream.ofSource text) := written.sealed
  unfold unlimited
  cases given : (TokenStream.ofSource text).uncons with
  | error failure =>
    refine ⟨0, .error (.invalid failure.toSyntaxError), ?_, fun _ _ => rfl, fun _ below => absurd below (Nat.not_lt_zero _)⟩
    simp [LexicalError.toSyntaxError]
  | ok pair =>
    obtain ⟨token, rest⟩ := pair
    have behind : Sealed (Reader.mk token rest (rest.length + 2)).following := closed.uncons given
    obtain ⟨threshold, outcome, cuts⟩ := source_cutsOff behind
    refine ⟨threshold, outcome.map Prod.fst, ?_, ?_, ?_⟩
    · intro place exceeded
      cases outcome with
      | ok _ => cases exceeded
      | error failure =>
        cases exceeded
        exact cuts.plain place rfl
    · intro allowance above
      exact congrArg (Except.map Prod.fst) (cuts.enough allowance above)
    · intro allowance below
      obtain ⟨place, exceeded⟩ := cuts.short allowance below
      exact ⟨place, congrArg (Except.map Prod.fst) exceeded⟩

/-- Whatever the text, the limit on nesting decides from which depth on it is read as it is
read without that limit, and the limit on the length whether it is read at all. -/
theorem limits_only_cut_off (text : String) :
    ∃ (threshold : Nat) (outcome : Except ParseFailure Expr),
      (∀ place, outcome ≠ .error (.invalid ⟨.nestedTooDeeply, place⟩)) ∧
      ∀ limits : Limits,
        (text.length ≤ limits.maxSourceLength →
          (threshold ≤ limits.maxDepth → Expr.parse text limits = outcome) ∧
          (0 < limits.maxDepth → limits.maxDepth < threshold →
            ∃ error, Expr.parse text limits = .error (.invalid error) ∧ error.cause = .nestedTooDeeply ∧
              error.name = "ParseError" ∧ error.cause.message = "Expression nested too deeply")) ∧
        (limits.maxSourceLength < text.length →
          ∃ error, Expr.parse text limits = .error (.invalid error) ∧
            error.cause = .sourceTooLong limits.maxSourceLength ∧ error.name = "ParseError" ∧
            error.location.line = 1 ∧ error.location.column = 1) := by
  obtain ⟨threshold, outcome, cuts⟩ := unlimited_cutsOff text
  refine ⟨threshold, outcome, cuts.plain, fun limits => ⟨fun short => ⟨?_, ?_⟩, fun long => ?_⟩⟩
  · intro above
    rw [parse_of_short short]
    exact cuts.enough _ (by omega)
  · intro positive below
    obtain ⟨place, exceeded⟩ := cuts.short limits.maxDepth.toNat (by omega)
    exact ⟨⟨.nestedTooDeeply, place⟩, (parse_of_short short).trans exceeded, rfl, rfl, rfl⟩
  · exact ⟨⟨.sourceTooLong limits.maxSourceLength, .start⟩, if_pos long, rfl, rfl, rfl, rfl⟩

end Sources
end CommonExpr.Proofs.NestingThreshold

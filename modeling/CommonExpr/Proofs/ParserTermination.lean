import CommonExpr.Proofs.NameLookahead
import CommonExpr.Proofs.ParserProgress

/-! The parser ends on every source, and asks the lexer for each token once. No loop uses up its
steps, nothing is asked for behind the end, and whatever starts again inside itself has consumed
a token in between. The lookahead alone goes on with nothing consumed, and moves on by two tokens
each time. The measure is the number of tokens left, and then the rank of the activity. -/

namespace CommonExpr.Proofs.ParserTermination
open ParserActivity ActivityRules NameLookahead ParserProgress ParserSoundness TokenReader Tokenization TokenFootprint
open ParserFootprint
open Grammar (Level)

section Loops

private theorem operator_ordinary {level : Level} {kind : TokenKind} {operator : BinaryOperator}
    (found : table level kind = some operator) : kind ≠ .endOfInput := by
  rintro rfl
  exact sign_ordinary (table_eq_some_iff.mp found)

variable {recorded : Recorded Expr} {plain : Parser Expr}

private theorem chainFrom_follows (level : Level)
    (operand : ∀ limit, Follows limit (rank (.operators level) + 1) recorded plain)
    (steps : Nat) : ∀ left, Follows steps 13 (Recorded.chainFrom level recorded steps left)
      (Parser.chainFrom (table level) plain steps left) := by
  induction steps with
  | zero => exact fun _ => .exhausted
  | succ steps ih =>
    intro left
    refine .within (.operatorLoop level) nofun (.inspect fun tokens reader history stands room below => ?_)
    cases found : table level reader.current.kind with
    | none => exact .ends stands rfl
    | some operator =>
      refine .advance stands (operator_ordinary found) room ?_
      exact (operand steps).fresh.bind fun right => (ih _).fresh

private theorem chain_follows (level : Level)
    (operand : ∀ limit, Follows limit (rank (.operators level) + 1) recorded plain)
    (limit : Nat) :
    Follows limit (rank (.operators level)) (Recorded.chain level recorded) (Parser.chain (table level) plain) := by
  refine .within (.operators level) nofun ((operand limit).bind fun first => .steps fun steps => ?_)
  exact (chainFrom_follows level operand steps first).weaken (by cases level <;> decide)

private theorem disjunction_follows (operand : ∀ limit, Follows limit (rank .unary) recorded plain) (limit : Nat) :
    Follows limit (rank (.operators .disjunction)) (Recorded.disjunction recorded) (Parser.disjunction plain) :=
  chain_follows .disjunction
    (chain_follows .conjunction (chain_follows .relation (chain_follows .sum (chain_follows .product operand)))) limit

variable {α : Type} {bound : Nat} {item : Recorded α} {other : Parser α} {closing : TokenKind}

private theorem itemsFrom_follows (loop : Activity) (apart : ∀ distance, loop ≠ .lookahead distance)
    (single : ∀ limit, Follows limit bound item other) (steps : Nat) :
    Follows steps (rank loop) (Recorded.itemsFrom loop item closing steps) (Parser.itemsFrom other closing steps) := by
  induction steps with
  | zero => exact .exhausted
  | succ steps ih =>
    refine .within loop apart (.accept nofun (.kind fun found => .ite (.pure []) ?_) (.pure []))
    refine (single steps).fresh.bind fun first => ?_
    exact ih.fresh.bind fun rest => .pure (first :: rest)

private theorem items_follows (loop : Activity) (apart : ∀ distance, loop ≠ .lookahead distance)
    (inside : bound ≤ rank loop)
    (single : ∀ limit, Follows limit bound item other) (limit : Nat) :
    Follows limit bound (Recorded.items loop item closing) (Parser.items other closing) := by
  refine .kind fun found => .ite (.pure []) ((single limit).bind fun first => .steps fun steps => ?_)
  exact ((itemsFrom_follows loop apart single steps).weaken inside).bind fun rest => .pure (first :: rest)

end Loops

section Operands

private theorem literal_ordinary {token : Token} {literal : Option Expr}
    (denotes : Literal.ofToken? token = some literal) :
    token.kind ≠ .endOfInput := by
  intro ends
  rw [Literal.ofToken?, ends] at denotes
  cases denotes

private theorem unexpected_fails (reader : Reader) :
    ∃ failure, (Parser.unexpected : Parser Expr) reader = .error failure := by
  unfold Parser.unexpected
  split <;> exact ⟨_, rfl⟩

variable {recorded : Recorded Expr} {plain : Parser Expr}
  (single : ∀ limit, Follows limit (rank .expression) recorded plain)
include single

private theorem elements_follows (closing : TokenKind) (limit : Nat) :
    Follows limit (rank .elements) (Recorded.elements recorded closing) (Parser.items plain closing) :=
  .within .elements nofun (items_follows .elementLoop nofun (by decide) single limit)

private theorem callArguments_follows (limit : Nat) :
    Follows limit (rank .arguments) (Recorded.callArguments recorded) (Parser.callArguments plain) :=
  .within .arguments nofun <| (elements_follows single .rightParen limit).bind fun arguments =>
    .expect nofun fun _ => .pure arguments

private theorem structField_follows (limit : Nat) :
    Follows limit (rank .field) (Recorded.structField recorded) (Parser.structField plain) := by
  refine .within .field nofun (.expectName fun name => .expect nofun fun _ => ?_)
  exact (single _).fresh.bind fun value => .pure (name, value)

private theorem mapEntry_follows (limit : Nat) :
    Follows limit (rank .entry) (Recorded.mapEntry recorded) (Parser.mapEntry plain) := by
  refine .within .entry nofun ((single limit).bind fun key => .expect nofun fun _ => ?_)
  exact (single _).fresh.bind fun value => .pure (key, value)

private theorem fields_follows (typeName : Option String) (limit : Nat) :
    Follows limit (rank .field) (Recorded.fields recorded typeName) (do
      let members ← Parser.items (Parser.structField plain) .rightBrace
      let _ ← Parser.expect .rightBrace .structEnd
      return Expr.struct typeName members) :=
  (items_follows .fieldLoop nofun (by decide) (structField_follows single) limit).bind fun _ =>
    .expect nofun fun _ => .pure _

private theorem entries_follows (limit : Nat) :
    Follows limit (rank .entry) (Recorded.entries recorded) (do
      let pairs ← Parser.items (Parser.mapEntry plain) .rightBrace
      let _ ← Parser.expect .rightBrace .mapEnd
      return Expr.map pairs) :=
  (items_follows .entryLoop nofun (by decide) (mapEntry_follows single) limit).bind fun _ =>
    .expect nofun fun _ => .pure _

variable {tokens : Nat} {reader : Reader} {history : List Event}

private theorem listLiteral_conforms (stands : Stands tokens reader history)
    (ordinary : reader.current.kind ≠ .endOfInput)
    (below : Below (rank .list) history) :
    Conforms tokens (Recorded.listLiteral recorded) (Parser.listLiteral plain) reader history := by
  refine .within (.advance (stands.enter below trivial) ordinary (Nat.lt_succ_self _) ?_)
  exact (elements_follows single .rightBracket _).fresh.bind fun _ => .expect nofun fun _ => .pure _

private theorem braces_conforms (stands : Stands tokens reader history) (ordinary : reader.current.kind ≠ .endOfInput)
    (below : Below (rank .braces) history) (typeName : Option String) :
    Conforms tokens (Recorded.braces recorded typeName) (Parser.braces plain typeName) reader history := by
  refine .within (.advance (stands.enter below trivial) ordinary (Nat.lt_succ_self _) ?_)
  have held (isStruct : Bool) : Follows (remaining reader) 0
      (if isStruct = true then Recorded.fields recorded typeName else Recorded.entries recorded)
      (if isStruct = true then _ else _) :=
    .ite (fields_follows single typeName _).fresh (entries_follows single _).fresh
  exact .accept nofun (.pure _) (.ite (.pure _) (.ite (.bind (.pure true) held) (startsField_follows.bind held)))

private theorem leadingDot_follows (limit : Nat) :
    Follows limit 0 (Recorded.leadingDot recorded) (Parser.leadingDot plain) :=
  .expectName fun _ => .accept nofun ((callArguments_follows single _).fresh.bind fun _ => .pure _) (.pure _)

private theorem named_follows (name : String) (limit : Nat) :
    Follows limit 0 (Recorded.named recorded name) (Parser.named plain name) := by
  refine .accept nofun ((callArguments_follows single _).fresh.bind fun _ => .pure _) ?_
  intro tokens reader history stands room below
  refine .bind (startsQualifiedStruct_follows tokens reader history stands room (below.mono (Nat.zero_le _))) ?_
  intro qualified middle read further leads
  have below := leads.below below
  cases qualified with
  | true =>
    obtain ⟨rfl, dots, answered⟩ := startsQualifiedStruct_true read
    change Conforms tokens (Recorded.qualifiedName >>= fun parts => Recorded.braces recorded (some _))
      (Parser.steps >>= fun steps => Parser.nameParts steps >>= fun parts => Parser.braces plain (some _)) middle _
    -- The name is an activity of its own, so its steps are taken together.
    rw [← bind_assoc]
    refine .bind (qualifiedName_follows limit tokens middle _ further room (below.mono (Nat.zero_le _))) ?_
    intro parts last named later passed
    have opens : last.current.kind = .leftBrace :=
      nameParts_opens middle.bound middle parts last stands.closed stands.enough dots answered named
    exact braces_conforms single later (by simp [opens]) ((passed.below below).mono (Nat.zero_le _)) _
  | false =>
    refine Follows.inspect (fun tokens reader history stands room below => ?_) tokens middle _ further
      (Nat.lt_of_le_of_lt leads.fewer room) below
    by_cases opens : reader.current.kind = .leftBrace
    · simp only [opens, if_true]
      exact braces_conforms single stands (by simp [opens]) (below.mono (Nat.zero_le _)) _
    · simp only [opens, if_false]
      exact .ends stands rfl

private theorem operandAt_conforms (stands : Stands tokens reader history) (below : Below (rank .list) history) :
    Conforms tokens (Recorded.operandAt recorded reader.current) (TokenReader.operandAt plain reader.current)
      reader history := by
  have room : remaining reader < remaining reader + 1 := Nat.lt_succ_self _
  unfold Recorded.operandAt TokenReader.operandAt
  cases denotes : Literal.ofToken? reader.current with
  | some literal =>
    refine .advance stands (literal_ordinary denotes) room ?_
    cases literal with
    | some tree => exact .pure tree
    | none => exact .failing fun _ => ⟨_, rfl⟩
  | none =>
    cases found : reader.current.kind
    case leftBracket => exact listLiteral_conforms single stands (by simp [found]) below
    case leftBrace => exact braces_conforms single stands (by simp [found]) below none
    case leftParen =>
      refine .advance stands (by simp [found]) room ?_
      exact (single _).fresh.bind fun _ => .expect nofun fun _ => .pure _
    case dot => exact .advance stands (by simp [found]) room (leadingDot_follows single _)
    case identifier => exact .advance stands (by simp [found]) room (named_follows single _ _)
    all_goals exact Follows.failing unexpected_fails tokens reader history stands room below

private theorem primary_follows (limit : Nat) :
    Follows limit (rank .primary) (Recorded.primary recorded) (Parser.primary plain) := by
  refine .within .primary nofun fun tokens reader history stands room below => ?_
  exact .get (operandAt_conforms single stands below)

private theorem membersFrom_follows (steps : Nat) : ∀ operand,
    Follows steps (rank .memberLoop) (Recorded.membersFrom recorded steps operand)
      (Parser.membersFrom plain steps operand) := by
  induction steps with
  | zero => exact fun _ => .exhausted
  | succ steps ih =>
    intro operand
    have goesOn {limit : Nat} (le : limit ≤ steps) (next : Expr) :
        Follows limit 0 (Recorded.membersFrom recorded steps next) (Parser.membersFrom plain steps next) :=
      ((ih next).narrow le).fresh
    refine .within .memberLoop nofun (.accept nofun ?_ (.accept nofun ?_ (.pure operand)))
    · refine .expectName fun name => .accept nofun ?_ (goesOn (by omega) _)
      exact (callArguments_follows single _).fresh.bind fun _ => goesOn (by omega) _
    · exact (single _).fresh.bind fun _ => .expect nofun fun _ => goesOn (by omega) _

private theorem member_follows (limit : Nat) :
    Follows limit (rank .member) (Recorded.member recorded) (Parser.member plain) := by
  refine .within .member nofun ((primary_follows single limit).bind fun operand => .steps fun steps => ?_)
  exact (membersFrom_follows single steps operand).weaken (by decide)

private theorem unary_follows {deeper : Recorded Expr} {further : Parser Expr}
    (beneath : ∀ limit, Follows limit (rank .unary) deeper further) (limit : Nat) :
    Follows limit (rank .unary) (Recorded.unary recorded deeper) (Parser.unary plain further) := by
  refine .within .unary nofun (.inspect fun tokens reader history stands room below => ?_)
  cases found : reader.current.kind
  case bang =>
    refine .advance stands (by simp [found]) room ?_
    exact (beneath _).fresh.bind fun _ => .pure _
  case minus =>
    refine .advance stands (by simp [found]) room ?_
    exact (beneath _).fresh.bind fun _ => .pure _
  all_goals exact member_follows single limit tokens reader history stands room below

private theorem conditional_follows {operand : Recorded Expr} {other : Parser Expr}
    (operands : ∀ limit, Follows limit (rank .unary) operand other) (limit : Nat) :
    Follows limit (rank (.operators .disjunction)) (Recorded.conditional recorded operand)
      (Parser.conditional plain other) := by
  refine (disjunction_follows operands limit).bind fun condition => .accept nofun ?_ (.pure condition)
  refine (disjunction_follows operands _).fresh.bind fun _ => .expect nofun fun _ => ?_
  exact (single _).fresh.bind fun _ => .pure _

end Operands

section Sources

private theorem nested (allowance : Nat) :
    (∀ limit, Follows limit (rank .expression) (Recorded.expression allowance) (Parser.expression allowance)) ∧
      ∀ limit, Follows limit (rank .unary) (Recorded.operand allowance) (Parser.operand allowance) := by
  have exhausted (limit : Nat) : Follows limit (rank .expression)
      (Recorded.within .expression (Recorded.fail .nestedTooDeeply)) (Parser.fail .nestedTooDeeply : Parser Expr) :=
    .within .expression nofun (.fail .nestedTooDeeply)
  induction allowance with
  | zero => exact ⟨exhausted, unary_follows exhausted fun _ => .fail .nestedTooDeeply⟩
  | succ allowance ih =>
    have expressions (limit : Nat) : Follows limit (rank .expression) (Recorded.expression (allowance + 1))
        (Parser.expression (allowance + 1)) :=
      .within .expression nofun (conditional_follows ih.1 ih.2 limit)
    exact ⟨expressions, unary_follows expressions ih.2⟩

private theorem source_follows (allowance limit : Nat) :
    Follows limit (rank .expression) (Recorded.source allowance) (Parser.source allowance) := by
  have whole : Follows limit (rank .expression)
      (do
        let tree ← Recorded.expression allowance
        if (← Recorded.kind) ≠ .endOfInput then Recorded.fail (.trailing (← get).current.text)
        return tree)
      (do
        let tree ← Parser.expression allowance
        if (← Parser.kind) ≠ .endOfInput then Parser.fail (.trailing (← get).current.text)
        return tree) := by
    refine ((nested allowance).1 limit).bind fun tree => .kind fun _ => .ite ?_ (.pure tree)
    intro tokens reader history stands room below
    exact .get ((Follows.fail _).bind (fun _ => .pure tree) tokens reader history stands room below)
  exact .kind fun _ => .ite (.bind (.fail .empty) fun _ => whole) whole

private theorem closed_of_breaks {stream : TokenStream} (breaks : Breaks stream) : Closed stream := by
  induction breaks with
  | failed failure => trivial
  | more ordinary _ ih => exact ⟨ordinary, ih⟩

private theorem closed_streamOf {place : Location} {tokens : List Token} (genuine : ∀ token ∈ tokens, Genuine token) :
    Closed (streamOf place tokens) := by
  induction tokens with
  | nil => rfl
  | cons token others ih =>
    obtain ⟨first, rest⟩ := List.forall_mem_cons.mp genuine
    exact ⟨first.ordinary, ih rest⟩

private theorem closed_ofSource (source : String) : Closed (TokenStream.ofSource source) := by
  rcases scanFrom_cases (Nat.lt_succ_self (Cursor.ofSource source).rest.length) with
    breaks | ⟨place, tokens, stream, genuine⟩
  · exact closed_of_breaks breaks
  · change TokenStream.ofSource source = streamOf place tokens at stream
    rw [stream]
    exact closed_streamOf genuine

/-- The first token is asked for before anything else is done. -/
theorem stands_at_start {stream rest : TokenStream} {token : Token} (closed : Closed stream)
    (given : stream.uncons = .ok (token, rest)) : Stands stream.length ⟨token, rest, rest.length + 2⟩ [.next] := by
  have orderly : Orderly stream.length [.next] := ⟨Nat.zero_le _, trivial⟩
  cases stream with
  | more first others =>
    cases given
    have left : remaining ⟨token, rest, rest.length + 2⟩ = rest.length + 1 := remaining_of_ordinary closed.1
    exact ⟨orderly, closed.2, by rw [left]; exact Nat.add_comm _ _, by rw [left]; exact Nat.lt_succ_self _⟩
  | finished ending =>
    cases given
    have left : remaining ⟨token, .finished token, 2⟩ = 0 := if_pos closed
    exact ⟨orderly, closed, by rw [TokenStream.length, left]; rfl, Nat.lt_of_le_of_lt (Nat.le_of_eq left) (Nat.succ_pos _)⟩
  | failed failure => cases given

end Sources

section Runs

/-- Of the activities that go on before these events, at most so many inner ones are left in them. -/
def Inside : Nat → List Event → Prop
  | _, [] => True
  | depth, .enter _ :: later => Inside (depth + 1) later
  | 0, .leave _ :: _ => False
  | depth + 1, .leave _ :: later => Inside depth later
  | depth, .next :: later | depth, .peek _ :: later | depth, .stall :: later => Inside depth later

/-- How the parse of a source with so many tokens before its end goes. -/
structure Economical (tokens : Nat) (events : List Event) : Prop where
  /-- Every loop comes to its end. -/
  unstalled : .stall ∉ events
  next_within : ∀ before after, events = before ++ .next :: after → before.count .next ≤ tokens
  peek_within : ∀ before distance after, events = before ++ .peek distance :: after →
    0 < distance ∧ before.count .next + distance ≤ tokens + 1
  /-- Between an activity and the same one inside it a token is consumed, and so in each iteration of a
  loop that goes on. -/
  progress : ∀ before activity between after,
    events = before ++ .enter activity :: (between ++ .enter activity :: after) → Inside 0 between → .next ∈ between
  /-- The lookahead goes on two tokens further at a time, both of them seen, and not behind the end. -/
  lookahead : ∀ before distance after, events = before ++ .enter (.lookahead distance) :: after →
    before.count .next + distance ≤ tokens + 1 ∧ (distance = 1 ∨ ∃ nearer, distance = nearer + 2 ∧
      [.enter (.lookahead nearer), .peek nearer, .peek (nearer + 1)] <:+ before)

/-- What goes on and has consumed no token goes on inside later activities, if these consume none. -/
theorem pending_inside {activity : Activity} {between : List Event} : ∀ history inner outer,
    pending history = inner ++ activity :: outer → Inside inner.length between → .next ∉ between →
    activity ∈ pending (between.reverse ++ history) := by
  -- By induction on the later events, with the activities that were entered in them as the inner ones.
  induction between with
  | nil =>
    intro history inner outer same _ _
    simp [same]
  | cons event between ih =>
    intro history inner outer same inside unread
    rw [List.mem_cons, not_or] at unread
    obtain ⟨other, unread⟩ := unread
    rw [List.reverse_cons, List.append_assoc]
    cases event with
    | next => exact absurd rfl other
    | peek _ => exact ih (.peek _ :: history) inner outer same inside unread
    | stall => exact ih (.stall :: history) inner outer same inside unread
    | enter deeper =>
      exact ih (.enter deeper :: history) (deeper :: inner) outer (congrArg (deeper :: ·) same) inside unread
    | leave _ =>
      cases inner with
      | nil => exact absurd inside id
      | cons _ inner => exact ih (.leave _ :: history) inner outer (congrArg List.tail same) inside unread

private theorem economical_of_orderly {tokens : Nat} {events : List Event} (orderly : Orderly tokens events.reverse) :
    Economical tokens events := by
  have allowed {before after : List Event} {event : Event} (split : events = before ++ event :: after) :
      Allowed tokens before.reverse event := by
    rw [split, List.reverse_append, List.reverse_cons, List.append_assoc] at orderly
    exact orderly.allowed
  refine ⟨?_, ?_, ?_, ?_, ?_⟩
  · intro stalls
    obtain ⟨before, after, split⟩ := List.append_of_mem stalls
    exact allowed split
  · intro before after split
    have asked := allowed split
    rwa [Allowed, List.count_reverse] at asked
  · intro before distance after split
    have asked := allowed split
    rwa [Allowed, List.count_reverse] at asked
  · intro before activity between after split inside
    have entered := (@allowed (before ++ .enter activity :: between) after (.enter activity) (by simp [split])).1
    rw [List.reverse_append, List.reverse_cons, List.append_assoc] at entered
    refine Classical.byContradiction fun unread => ?_
    exact Nat.lt_irrefl _ (entered activity (pending_inside _ [] _ rfl inside unread))
  · intro before distance after split
    have reached := (allowed split).2
    rw [Reached, List.count_reverse] at reached
    refine reached.imp_right (.imp_right ?_)
    rintro ⟨nearer, earlier, same, shape⟩
    refine ⟨nearer, same, earlier.reverse, ?_⟩
    rw [← List.reverse_reverse before, shape]
    simp

/-- The parser, as its recorded form, ends on every source. It asks for each token once and for none
behind the end, and only the lookahead goes on in the same activity without a token consumed. -/
theorem parse_economical (source : String) (limits : Limits) :
    (record source limits).2 = Expr.parse source limits ∧
      Economical (TokenStream.ofSource source).length (record source limits).1 ∧
      ∀ tree, Expr.parse source limits = .ok tree →
        (record source limits).1.count .next = (TokenStream.ofSource source).length + 1 := by
  unfold record Expr.parse
  split
  next => exact ⟨rfl, economical_of_orderly trivial, nofun⟩
  next =>
    have closed := closed_ofSource source
    generalize TokenStream.ofSource source = stream at closed
    cases given : stream.uncons with
    | error failure => exact ⟨rfl, economical_of_orderly ⟨Nat.zero_le _, trivial⟩, nofun⟩
    | ok pair =>
      obtain ⟨token, rest⟩ := pair
      have start := stands_at_start closed given
      have conforms := source_follows limits.maxDepth.toNat _ _ _ [.next] start (Nat.lt_succ_self _) nofun
      have came := conforms.outcome
      have orderly := conforms.orderly
      have stands := conforms.stands
      rcases ran : Recorded.source limits.maxDepth.toNat ⟨token, rest, rest.length + 2⟩ [.next] with ⟨outcome, events⟩
      rw [ran] at came orderly stands
      subst came
      dsimp only
      rw [ran]
      have economical : Economical stream.length events.reverse := by
        apply economical_of_orderly
        rwa [List.reverse_reverse]
      cases read : Parser.source limits.maxDepth.toNat ⟨token, rest, rest.length + 2⟩ with
      | error failure => exact ⟨rfl, economical, nofun⟩
      | ok pair =>
        obtain ⟨tree, after⟩ := pair
        refine ⟨rfl, economical, fun _ _ => ?_⟩
        have counted := (stands tree after read).counted
        rw [remaining, if_pos (source_ends read).2] at counted
        rwa [List.count_reverse]

/-- A dotted name is looked over to its brace before it is read. -/
theorem dotted_name_read_once :
    Expr.parse "x.b.c\x7b\x7d" {} = .ok (.struct (some "x.b.c") []) ∧
      .enter (.lookahead 3) ∈ (record "x.b.c\x7b\x7d" {}).1 ∧ (record "x.b.c\x7b\x7d" {}).1.count .next = 8 := by
  have parsed : Expr.parse "x.b.c\x7b\x7d" {} = .ok (.struct (some "x.b.c") []) := by rfl
  refine ⟨parsed, by decide +kernel, ?_⟩
  have length : (TokenStream.ofSource "x.b.c\x7b\x7d").length = 7 := by decide +kernel
  have once := (parse_economical "x.b.c\x7b\x7d" {}).2.2 _ parsed
  rwa [length] at once

end Runs
end CommonExpr.Proofs.ParserTermination

import CommonExpr.Proofs.Lookahead

/-! What it means that a parser only depends on the tokens it consumes and the one that it
stops at. Sequences and loops of such parsers are such parsers, and so are the basic steps. -/

namespace CommonExpr.Proofs.TokenFootprint
open CommonExpr.Parser TokenReader Lookahead

section Streams

/-- The stream comes to an end of its kind, if it comes to an end. -/
def Sealed : TokenStream → Prop
  | .more _ rest => Sealed rest
  | .finished ending => ending.kind = .endOfInput
  | .failed _ => True

/-- The lexer fails behind the tokens of the stream. -/
inductive EndsIn (failure : LexicalError) : TokenStream → Prop where
  | failed : EndsIn failure (.failed failure)
  | more {token : Token} {rest : TokenStream} (ends : EndsIn failure rest) : EndsIn failure (.more token rest)

/-- Consuming these tokens leads from the one reader to the other. -/
inductive Consumes : List Token → Reader → Reader → Prop where
  | none (reader : Reader) : Consumes [] reader reader
  | more {token : Token} {used : List Token} {before middle after : Reader} (advanced : advance before = .ok (token, middle))
      (rest : Consumes used middle after) : Consumes (token :: used) before after

/-- The stream begins with these tokens. -/
def Holds : List Token → TokenStream → Prop
  | [], _ => True
  | token :: rest, stream => ∃ behind, stream.uncons = .ok (token, behind) ∧ Holds rest behind

variable {token : Token} {used more words : List Token} {before middle after : Reader} {stream behind : TokenStream}
  {failure : LexicalError}

theorem Sealed.uncons (closed : Sealed stream) (given : stream.uncons = .ok (token, behind)) : Sealed behind := by
  cases stream <;> cases given <;> exact closed

theorem endsIn_of_uncons (failed : stream.uncons = .error failure) : EndsIn failure stream := by
  cases stream <;> cases failed
  exact .failed

theorem EndsIn.uncons (ends : EndsIn failure behind) (given : stream.uncons = .ok (token, behind)) : EndsIn failure stream := by
  cases stream <;> cases given
  · exact .more ends
  · cases ends

theorem advance_eq_ok : advance before = .ok (token, after) ↔
    token = before.current ∧ before.following.uncons = .ok (after.current, after.following) ∧ after.bound = before.bound := by
  unfold advance
  obtain ⟨current, following, bound⟩ := after
  split
  next given =>
    rw [given]
    simp only [Except.ok.injEq, Prod.mk.injEq, Reader.mk.injEq]
    grind
  next failed => simp [failed]

namespace Consumes

theorem single (advanced : advance before = .ok (token, after)) : Consumes [token] before after :=
  .more advanced (.none after)

theorem append (first : Consumes used before middle) (second : Consumes more middle after) :
    Consumes (used ++ more) before after := by
  induction first with
  | none _ => exact second
  | more advanced _ ih => exact .more advanced (ih second)

theorem split (whole : Consumes (used ++ more) before after) :
    ∃ middle, Consumes used before middle ∧ Consumes more middle after := by
  induction used generalizing before with
  | nil => exact ⟨before, .none before, whole⟩
  | cons token used ih =>
    cases whole with
    | more advanced rest =>
      obtain ⟨middle, first, second⟩ := ih rest
      exact ⟨middle, .more advanced first, second⟩

theorem bound (consumed : Consumes used before after) : after.bound = before.bound := by
  induction consumed with
  | none _ => rfl
  | more advanced _ ih => exact ih.trans (advance_eq_ok.mp advanced).2.2

theorem sealed (consumed : Consumes used before after) (closed : Sealed before.following) : Sealed after.following := by
  induction consumed with
  | none _ => exact closed
  | more advanced _ ih => exact ih (closed.uncons (advance_eq_ok.mp advanced).2.1)

theorem endsIn (consumed : Consumes used before after) (ends : EndsIn failure after.following) :
    EndsIn failure before.following := by
  induction consumed with
  | none _ => exact ends
  | more advanced _ ih => exact (ih ends).uncons (advance_eq_ok.mp advanced).2.1

theorem head (consumed : Consumes used before after) : (used ++ [after.current]).head? = some before.current := by
  cases consumed with
  | none _ => rfl
  | more advanced _ => rw [(advance_eq_ok.mp advanced).1]; rfl

/-- Readers with the same tokens before them have the same one at hand. -/
theorem current_eq {other last : Reader} (here : Consumes used before after) (there : Consumes used other last)
    (same : last.current = after.current) : other.current = before.current := by
  have first := here.head
  rw [← same, there.head] at first
  exact Option.some.inj first

theorem holds (consumed : Consumes (token :: used) before after) : Holds (used ++ [after.current]) before.following := by
  induction used generalizing token before with
  | nil =>
    cases consumed with
    | more advanced rest =>
      cases rest
      exact ⟨_, (advance_eq_ok.mp advanced).2.1, trivial⟩
  | cons next used ih =>
    cases consumed with
    | @more _ _ _ middle _ advanced rest =>
      have first : next = middle.current := Option.some.inj rest.head
      exact ⟨middle.following, first ▸ (advance_eq_ok.mp advanced).2.1, ih rest⟩

theorem holds_words {words : List Token} (consumed : Consumes used before after)
    (shape : used ++ [after.current] = token :: words) : Holds words before.following := by
  cases used with
  | nil =>
    cases shape
    trivial
  | cons first used =>
    cases shape
    exact consumed.holds

end Consumes

end Streams

section Outcomes
variable {α β : Type} {parser : Parser α} {next : α → Parser β} {before middle after stop : Reader} {value : α}
  {failure : ParseFailure} {outcome : Except ParseFailure β}

/-- What a parser comes to at a reader. Only a value comes with a reader behind it. -/
def Reports (parser : Parser α) (before after : Reader) : Except ParseFailure α → Prop
  | .ok value => parser before = .ok (value, after)
  | .error failure => parser before = .error failure

theorem Reports.congr {other : Parser α} {elsewhere : Reader} {outcome : Except ParseFailure α}
    (reports : Reports parser before after outcome) (same : parser before = other elsewhere) :
    Reports other elsewhere after outcome := by
  cases outcome <;> exact same.symm.trans reports

theorem Reports.bind (first : Reports parser before middle (.ok value)) (second : Reports (next value) middle after outcome) :
    Reports (parser >>= next) before after outcome := by
  cases outcome <;> exact (bind_of_ok first).trans second

theorem bind_of_error (first : parser before = .error failure) : (parser >>= next) before = .error failure := by
  change Except.bind (parser before) (fun pair => next pair.1 pair.2) = .error failure
  rw [first]
  rfl

theorem reports_bind_cases (whole : Reports (parser >>= next) before after outcome) :
    (∃ failure, outcome = .error failure ∧ parser before = .error failure) ∨
      ∃ value middle, Reports parser before middle (.ok value) ∧ Reports (next value) middle after outcome := by
  cases first : parser before with
  | error failure =>
    cases outcome with
    | ok result => cases (bind_of_error first).symm.trans whole
    | error other =>
      cases (bind_of_error first).symm.trans whole
      exact .inl ⟨failure, rfl, rfl⟩
  | ok pair =>
    refine .inr ⟨pair.1, pair.2, first, ?_⟩
    cases outcome <;> exact (bind_of_ok first).symm.trans whole

/-- The parser finds its allowance used up, or needs a token where the lexer fails. -/
inductive GivesUp (before : Reader) : Except ParseFailure α → Prop where
  | nested (place : Location) : GivesUp before (.error (.invalid ⟨.nestedTooDeeply, place⟩))
  | starved {failure : LexicalError} (ends : EndsIn failure before.following) :
      GivesUp before (.error (.invalid failure.toSyntaxError))

/-- Where an outcome stands: a value where the parser stopped, an error at the token at hand. -/
def StandsAt (stop after : Reader) : Except ParseFailure α → Prop
  | .ok _ => stop = after
  | .error (.invalid error) => error.isLexical = false ∧ error.location = stop.current.location
  | .error (.broken _) => True

/-- The claim is true of each reader that has the same tokens before it, and behind them
the same one at hand. Loops have more steps there than there are tokens to consume. -/
structure Footprint (used : List Token) (before stop : Reader) (claim : Reader → Reader → Prop) : Prop where
  consumes : Consumes used before stop
  repeats : ∀ other last, Sealed other.following → Consumes used other last → last.current = stop.current →
    used.length < before.bound → used.length < other.bound → claim other last

theorem Footprint.append {used more : List Token} {first second whole : Reader → Reader → Prop}
    (one : Footprint used before middle first) (two : Footprint more middle stop second)
    (joins : ∀ other between last, first other between → second between last → whole other last) :
    Footprint (used ++ more) before stop whole := by
  refine ⟨one.consumes.append two.consumes, fun other last closed consumed same here there => ?_⟩
  obtain ⟨between, front, back⟩ := consumed.split
  have bounds := one.consumes.bound
  have others := front.bound
  rw [List.length_append] at here there
  refine joins other between last ?_ ?_
  · exact one.repeats other between closed front (two.consumes.current_eq back same) (by omega) (by omega)
  · exact two.repeats between last (front.sealed closed) back same (by omega) (by omega)

/-- A claim about what is read behind a token becomes one about what is read with it. -/
theorem Footprint.prepend {used : List Token} {stop : Reader} {claim whole : Reader → Reader → Prop}
    (advanced : advance before = .ok (before.current, middle)) (behind : Footprint used middle stop claim)
    (joins : ∀ other between last, other.current = before.current → advance other = .ok (other.current, between) →
      between.current = middle.current → claim between last → whole other last) :
    Footprint (before.current :: used) before stop whole := by
  refine ⟨.more advanced behind.consumes, fun other last closed consumed same here there => ?_⟩
  cases consumed with
  | @more _ _ _ between _ further rest =>
    obtain ⟨first, given, bound⟩ := advance_eq_ok.mp further
    rw [List.length_cons] at here there
    have bounds := (advance_eq_ok.mp advanced).2.2
    refine joins other between last first.symm (first ▸ further) (behind.consumes.current_eq rest same) ?_
    exact behind.repeats between last (closed.uncons given) rest same (by omega) (by omega)

end Outcomes

section Laws

/-- A family of parsers, by the steps of a loop, that only depend on the tokens they consume
and the one they stop at, as long as the steps are more than those tokens but for some slack.
Where tokens have to be consumed, they are. -/
def Settled (must : Reader → Prop) (slack steps : Nat) (family : Nat → Parser α) : Prop :=
  ∀ before after outcome, Sealed before.following → Reports (family steps) before after outcome →
    GivesUp before outcome ∨ ∃ used stop, StandsAt stop after outcome ∧ (must before → used ≠ []) ∧
      Footprint used before stop fun other last =>
        ∀ more, used.length < steps + slack → used.length < more + slack → Reports (family more) other last outcome

/-- A parser that only depends on the tokens it consumes and the one it stops at. -/
def Local (must : Reader → Prop) (parser : Parser α) : Prop :=
  ∀ slack steps, Settled must slack steps fun _ => parser

abbrev never : Reader → Prop := fun _ => False
abbrev always : Reader → Prop := fun _ => True
abbrev atName : Reader → Prop := fun reader => reader.current.kind = .identifier

variable {α β : Type} {must : Reader → Prop} {slack limit : Nat} {parser : Parser α} {family : Nat → Parser α}

theorem GivesUp.retype {before : Reader} {failure : ParseFailure} (gives : GivesUp before (.error failure : Except _ α)) :
    GivesUp before (.error failure : Except _ β) := by
  cases gives with
  | nested place => exact .nested place
  | starved ends => exact .starved ends

theorem GivesUp.earlier {used : List Token} {before middle : Reader} {outcome : Except ParseFailure α}
    (gives : GivesUp middle outcome) (consumed : Consumes used before middle) : GivesUp before outcome := by
  cases gives with
  | nested place => exact .nested place
  | starved ends => exact .starved (consumed.endsIn ends)

theorem StandsAt.retype {stop after other : Reader} {failure : ParseFailure}
    (stands : StandsAt stop after (.error failure : Except _ α)) : StandsAt stop other (.error failure : Except _ β) := by
  cases failure <;> exact stands

/-- A parser that returns a value stops where it returns. -/
theorem read_stands {before after : Reader} {value : α} {claim : List Token → Reader → Prop}
    (settled : GivesUp before (.ok value : Except ParseFailure α) ∨
      ∃ used stop, StandsAt stop after (.ok value : Except ParseFailure α) ∧ claim used stop) : ∃ used, claim used after := by
  rcases settled with ⟨⟨⟩⟩ | ⟨used, stop, stands, holds⟩
  cases (show stop = after from stands)
  exact ⟨used, holds⟩

namespace Settled

theorem weaken {less : Reader → Prop} (settled : Settled must slack limit family) (implies : ∀ before, less before → must before) :
    Settled less slack limit family := by
  intro before after outcome closed reports
  refine (settled before after outcome closed reports).imp_right fun ⟨used, stop, stands, filled, footprint⟩ => ?_
  exact ⟨used, stop, stands, fun asked => filled (implies before asked), footprint⟩

/-- Tokens that are consumed before a loop goes on make up for the step it takes. -/
private theorem sequence {next : α → Nat → Parser β} {spare : Nat} (first : Settled must slack limit family)
    (rest : ∀ value, Settled never spare limit (next value))
    (paid : slack = spare ∨ ((∀ before, must before) ∧ slack ≤ spare + 1)) :
    Settled must slack limit fun more => family more >>= fun value => next value more := by
  intro before after outcome closed reports
  rcases reports_bind_cases reports with ⟨failure, rfl, failed⟩ | ⟨value, middle, read, continued⟩
  · refine (first before before (.error failure) closed failed).imp GivesUp.retype ?_
    rintro ⟨used, stop, stands, filled, footprint⟩
    refine ⟨used, stop, stands.retype, filled, footprint.consumes, ?_⟩
    intro other last closed consumed same here there more enough room
    exact bind_of_error (footprint.repeats other last closed consumed same here there more enough room)
  · obtain ⟨used, filled, footprint⟩ := read_stands (first before middle (.ok value) closed read)
    refine (rest value middle after outcome (footprint.consumes.sealed closed) continued).imp
      (fun gives => gives.earlier footprint.consumes) ?_
    rintro ⟨further, stop, stands, -, behind⟩
    have spent : slack ≤ spare + used.length := by
      rcases paid with rfl | ⟨always, less⟩
      · exact Nat.le_add_right ..
      · have positive := List.length_pos_iff.mpr (filled (always before))
        omega
    refine ⟨used ++ further, stop, stands, fun asked => List.append_ne_nil_of_left_ne_nil (filled asked) _, ?_⟩
    refine footprint.append behind fun other between last one two more enough room => ?_
    rw [List.length_append] at enough room
    exact (one more (by omega) (by omega)).bind (two more (by omega) (by omega))

theorem bind {next : α → Nat → Parser β} (first : Settled must slack limit family)
    (rest : ∀ value, Settled never slack limit (next value)) :
    Settled must slack limit fun more => family more >>= fun value => next value more :=
  sequence first rest (.inl rfl)

theorem after {next : α → Nat → Parser β} (first : Settled always slack limit fun _ => parser)
    (rest : ∀ value, Settled never (slack - 1) limit (next value)) :
    Settled must slack limit fun more => parser >>= fun value => next value more :=
  (sequence first rest (.inr ⟨fun _ => trivial, by omega⟩)).weaken fun _ _ => trivial

/-- One step of a loop. -/
theorem succ (step : Settled must 1 limit fun more => family (more + 1)) : Settled must 0 (limit + 1) family := by
  intro before after outcome closed reports
  refine (step before after outcome closed reports).imp_right fun ⟨used, stop, stands, filled, footprint⟩ => ?_
  refine ⟨used, stop, stands, filled, footprint.consumes, ?_⟩
  intro other last closed consumed same here there more enough room
  cases more with
  | zero => cases room
  | succ more => exact footprint.repeats other last closed consumed same here there more enough room

theorem inspect (next : Token → Nat → Parser α)
    (each : ∀ token, Settled (fun before => must before ∧ before.current = token) slack limit (next token)) :
    Settled must slack limit fun more => get >>= fun reader => next reader.current more := by
  intro before after outcome closed reports
  have got (reader : Reader) (more : Nat) : (get >>= fun reader : Reader => next reader.current more) reader =
      next reader.current more reader := rfl
  refine (each before.current before after outcome closed (reports.congr (got before limit))).imp_right ?_
  rintro ⟨used, stop, stands, filled, footprint⟩
  refine ⟨used, stop, stands, fun asked => filled ⟨asked, rfl⟩, footprint.consumes, ?_⟩
  intro other last closed consumed same here there more enough room
  have settled := footprint.repeats other last closed consumed same here there more enough room
  refine settled.congr ?_
  rw [← footprint.consumes.current_eq consumed same]
  exact (got other more).symm

theorem kind (next : TokenKind → Nat → Parser α)
    (each : ∀ kind, Settled (fun before => must before ∧ before.current.kind = kind) slack limit (next kind)) :
    Settled must slack limit fun more => Parser.kind >>= fun kind => next kind more :=
  inspect (fun token => next token.kind) fun token =>
    (each token.kind).weaken fun _ ⟨asked, same⟩ => ⟨asked, congrArg Token.kind same⟩

end Settled

namespace Local

/-- For a parser the steps do not matter. -/
theorem intro (settles : ∀ before after outcome, Sealed before.following → Reports parser before after outcome →
      GivesUp before outcome ∨ ∃ used stop, StandsAt stop after outcome ∧ (must before → used ≠ []) ∧
        Footprint used before stop fun other last => Reports parser other last outcome) : Local must parser := by
  intro slack steps before after outcome closed reports
  refine (settles before after outcome closed reports).imp_right fun ⟨used, stop, stands, filled, footprint⟩ => ?_
  exact ⟨used, stop, stands, filled, footprint.consumes, fun other last closed consumed same here there _ _ _ =>
    footprint.repeats other last closed consumed same here there⟩

theorem elim (whole : Local must parser) {before after : Reader} {outcome : Except ParseFailure α}
    (closed : Sealed before.following) (reports : Reports parser before after outcome) :
    GivesUp before outcome ∨ ∃ used stop, StandsAt stop after outcome ∧ (must before → used ≠ []) ∧
      Footprint used before stop fun other last => Reports parser other last outcome := by
  refine (whole 0 before.bound before after outcome closed reports).imp_right ?_
  rintro ⟨used, stop, stands, filled, footprint⟩
  exact ⟨used, stop, stands, filled, footprint.consumes, fun other last closed consumed same here there =>
    footprint.repeats other last closed consumed same here there other.bound here there⟩

theorem weaken {less : Reader → Prop} (whole : Local must parser) (implies : ∀ before, less before → must before) :
    Local less parser :=
  fun slack steps => (whole slack steps).weaken implies

theorem bind {next : α → Parser β} (first : Local must parser) (rest : ∀ value, Local never (next value)) :
    Local must (parser >>= next) :=
  fun slack steps => (first slack steps).bind fun value => rest value slack steps

theorem inspect (next : Token → Parser α)
    (each : ∀ token, Local (fun before => must before ∧ before.current = token) (next token)) :
    Local must (get >>= fun reader => next reader.current) :=
  fun slack steps => .inspect _ fun token => each token slack steps

theorem kind {next : TokenKind → Parser α}
    (each : ∀ kind, Local (fun before => must before ∧ before.current.kind = kind) (next kind)) :
    Local must (Parser.kind >>= next) :=
  fun slack steps => .kind _ fun kind => each kind slack steps

theorem pure (value : α) : Local never (Pure.pure value : Parser α) := by
  refine .intro fun before after outcome _ reports => ?_
  cases outcome with
  | error failure => cases reports
  | ok result =>
    obtain ⟨rfl, rfl⟩ := pure_eq_ok.mp reports
    refine .inr ⟨[], before, rfl, nofun, .none before, fun other last _ consumed _ _ _ => ?_⟩
    cases consumed
    rfl

/-- An error about the token at hand. -/
theorem failing (failure : Token → ParseFailure) (fails : ∀ before, parser before = .error (failure before.current))
    (stands : ∀ before, StandsAt before before (.error (failure before.current) : Except ParseFailure α)) :
    Local never parser := by
  refine .intro fun before after outcome _ reports => ?_
  cases outcome with
  | ok result => cases (fails before).symm.trans reports
  | error other =>
    cases (fails before).symm.trans reports
    refine .inr ⟨[], before, (stands before).retype, nofun, .none before, fun other last _ consumed same _ _ => ?_⟩
    cases consumed
    exact (fails other).trans (by rw [same])

theorem fail {cause : SyntaxCause} (plain : ∀ lexical, cause ≠ .lexical lexical) : Local never (Parser.fail cause : Parser α) := by
  refine failing (fun token => .invalid ⟨cause, token.location⟩) (fun _ => rfl) fun before => ⟨?_, rfl⟩
  cases cause with
  | lexical cause => exact absurd rfl (plain cause)
  | _ => rfl

theorem broken (cause : Breakdown) : Local never (failWith (.broken cause) : Parser α) :=
  failing (fun _ => .broken cause) (fun _ => rfl) fun _ => trivial

theorem unexpected : Local never (Parser.unexpected : Parser α) := by
  refine failing (fun token => .invalid
    ⟨if token.kind = .endOfInput then .unexpectedEnd else .unexpected token.text, token.location⟩) (fun before => ?_) ?_
  · unfold Parser.unexpected
    split <;> rfl
  · intro before
    refine ⟨?_, rfl⟩
    split <;> rfl

theorem nested : Local must (Parser.fail .nestedTooDeeply : Parser α) := by
  refine .intro fun before after outcome _ reports => .inl ?_
  cases outcome with
  | ok value => cases reports
  | error failure =>
    cases reports
    exact .nested _

theorem advance : Local always Parser.advance := by
  refine .intro fun before after outcome _ reports => ?_
  cases outcome with
  | ok token =>
    refine .inr ⟨[token], after, rfl, nofun, .single reports, fun other last _ consumed _ _ _ => ?_⟩
    cases consumed with
    | more advanced rest =>
      cases rest
      exact advanced
  | error failure =>
    have failed : Parser.advance before = .error failure := reports
    unfold Parser.advance at failed
    split at failed
    next => cases failed
    next lexical given =>
      cases failed
      exact .inl (.starved (endsIn_of_uncons given))

theorem expect (expected : TokenKind) (expectation : Expectation) :
    Local (fun before => before.current.kind = expected) (Parser.expect expected expectation) := by
  refine .kind fun kind => ?_
  split
  next => exact advance.weaken fun _ _ => trivial
  next other =>
    refine .inspect (fun token => Parser.fail (.expected expectation token.text)) fun token => ?_
    have plain : Local never (Parser.fail (.expected expectation token.text) : Parser Token) := fail fun _ => nofun
    exact plain.weaken fun _ ⟨⟨asked, same⟩, _⟩ => other (same.symm.trans asked)

theorem steps {loop : Nat → Parser α} (each : ∀ limit, Settled must 0 limit loop) : Local must (Parser.steps >>= loop) := by
  refine .intro fun before after outcome closed reports => ?_
  have given (reader : Reader) : (Parser.steps >>= loop) reader = loop reader.bound reader := rfl
  refine (each before.bound before after outcome closed (reports.congr (given before))).imp_right ?_
  rintro ⟨used, stop, stands, filled, footprint⟩
  refine ⟨used, stop, stands, filled, footprint.consumes, fun other last closed consumed same here there => ?_⟩
  have settled := footprint.repeats other last closed consumed same here there other.bound here there
  exact settled.congr (given other).symm

theorem expectName (expectation : Expectation) : Local atName (Parser.expectName expectation) :=
  (expect .identifier expectation).bind fun token => pure token.text

end Local

private theorem accept_bind (expected : TokenKind) (next : Bool → Parser α) :
    accept expected >>= next = Parser.kind >>= fun kind =>
      if kind = expected then Parser.advance >>= fun _ => next true else next false := by
  simp only [accept, bind_assoc]
  congr 1
  funext kind
  split <;> simp only [bind_assoc, pure_bind]

namespace Settled

theorem of_pure (value : α) : Settled never slack limit fun _ => (Pure.pure value : Parser α) :=
  Local.pure value slack limit

/-- Without steps left no list of tokens is short enough. -/
theorem exhausted {value : α} (ends : family 0 = Pure.pure value) : Settled never 0 0 family := by
  intro before after outcome closed reports
  rw [ends] at reports
  refine ((Local.pure value).elim closed reports).imp_right fun ⟨used, stop, stands, filled, footprint⟩ => ?_
  exact ⟨used, stop, stands, filled, footprint.consumes, fun _ _ _ _ _ _ _ _ enough => absurd enough (Nat.not_lt_zero _)⟩

theorem accept {expected : TokenKind} (next : Bool → Nat → Parser α) (taken : Settled never (slack - 1) limit (next true))
    (left : Settled (fun before => must before ∧ before.current.kind ≠ expected) slack limit (next false)) :
    Settled must slack limit fun more => Parser.accept expected >>= fun accepted => next accepted more := by
  simp only [accept_bind]
  refine .kind (fun kind more =>
    if kind = expected then Parser.advance >>= fun _ => next true more else next false more) fun kind => ?_
  split
  next => exact (after (Local.advance slack limit) fun _ => taken).weaken fun _ asked => asked
  next other => exact left.weaken fun before ⟨asked, same⟩ => ⟨asked, same ▸ other⟩

end Settled

theorem Local.accept {expected : TokenKind} {next : Bool → Parser α} (taken : Local never (next true))
    (left : Local (fun before => must before ∧ before.current.kind ≠ expected) (next false)) :
    Local must (Parser.accept expected >>= next) :=
  fun slack limit => .accept _ (taken _ limit) (left slack limit)

end Laws

section Loops
variable {operator? : TokenKind → Option BinaryOperator} {operand : Parser Expr} {α : Type} {item : Parser α}
  {must : Reader → Prop} {limit : Nat}

/-- What a chain goes on with where a token of the kind is at hand. -/
def chainAt (operator? : TokenKind → Option BinaryOperator) (operand : Parser Expr) (left : Expr) (kind : TokenKind)
    (more : Nat) : Parser Expr :=
  match operator? kind with
  | none => return left
  | some operator => do
    let _ ← advance
    let right ← operand
    chainFrom operator? operand more (.binary operator left right)

private theorem chainFrom_settled (single : Local must operand) (limit : Nat) : ∀ left,
    Settled never 0 limit fun more => chainFrom operator? operand more left := by
  induction limit with
  | zero => exact fun left => .exhausted rfl
  | succ limit ih =>
    intro left
    refine .succ (.kind (chainAt operator? operand left) fun kind => ?_)
    unfold chainAt
    cases operator? kind with
    | none => exact (Settled.of_pure left).weaken fun _ asked => asked.1
    | some operator =>
      refine .after (Local.advance 1 limit) fun _ => ?_
      exact .bind ((single.weaken fun _ => False.elim) 0 limit) fun right => ih _

private theorem chain_local (single : Local must operand) : Local must (chain operator? operand) :=
  single.bind fun left => .steps fun limit => chainFrom_settled single limit left

theorem disjunction_local (single : Local must operand) : Local must (disjunction operand) :=
  chain_local <| chain_local <| chain_local <| chain_local <| chain_local single

private theorem itemsFrom_settled (single : Local must item) {closing : TokenKind} (limit : Nat) :
    Settled never 0 limit fun more => itemsFrom item closing more := by
  induction limit with
  | zero => exact .exhausted rfl
  | succ limit ih =>
    refine .succ (.accept (fun accepted more => if !accepted then return [] else do
      if (← kind) = closing then return []
      let first ← item
      return first :: (← itemsFrom item closing more)) ?_ ((Settled.of_pure []).weaken nofun))
    refine .kind (fun kind more => if kind = closing then return [] else do
      let first ← item
      return first :: (← itemsFrom item closing more)) fun kind => ?_
    split
    next => exact (Settled.of_pure []).weaken nofun
    next =>
      refine .bind ((single.weaken nofun) 0 limit) fun first => ?_
      exact .bind ih fun others => .of_pure (first :: others)

theorem items_local (single : Local atName item) {closing : TokenKind} (ordinary : closing ≠ .identifier) :
    Local atName (items item closing) := by
  refine .kind fun kind => ?_
  split
  next closes => exact (Local.pure []).weaken fun before ⟨names, same⟩ => ordinary (closes ▸ same ▸ names)
  next =>
    refine (single.weaken fun before asked => asked.1).bind fun first => ?_
    exact .steps fun limit => .bind (itemsFrom_settled single limit) fun others => .of_pure (first :: others)

end Loops

end CommonExpr.Proofs.TokenFootprint

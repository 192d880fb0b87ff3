import CommonExpr.Proofs.ParserActivity
import CommonExpr.Proofs.ParserFootprint

/-! What the events of the parser keep to at each step, and rules by which a recorded part of
the parser keeps to it. Activities have ranks: inside an activity another one is entered only
at a higher rank, unless a token was consumed since. -/

namespace CommonExpr.Proofs.ActivityRules
open ParserActivity TokenReader TokenFootprint

section Events

/-- The rank grows along every chain of calls in which no token is consumed. -/
def rank : Activity → Nat
  | .arguments => 1
  | .elements | .field | .entry => 2
  | .expression => 3
  | .operators .disjunction => 4
  | .operators .conjunction => 5
  | .operators .relation => 6
  | .operators .sum => 7
  | .operators .product => 8
  | .unary => 9
  | .member => 10
  | .primary => 11
  | .list | .braces | .qualifiedName => 12
  | .operatorLoop _ | .memberLoop | .elementLoop | .fieldLoop | .entryLoop | .nameLoop => 13
  | .lookahead distance => 14 + distance

/-- The activities that go on behind these events and in which no token was consumed so far,
the innermost one first. The latest event is the first one. -/
def pending : List Event → List Activity
  | [] | .next :: _ => []
  | .enter activity :: before => activity :: pending before
  | .leave _ :: before => (pending before).tail
  | .peek _ :: before | .stall :: before => pending before

/-- Where an iteration of the lookahead may start: not behind the end, and only right after
the iteration two tokens nearer has seen both of these tokens. -/
def Reached (tokens : Nat) (before : List Event) : Activity → Prop
  | .lookahead distance => before.count .next + distance ≤ tokens + 1 ∧
      (distance = 1 ∨ ∃ nearer earlier, distance = nearer + 2 ∧
        before = .peek (nearer + 1) :: .peek nearer :: .enter (.lookahead nearer) :: earlier)
  | _ => True

private theorem reached_of_apart {tokens : Nat} {before : List Event} {activity : Activity}
    (apart : ∀ distance, activity ≠ .lookahead distance) : Reached tokens before activity := by
  cases activity
  case lookahead distance => exact absurd rfl (apart distance)
  all_goals trivial

/-- What may happen in the parse of a source with so many tokens before its end. -/
def Allowed (tokens : Nat) (before : List Event) : Event → Prop
  | .next => before.count .next ≤ tokens
  | .peek distance => 0 < distance ∧ before.count .next + distance ≤ tokens + 1
  | .enter activity => (∀ outer ∈ pending before, rank outer < rank activity) ∧ Reached tokens before activity
  | .leave _ => True
  | .stall => False

def Orderly (tokens : Nat) : List Event → Prop
  | [] => True
  | event :: before => Allowed tokens before event ∧ Orderly tokens before

theorem Orderly.allowed {tokens : Nat} {after before : List Event} {event : Event}
    (orderly : Orderly tokens (after ++ event :: before)) : Allowed tokens before event := by
  induction after with
  | nil => exact orderly.1
  | cons _ _ ih => exact ih orderly.2

end Events

section Readers

/-- How many tokens the lexer has behind the one at hand, the one that ends the source included. -/
def remaining (reader : Reader) : Nat :=
  if reader.current.kind = .endOfInput then 0 else reader.following.length + 1

/-- A token of the end ends the stream and stands nowhere else in it. -/
def Closed : TokenStream → Prop
  | .more token rest => token.kind ≠ .endOfInput ∧ Closed rest
  | .finished ending => ending.kind = .endOfInput
  | .failed _ => True

/-- Every token up to the one at hand was asked for once. -/
structure Stands (tokens : Nat) (reader : Reader) (history : List Event) : Prop where
  orderly : Orderly tokens history
  closed : Closed reader.following
  counted : history.count .next + remaining reader = tokens + 1
  enough : remaining reader < reader.bound

/-- From the one point of a parse to the other each activity that was entered was left again. -/
structure Leads (reader : Reader) (history : List Event) (after : Reader) (events : List Event) : Prop where
  fewer : remaining after ≤ remaining reader
  balanced : pending events = pending history ∨ pending events = []

theorem Leads.refl (reader : Reader) (history : List Event) : Leads reader history reader history :=
  ⟨Nat.le_refl _, .inl rfl⟩

theorem Leads.trans {reader middle after : Reader} {history events last : List Event}
    (first : Leads reader history middle events) (second : Leads middle events after last) :
    Leads reader history after last where
  fewer := Nat.le_trans second.fewer first.fewer
  balanced := by
    rcases second.balanced with same | none
    · rw [same]
      exact first.balanced
    · exact .inr none

/-- Everything that goes on without a token consumed is of a rank below the bound. -/
def Below (bound : Nat) (history : List Event) : Prop :=
  ∀ outer ∈ pending history, rank outer < bound

theorem Below.mono {small large : Nat} {history : List Event} (below : Below small history) (le : small ≤ large) :
    Below large history :=
  fun outer member => Nat.lt_of_lt_of_le (below outer member) le

private theorem below_of_fresh {bound : Nat} {history : List Event} (fresh : pending history = []) :
    Below bound history := by
  intro outer member
  rw [fresh] at member
  cases member

theorem Leads.below {bound : Nat} {reader after : Reader} {history events : List Event}
    (leads : Leads reader history after events) (below : Below bound history) : Below bound events := by
  rcases leads.balanced with same | none
  · intro outer member
    exact below outer (same ▸ member)
  · exact below_of_fresh none

end Readers

/-- At a point of a parse the recorded part does what the parser does, and its events are allowed. -/
structure Conforms (tokens : Nat) (recorded : Recorded α) (parser : Parser α) (reader : Reader)
    (history : List Event) : Prop where
  outcome : (recorded reader history).1 = parser reader
  orderly : Orderly tokens (recorded reader history).2
  stands : ∀ value after, parser reader = .ok (value, after) → Stands tokens after (recorded reader history).2
  leads : ∀ value after, parser reader = .ok (value, after) → Leads reader history after (recorded reader history).2

/-- The recorded part does what the parser does wherever fewer tokens than the limit are left
and activities below the rank go on with no token consumed. -/
def Follows (limit bound : Nat) (recorded : Recorded α) (parser : Parser α) : Prop :=
  ∀ tokens reader history, Stands tokens reader history → remaining reader < limit → Below bound history →
    Conforms tokens recorded parser reader history

section Points
variable {α β : Type} {tokens limit bound : Nat} {reader after : Reader} {history events : List Event} {value : α}
  {recorded : Recorded α} {parser : Parser α} {next : α → Recorded β} {other : α → Parser β} {failure : ParseFailure}

private theorem bind_ok (first : recorded reader history = (.ok (value, after), events)) :
    (recorded >>= next) reader history = next value after events := by
  simp only [bind, StateT.bind, ExceptT.bind, ExceptT.mk, ExceptT.bindCont]
  rw [first]

private theorem bind_error (first : recorded reader history = (.error failure, events)) :
    (recorded >>= next) reader history = (.error failure, events) := by
  simp only [bind, StateT.bind, ExceptT.bind, ExceptT.mk, ExceptT.bindCont]
  rw [first]
  rfl

theorem remaining_of_ordinary (ordinary : reader.current.kind ≠ .endOfInput) :
    remaining reader = reader.following.length + 1 :=
  if_neg ordinary

theorem remaining_advance {token : Token} (ordinary : reader.current.kind ≠ .endOfInput)
    (closed : Closed reader.following) (advanced : Parser.advance reader = .ok (token, after)) :
    remaining after + 1 = remaining reader ∧ Closed after.following := by
  obtain ⟨current, following, bound⟩ := after
  obtain ⟨-, given, -⟩ := advance_eq_ok.mp advanced
  change reader.following.uncons = .ok (current, following) at given
  rw [remaining_of_ordinary ordinary]
  cases stream : reader.following with
  | more first rest =>
    rw [stream] at given closed
    cases given
    rw [remaining_of_ordinary closed.1]
    exact ⟨rfl, closed.2⟩
  | finished ending =>
    rw [stream] at given closed
    cases given
    exact ⟨congrArg (· + 1) (if_pos closed), closed⟩
  | failed failure =>
    rw [stream] at given
    cases given

/-- Every token up to the one that ends the source may be asked for. -/
theorem Stands.reach {ahead : Nat} (stands : Stands tokens reader history) (ordinary : reader.current.kind ≠ .endOfInput)
    (inside : ahead ≤ reader.following.length) : history.count .next + (ahead + 1) ≤ tokens + 1 := by
  have counted := stands.counted
  rw [remaining_of_ordinary ordinary] at counted
  omega

theorem Stands.unread (stands : Stands tokens reader history) (ordinary : reader.current.kind ≠ .endOfInput) :
    history.count .next ≤ tokens :=
  Nat.le_of_succ_le_succ (stands.reach ordinary (Nat.zero_le _))

theorem Stands.consume {token : Token} (stands : Stands tokens reader history)
    (ordinary : reader.current.kind ≠ .endOfInput) (advanced : Parser.advance reader = .ok (token, after)) :
    Stands tokens after (.next :: history) := by
  have step := remaining_advance ordinary stands.closed advanced
  have counted := stands.counted
  have enough := stands.enough
  refine ⟨⟨stands.unread ordinary, stands.orderly⟩, step.2, ?_, ?_⟩
  · rw [List.count_cons_self]
    omega
  · rw [(advance_eq_ok.mp advanced).2.2]
    omega

/-- An event is noted, and the reader stays where it is. -/
theorem Stands.note {event : Event} (stands : Stands tokens reader history) (allowed : Allowed tokens history event)
    (still : event ≠ .next) : Stands tokens reader (event :: history) where
  orderly := ⟨allowed, stands.orderly⟩
  closed := stands.closed
  counted := by
    rw [List.count_cons_of_ne still]
    exact stands.counted
  enough := stands.enough

theorem Stands.peek {ahead : Nat} (stands : Stands tokens reader history) (ordinary : reader.current.kind ≠ .endOfInput)
    (inside : ahead ≤ reader.following.length) : Stands tokens reader (.peek (ahead + 1) :: history) :=
  stands.note ⟨Nat.succ_pos ahead, stands.reach ordinary inside⟩ nofun

theorem Stands.enter {activity : Activity} (stands : Stands tokens reader history) (below : Below (rank activity) history)
    (reached : Reached tokens history activity) : Stands tokens reader (.enter activity :: history) :=
  stands.note ⟨below, reached⟩ nofun

namespace Conforms

theorem ends (stands : Stands tokens reader history) (read : parser reader = .ok (value, reader)) :
    Conforms tokens (Pure.pure value) parser reader history where
  outcome := read.symm
  orderly := stands.orderly
  stands result after same := by
    rw [read] at same
    cases same
    exact stands
  leads result after same := by
    rw [read] at same
    cases same
    exact .refl reader history

theorem of_error (ran : recorded reader history = (.error failure, events)) (read : parser reader = .error failure)
    (orderly : Orderly tokens events) : Conforms tokens recorded parser reader history where
  outcome := by rw [ran, read]
  orderly := by rwa [ran]
  stands value after same := by
    rw [read] at same
    cases same
  leads value after same := by
    rw [read] at same
    cases same

/-- It is enough to look at what is left to do at a later point. -/
theorem resume {rest : Recorded α} {left : Parser α} (ran : recorded reader history = rest after events)
    (read : parser reader = left after) (leads : Leads reader history after events)
    (conforms : Conforms tokens rest left after events) : Conforms tokens recorded parser reader history where
  outcome := by
    rw [ran, read]
    exact conforms.outcome
  orderly := by
    rw [ran]
    exact conforms.orderly
  stands value last same := by
    rw [ran]
    exact conforms.stands value last (read.symm.trans same)
  leads value last same := by
    rw [ran]
    exact leads.trans (conforms.leads value last (read.symm.trans same))

theorem congr {simple : Parser α} (same : parser reader = simple reader)
    (conforms : Conforms tokens recorded simple reader history) : Conforms tokens recorded parser reader history :=
  conforms.resume rfl same (.refl reader history)

theorem failing (stands : Stands tokens reader history) (failed : parser reader = .error failure) :
    Conforms tokens (Recorded.silently parser) parser reader history :=
  of_error (congrArg (·, history) failed) failed stands.orderly

theorem bind (first : Conforms tokens recorded parser reader history)
    (continues : ∀ value after, parser reader = .ok (value, after) → Stands tokens after (recorded reader history).2 →
      Leads reader history after (recorded reader history).2 →
      Conforms tokens (next value) (other value) after (recorded reader history).2) :
    Conforms tokens (recorded >>= next) (parser >>= other) reader history := by
  have came := first.outcome
  have orderly := first.orderly
  have stands := first.stands
  have leads := first.leads
  rcases ran : recorded reader history with ⟨outcome, events⟩
  rw [ran] at came orderly stands leads continues
  subst came
  cases read : parser reader with
  | error failure =>
    rw [read] at ran
    exact of_error (bind_error ran) (bind_of_error read) orderly
  | ok pair =>
    obtain ⟨value, middle⟩ := pair
    rw [read] at ran
    have step := leads value middle read
    exact (continues value middle read (stands value middle read) step).resume (bind_ok ran) (bind_of_ok read) step

/-- What a part does that only looks at the reader is what the rest does with the answer. -/
theorem look {question : Parser α} {next : α → Recorded β} {parser : Parser β}
    (asked : question reader = .ok (value, reader)) (rest : Conforms tokens (next value) parser reader history) :
    Conforms tokens (Recorded.silently question >>= next) parser reader history := by
  have ran : Recorded.silently question reader history = (.ok (value, reader), history) := by
    rw [Recorded.silently, asked]
    rfl
  exact rest.resume (bind_ok ran) rfl (.refl reader history)

theorem get {next : Reader → Recorded β} {other : Reader → Parser β}
    (rest : Conforms tokens (next reader) (other reader) reader history) :
    Conforms tokens (MonadState.get >>= next) (MonadState.get >>= other) reader history := by
  have ran : (MonadState.get >>= next : Recorded β) reader history = next reader reader history := rfl
  have read : (MonadState.get >>= other : Parser β) reader = other reader reader := rfl
  exact rest.resume ran read (.refl reader history)

theorem advance_self (stands : Stands tokens reader history) (ordinary : reader.current.kind ≠ .endOfInput) :
    Conforms tokens Recorded.advance Parser.advance reader history where
  outcome := rfl
  orderly := ⟨stands.unread ordinary, stands.orderly⟩
  stands _ _ advanced := stands.consume ordinary advanced
  leads _ _ advanced :=
    have step := remaining_advance ordinary stands.closed advanced
    ⟨by omega, .inr rfl⟩

/-- Behind a token that is consumed any activity may be entered. -/
theorem advance {next : Token → Recorded β} {other : Token → Parser β} (stands : Stands tokens reader history)
    (ordinary : reader.current.kind ≠ .endOfInput) (room : remaining reader < limit)
    (rest : Follows (limit - 1) 0 (next reader.current) (other reader.current)) :
    Conforms tokens (Recorded.advance >>= next) (Parser.advance >>= other) reader history := by
  refine (advance_self stands ordinary).bind fun token after advanced further _ => ?_
  have step := remaining_advance ordinary stands.closed advanced
  rw [(advance_eq_ok.mp advanced).1]
  exact rest tokens after _ further (by omega) (below_of_fresh rfl)

/-- A parser that asks for a token ahead fails as the lexer does, and goes on from what is seen there. -/
theorem peek {ahead : Nat} {next : TokenKind → Recorded α} (stands : Stands tokens reader (.peek (ahead + 1) :: history))
    (failed : ∀ failure : LexicalError, (behind ahead reader.following).uncons = .error failure →
      parser reader = .error (.invalid failure.toSyntaxError))
    (seen : ∀ token rest, (behind ahead reader.following).uncons = .ok (token, rest) →
      Conforms tokens (next token.kind) parser reader (.peek (ahead + 1) :: history)) :
    Conforms tokens (Recorded.peek (ahead + 1) >>= next) parser reader history := by
  have ran : Recorded.peek (ahead + 1) reader history =
      (Recorded.kindAt (ahead + 1) reader, .peek (ahead + 1) :: history) := rfl
  rw [Recorded.kindAt, Nat.add_sub_cancel] at ran
  cases given : (behind ahead reader.following).uncons with
  | error failure =>
    rw [given] at ran
    exact of_error (bind_error ran) (failed failure given) stands.orderly
  | ok pair =>
    rw [given] at ran
    exact (seen pair.1 pair.2 given).resume (bind_ok ran) rfl ⟨Nat.le_refl _, .inl rfl⟩

/-- The activity is the innermost one again when its body is over, so leaving it restores what went on. -/
theorem within {activity : Activity} (body : Conforms tokens recorded parser reader (.enter activity :: history)) :
    Conforms tokens (Recorded.within activity recorded) parser reader history := by
  have came := body.outcome
  have orderly := body.orderly
  have stands := body.stands
  have leads := body.leads
  rcases ran : recorded reader (.enter activity :: history) with ⟨outcome, events⟩
  rw [ran] at came orderly stands leads
  subst came
  have entered : Recorded.within activity recorded reader history =
      (recorded >>= fun value => Recorded.note (.leave activity) >>= fun _ => Pure.pure value)
        reader (.enter activity :: history) :=
    rfl
  cases read : parser reader with
  | error failure =>
    rw [read] at ran
    exact of_error (entered.trans (bind_error ran)) read orderly
  | ok pair =>
    obtain ⟨value, after⟩ := pair
    rw [read] at ran
    have left : Recorded.within activity recorded reader history =
        (Pure.pure value : Recorded α) after (.leave activity :: events) :=
      entered.trans (bind_ok ran)
    have returned : parser reader = (Pure.pure value : Parser α) after := read
    have step := leads value after read
    have further : Stands tokens after (.leave activity :: events) := (stands value after read).note trivial nofun
    refine (ends further rfl).resume left returned ⟨step.fewer, ?_⟩
    exact step.balanced.imp (congrArg List.tail) (congrArg List.tail)

end Conforms

end Points

namespace Follows
variable {α β : Type} {limit bound : Nat} {recorded : Recorded α} {parser : Parser α} {next : α → Recorded β}
  {other : α → Parser β}

theorem weaken {small : Nat} (follows : Follows limit bound recorded parser) (le : small ≤ bound) :
    Follows limit small recorded parser :=
  fun tokens reader history stands room below => follows tokens reader history stands room (below.mono le)

/-- Where a token was just consumed, activities of any rank may be entered. -/
theorem fresh (follows : Follows limit bound recorded parser) : Follows limit 0 recorded parser :=
  follows.weaken (Nat.zero_le bound)

theorem narrow {small : Nat} (follows : Follows limit bound recorded parser) (le : small ≤ limit) :
    Follows small bound recorded parser :=
  fun tokens reader history stands room below => follows tokens reader history stands (Nat.lt_of_lt_of_le room le) below

theorem pure (value : α) : Follows limit bound (Pure.pure value) (Pure.pure value) :=
  fun _ _ _ stands _ _ => .ends stands rfl

theorem failing (fails : ∀ reader, ∃ failure, parser reader = .error failure) :
    Follows limit bound (Recorded.silently parser) parser := by
  intro tokens reader history stands _ _
  obtain ⟨failure, failed⟩ := fails reader
  exact .failing stands failed

theorem fail (cause : SyntaxCause) : Follows limit bound (Recorded.fail cause : Recorded α) (Parser.fail cause) :=
  failing fun _ => ⟨_, rfl⟩

theorem bind (first : Follows limit bound recorded parser)
    (continues : ∀ value, Follows limit bound (next value) (other value)) :
    Follows limit bound (recorded >>= next) (parser >>= other) := by
  intro tokens reader history stands room below
  refine (first tokens reader history stands room below).bind fun value after _ further leads => ?_
  exact continues value tokens after _ further (Nat.lt_of_le_of_lt leads.fewer room) (leads.below below)

theorem exhausted : Follows 0 bound recorded parser :=
  fun _ _ _ _ room => absurd room (Nat.not_lt_zero _)

theorem ite {condition : Prop} [Decidable condition] {second : Recorded α} {simple : Parser α}
    (whenTrue : Follows limit bound recorded parser) (otherwise : Follows limit bound second simple) :
    Follows limit bound (if condition then recorded else second) (if condition then parser else simple) := by
  split
  · exact whenTrue
  · exact otherwise

theorem within (activity : Activity) (apart : ∀ distance, activity ≠ .lookahead distance)
    (body : Follows limit (rank activity + 1) recorded parser) :
    Follows limit (rank activity) (Recorded.within activity recorded) parser := by
  intro tokens reader history stands room below
  refine .within (body tokens reader _ (stands.enter below (reached_of_apart apart)) room ?_)
  intro outer member
  rcases List.mem_cons.mp member with rfl | member
  · exact Nat.lt_succ_self _
  · exact Nat.lt_succ_of_lt (below outer member)

/-- A loop that starts here has more steps than there are tokens left. -/
theorem steps {next : Nat → Recorded β} {other : Nat → Parser β}
    (continues : ∀ steps, Follows steps bound (next steps) (other steps)) :
    Follows limit bound (Recorded.steps >>= next) (Parser.steps >>= other) := by
  intro tokens reader history stands _ below
  have asked : Parser.steps reader = .ok (reader.bound, reader) := rfl
  exact .look asked (.congr (bind_of_ok asked) (continues reader.bound tokens reader history stands stands.enough below))

section Kinds
variable {expected : TokenKind} {expectation : Expectation}

theorem inspect {next : TokenKind → Recorded β} {other : TokenKind → Parser β}
    (each : ∀ tokens reader history, Stands tokens reader history → remaining reader < limit → Below bound history →
      Conforms tokens (next reader.current.kind) (other reader.current.kind) reader history) :
    Follows limit bound (Recorded.kind >>= next) (Parser.kind >>= other) := by
  intro tokens reader history stands room below
  have asked : Parser.kind reader = .ok (reader.current.kind, reader) := rfl
  exact .look asked (.congr (bind_of_ok asked) (each tokens reader history stands room below))

theorem kind {next : TokenKind → Recorded β} {other : TokenKind → Parser β}
    (each : ∀ found, Follows limit bound (next found) (other found)) :
    Follows limit bound (Recorded.kind >>= next) (Parser.kind >>= other) :=
  inspect fun tokens reader history => each reader.current.kind tokens reader history

theorem accept {next : Bool → Recorded β} {other : Bool → Parser β} (ordinary : expected ≠ .endOfInput)
    (consumed : Follows (limit - 1) 0 (next true) (other true)) (kept : Follows limit bound (next false) (other false)) :
    Follows limit bound (Recorded.accept expected >>= next) (Parser.accept expected >>= other) := by
  simp only [Recorded.accept, Parser.accept, bind_assoc]
  refine inspect fun tokens reader history stands room below => ?_
  by_cases matching : reader.current.kind = expected
  · simp only [if_pos matching, bind_assoc, pure_bind]
    exact .advance stands (matching ▸ ordinary) room consumed
  · simp only [if_neg matching, pure_bind]
    exact kept tokens reader history stands room below

theorem expect {next : Token → Recorded β} {other : Token → Parser β} (ordinary : expected ≠ .endOfInput)
    (consumed : ∀ token, Follows (limit - 1) 0 (next token) (other token)) :
    Follows limit bound (Recorded.expect expected expectation >>= next)
      (Parser.expect expected expectation >>= other) := by
  simp only [Recorded.expect, Parser.expect, bind_assoc]
  refine inspect fun tokens reader history stands room below => ?_
  by_cases matching : reader.current.kind = expected
  · simp only [if_pos matching]
    exact .advance stands (matching ▸ ordinary) room (consumed reader.current)
  · simp only [if_neg matching, bind_assoc]
    refine .get (.bind (fail _ tokens reader history stands room below) ?_)
    intro token after read
    cases read

theorem expectName {next : String → Recorded β} {other : String → Parser β}
    (consumed : ∀ name, Follows (limit - 1) 0 (next name) (other name)) :
    Follows limit bound (Recorded.expectName expectation >>= next) (Parser.expectName expectation >>= other) := by
  simp only [Recorded.expectName, Parser.expectName, bind_assoc, pure_bind]
  exact expect (by decide) fun token => consumed token.text

end Kinds
end Follows
end CommonExpr.Proofs.ActivityRules

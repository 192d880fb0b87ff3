import CommonExpr.Proofs.ActivityRules

/-! The lookahead for a dotted name in front of a brace. It consumes nothing, and sees two more
tokens in each iteration, a name and a dot, so that it stops at the latest where the source ends.
Where it has seen the brace the name is read up to it. -/

namespace CommonExpr.Proofs.NameLookahead
open ParserActivity ActivityRules TokenReader TokenFootprint ParserFootprint

section Streams
variable {stream rest : TokenStream} {token : Token}

@[simp] theorem behind_zero (stream : TokenStream) : behind 0 stream = stream := by
  cases stream <;> rfl

private theorem behind_succ {ahead : Nat} (here : behind ahead stream = .more token rest) :
    behind (ahead + 1) stream = rest := by
  induction ahead generalizing stream with
  | zero =>
    rw [behind_zero] at here
    rw [here]
    exact behind_zero rest
  | succ ahead ih =>
    cases stream with
    | more first others => exact @ih others here
    | finished ending => cases here
    | failed failure => cases here

private theorem length_behind {ahead : Nat} (inside : ahead ≤ stream.length) :
    (behind ahead stream).length + ahead = stream.length := by
  induction ahead generalizing stream with
  | zero => simp
  | succ ahead ih =>
    cases stream with
    | more first others =>
      exact congrArg (· + 1) (@ih others (Nat.le_of_succ_le_succ inside))
    | finished ending => cases inside
    | failed failure => cases inside

private theorem closed_behind (closed : Closed stream) (ahead : Nat) : Closed (behind ahead stream) := by
  induction ahead generalizing stream with
  | zero => simpa using closed
  | succ ahead ih =>
    cases stream with
    | more first others => exact ih closed.2
    | finished ending => exact closed
    | failed failure => exact closed

private theorem eq_more_of_uncons (closed : Closed stream) (given : stream.uncons = .ok (token, rest))
    (ordinary : token.kind ≠ .endOfInput) : stream = .more token rest := by
  cases stream <;> cases given
  · rfl
  · exact absurd closed ordinary

private theorem isQualifiedStruct_failed {failure : LexicalError} (given : stream.uncons = .error failure) :
    Parser.isQualifiedStruct stream = .error failure := by
  cases stream <;> cases given
  rfl

/-- Where no name stands, no struct type is named. -/
theorem isQualifiedStruct_unnamed (given : stream.uncons = .ok (token, rest)) (other : token.kind ≠ .identifier) :
    Parser.isQualifiedStruct stream = .ok false := by
  cases stream <;> cases given
  · cases rest <;> simp [Parser.isQualifiedStruct, other]
  · rfl

private theorem isQualifiedStruct_named {failure : LexicalError} (names : token.kind = .identifier)
    (failed : rest.uncons = .error failure) : Parser.isQualifiedStruct (.more token rest) = .error failure := by
  cases rest <;> cases failed
  simp [Parser.isQualifiedStruct, names]

/-- Behind a name a brace or a dot decides. -/
theorem isQualifiedStruct_marked {mark : Token} {further : TokenStream} (names : token.kind = .identifier)
    (seen : rest.uncons = .ok (mark, further)) (closed : Closed rest) : Parser.isQualifiedStruct (.more token rest) =
      if mark.kind = .leftBrace then .ok true
      else if mark.kind = .dot then Parser.isQualifiedStruct further
      else .ok false := by
  cases rest <;> cases seen
  · simp [Parser.isQualifiedStruct, names]
  · have ends : mark.kind = .endOfInput := closed
    simp [Parser.isQualifiedStruct, names, ends]

end Streams

/-- The answer of the lookahead from a stream on. -/
def answer (stream : TokenStream) : Parser Bool := fun reader =>
  ((Parser.isQualifiedStruct stream).mapError fun failure => .invalid failure.toSyntaxError).map (·, reader)

private theorem answer_of_ok {stream : TokenStream} {reader : Reader} {found : Bool}
    (answered : Parser.isQualifiedStruct stream = .ok found) : answer stream reader = .ok (found, reader) := by
  rw [answer, answered]
  rfl

private theorem answer_of_error {stream : TokenStream} {reader : Reader} {failure : LexicalError}
    (failed : Parser.isQualifiedStruct stream = .error failure) :
    answer stream reader = .error (.invalid failure.toSyntaxError) := by
  rw [answer, failed]
  rfl

private theorem startsQualifiedStruct_of_dot {reader : Reader} (dots : reader.current.kind = .dot) :
    Parser.startsQualifiedStruct reader = answer reader.following reader := by
  rw [Parser.startsQualifiedStruct, if_pos dots, answer]
  cases Parser.isQualifiedStruct reader.following <;> rfl

private theorem answer_congr {stream other : TokenStream} {reader : Reader}
    (same : Parser.isQualifiedStruct stream = Parser.isQualifiedStruct other) :
    answer stream reader = answer other reader := by
  rw [answer, answer, same]

section Iterations
variable {tokens : Nat} {reader : Reader} {ahead steps : Nat} {history : List Event}

private theorem lookahead_below {distance : Nat} (below : Below (rank (.lookahead distance)) history) :
    Below (rank (.lookahead (distance + 2)))
      (.peek (distance + 1) :: .peek distance :: .enter (.lookahead distance) :: history) := by
  intro outer member
  rcases List.mem_cons.mp member with rfl | member
  · exact Nat.add_lt_add_left (Nat.lt_add_of_pos_right (Nat.succ_pos 1)) 14
  · exact Nat.lt_add_right 2 (below outer member)

/-- Behind a name a brace or a dot decides, and a dot leads to the next iteration. -/
theorem mark_conforms {name : Token} {rest : TokenStream} (names : name.kind = .identifier) (closed : Closed rest)
    (next : behind (ahead + 1) reader.following = rest) (stands : Stands tokens reader (.peek (ahead + 2) :: history))
    (goesOn : ∀ mark further, rest = .more mark further → Conforms tokens (Recorded.isQualifiedStruct steps (ahead + 3))
      (answer further) reader (.peek (ahead + 2) :: history)) :
    Conforms tokens (do
      let mark ← Recorded.peek (ahead + 2)
      if mark = .leftBrace then return true
      if mark ≠ .dot then return false
      Recorded.isQualifiedStruct steps (ahead + 3)) (answer (.more name rest)) reader history := by
  refine .peek stands (fun failure failed => ?_) fun mark further seen => ?_
  · exact answer_of_error (isQualifiedStruct_named names (next ▸ failed))
  rw [next] at seen
  have decided := isQualifiedStruct_marked names seen closed
  by_cases opens : mark.kind = .leftBrace
  · rw [if_pos opens] at decided ⊢
    exact .ends stands (answer_of_ok decided)
  rw [if_neg opens] at decided ⊢
  by_cases dots : mark.kind = .dot
  · rw [if_pos dots] at decided
    rw [if_neg (not_not_intro dots)]
    have there := eq_more_of_uncons closed seen (by simp [dots])
    exact (goesOn mark further there).congr (answer_congr decided)
  · rw [if_neg dots] at decided
    rw [if_pos dots]
    exact .ends stands (answer_of_ok decided)

/-- The steps of the loop suffice, since there are fewer tokens in the stream that is left. -/
theorem isQualifiedStruct_conforms (ordinary : reader.current.kind ≠ .endOfInput) (steps : Nat) : ∀ ahead history,
    Stands tokens reader history → ahead ≤ reader.following.length → (behind ahead reader.following).length < steps →
    Below (rank (.lookahead (ahead + 1))) history → Reached tokens history (.lookahead (ahead + 1)) →
    Conforms tokens (Recorded.isQualifiedStruct steps (ahead + 1)) (answer (behind ahead reader.following))
      reader history := by
  induction steps with
  | zero => exact fun _ _ _ _ none => absurd none (Nat.not_lt_zero _)
  | succ steps ih =>
    intro ahead history stands inside enough below reached
    have closed := closed_behind stands.closed ahead
    have sized := length_behind inside
    have once := (stands.enter below reached).peek ordinary inside
    refine .within (.peek once (fun failure given => ?_) fun name rest given => ?_)
    · exact answer_of_error (isQualifiedStruct_failed given)
    by_cases names : name.kind = .identifier
    · have here := eq_more_of_uncons closed given (by simp [names])
      rw [here] at enough sized closed
      rw [TokenStream.length] at enough sized
      have twice := once.peek ordinary (show ahead + 1 ≤ reader.following.length by omega)
      rw [if_neg (not_not_intro names), here]
      refine mark_conforms names closed.2 (behind_succ here) twice fun mark further there => ?_
      have next := (behind_succ here).trans there
      rw [there, TokenStream.length] at enough sized
      have goesOn := ih (ahead + 2) _ twice (by omega) (by rw [behind_succ next]; omega) (lookahead_below below)
        ⟨twice.reach ordinary (by omega), .inr ⟨ahead + 1, history, rfl, rfl⟩⟩
      rwa [behind_succ next] at goesOn
    · rw [if_pos names]
      exact .ends once (answer_of_ok (isQualifiedStruct_unnamed given names))

end Iterations

section Questions
variable {limit bound : Nat}

theorem startsQualifiedStruct_follows :
    Follows limit (rank (.lookahead 1)) Recorded.startsQualifiedStruct Parser.startsQualifiedStruct := by
  intro tokens reader history stands room below
  have asked : Parser.kind reader = .ok (reader.current.kind, reader) := rfl
  refine .look asked ?_
  by_cases dots : reader.current.kind = .dot
  · have ordinary : reader.current.kind ≠ .endOfInput := by simp [dots]
    have enough := stands.enough
    rw [remaining_of_ordinary ordinary] at enough
    have loop := isQualifiedStruct_conforms ordinary reader.bound 0 history stands (Nat.zero_le _)
      (by rw [behind_zero]; omega) below ⟨stands.reach ordinary (Nat.zero_le _), .inl rfl⟩
    rw [behind_zero] at loop
    have given : Parser.steps reader = .ok (reader.bound, reader) := rfl
    rw [if_pos dots]
    exact .look given (loop.congr (startsQualifiedStruct_of_dot dots))
  · rw [if_neg dots]
    exact .ends stands (by rw [Parser.startsQualifiedStruct, if_neg dots])

theorem startsQualifiedStruct_true {reader after : Reader}
    (read : Parser.startsQualifiedStruct reader = .ok (true, after)) :
    after = reader ∧ reader.current.kind = .dot ∧ Parser.isQualifiedStruct reader.following = .ok true := by
  by_cases dots : reader.current.kind = .dot
  · rw [startsQualifiedStruct_of_dot dots, answer] at read
    cases answered : Parser.isQualifiedStruct reader.following with
    | error failure =>
      rw [answered] at read
      cases read
    | ok found =>
      rw [answered] at read
      cases read
      exact ⟨rfl, dots, rfl⟩
  · rw [Parser.startsQualifiedStruct, if_neg dots] at read
    cases read

theorem startsField_follows : Follows limit bound Recorded.startsField Parser.startsField := by
  intro tokens reader history stands room below
  have asked : Parser.kind reader = .ok (reader.current.kind, reader) := rfl
  refine .look asked ?_
  by_cases names : reader.current.kind = .identifier
  · have once := stands.peek (by simp [names]) (Nat.zero_le _)
    rw [if_pos names]
    refine .peek once (fun failure given => ?_) fun token rest given => ?_
    · rw [behind_zero] at given
      rw [Parser.startsField, if_pos names, given]
    · rw [behind_zero] at given
      exact .ends once (startsField_of_name names given)
  · rw [if_neg names]
    exact .ends stands (by rw [Parser.startsField, if_neg names])

end Questions

section Names

private theorem nameParts_follows (steps : Nat) :
    Follows steps (rank .nameLoop) (Recorded.nameParts steps) (Parser.nameParts steps) := by
  induction steps with
  | zero => exact .exhausted
  | succ steps ih =>
    refine .within .nameLoop nofun (.accept nofun (.expectName fun part => ?_) (.pure []))
    exact (ih.narrow (Nat.sub_le steps 1)).fresh.bind fun rest => .pure (part :: rest)

theorem qualifiedName_follows (limit : Nat) :
    Follows limit (rank .qualifiedName) Recorded.qualifiedName (Parser.steps >>= Parser.nameParts) :=
  .within .qualifiedName nofun (.steps nameParts_follows)

/-- Where the lookahead has seen the brace behind a name, the name is read up to it. -/
theorem nameParts_opens (limit : Nat) : ∀ before parts after, Closed before.following → remaining before < limit →
    before.current.kind = .dot → Parser.isQualifiedStruct before.following = .ok true →
    Parser.nameParts limit before = .ok (parts, after) → after.current.kind = .leftBrace := by
  induction limit with
  | zero => exact fun _ _ _ _ none => absurd none (Nat.not_lt_zero _)
  | succ limit ih =>
    intro before parts after closed room dots answered read
    obtain ⟨middle, last, advanced, names, further, ends⟩ := isQualifiedStruct_true answered
    obtain ⟨first, closed⟩ := remaining_advance (by simp [dots]) closed advanced
    obtain ⟨second, closed⟩ := remaining_advance (by simp [names]) closed further
    rw [nameParts_dot limit dots advanced names further] at read
    obtain ⟨rest, stop, continued, done⟩ := bind_eq_ok.mp read
    obtain ⟨-, rfl⟩ := pure_eq_ok.mp done
    rcases ends with opens | ⟨dots, answered⟩
    · rw [nameParts_apart limit (by simp [opens])] at continued
      cases continued
      exact opens
    · exact ih last rest stop closed (by omega) dots answered continued

end Names
end CommonExpr.Proofs.NameLookahead

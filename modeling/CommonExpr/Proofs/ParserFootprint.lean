import CommonExpr.Proofs.TokenFootprint

/-! The parser only depends on the tokens that it consumes and the one it stops at. It looks
further ahead in two places, and what it looks at there is consumed before anything comes
of it. So an error does not depend on what stands behind the token that it is located at. -/

namespace CommonExpr.Proofs.ParserFootprint
open CommonExpr.Parser TokenReader Lookahead TokenFootprint

section Operands
variable {inner : Parser Expr} {α : Type}

private theorem callArguments_local (single : Local atName inner) : Local never (callArguments inner) :=
  ((items_local single (by decide)).weaken nofun).bind fun arguments =>
    ((Local.expect _ _).weaken nofun).bind fun _ => .pure arguments

private theorem listLiteral_local (single : Local atName inner) : Local always (listLiteral inner) :=
  Local.advance.bind fun _ => ((items_local single (by decide)).weaken nofun).bind fun _ =>
    ((Local.expect _ _).weaken nofun).bind fun _ => .pure _

private theorem structField_local (single : Local atName inner) : Local atName (structField inner) :=
  (Local.expectName _).bind fun _ => ((Local.expect _ _).weaken nofun).bind fun _ =>
    (single.weaken nofun).bind fun _ => .pure _

private theorem mapEntry_local (single : Local atName inner) : Local atName (mapEntry inner) :=
  single.bind fun _ => ((Local.expect _ _).weaken nofun).bind fun _ => (single.weaken nofun).bind fun _ => .pure _

theorem startsField_of_name {reader : Reader} {token : Token} {behind : TokenStream} (names : reader.current.kind = .identifier)
    (given : reader.following.uncons = .ok (token, behind)) :
    startsField reader = .ok (decide (token.kind = .colon), reader) := by
  rw [startsField, if_pos names, given]

/-- The token behind a name is looked at, but not before the name is consumed does anything
come of it. -/
theorem startsField_local {next : Bool → Parser α} (each : ∀ answer, Local atName (next answer)) :
    Local never (startsField >>= next) := by
  refine .intro fun before after outcome closed reports => ?_
  by_cases names : before.current.kind = .identifier
  · cases given : before.following.uncons with
    | error failure =>
      have failed : startsField before = .error (.invalid failure.toSyntaxError) := by
        rw [startsField, if_pos names, given]
      cases outcome with
      | ok value => cases (bind_of_error failed).symm.trans reports
      | error other =>
        cases (bind_of_error failed).symm.trans reports
        exact .inl (.starved (endsIn_of_uncons given))
    | ok pair =>
      obtain ⟨token, behind⟩ := pair
      have answered : (startsField >>= next) before = next (decide (token.kind = .colon)) before :=
        bind_of_ok (startsField_of_name names given)
      refine ((each _).elim closed (reports.congr answered)).imp_right ?_
      rintro ⟨used, stop, stands, filled, footprint⟩
      refine ⟨used, stop, stands, False.elim, footprint.consumes, fun other last closed consumed same here there => ?_⟩
      have settled := footprint.repeats other last closed consumed same here there
      have named : other.current.kind = .identifier := footprint.consumes.current_eq consumed same ▸ names
      -- The name is consumed, so the token behind it is the same one too.
      cases footprint.consumes with
      | none _ => exact absurd rfl (filled names)
      | more advanced rest =>
        cases consumed with
        | more further remaining =>
          have first := (advance_eq_ok.mp advanced).2.1
          have second := (advance_eq_ok.mp further).2.1
          rw [given] at first
          rw [rest.current_eq remaining same, ← (Prod.mk.inj (Except.ok.inj first)).1] at second
          exact settled.congr (bind_of_ok (startsField_of_name named second)).symm
  · have answered {reader : Reader} (plain : reader.current.kind ≠ .identifier) :
        (startsField >>= next) reader = next false reader := by
      refine bind_of_ok ?_
      rw [startsField, if_neg plain]
    refine ((each false).elim closed (reports.congr (answered names))).imp_right ?_
    rintro ⟨used, stop, stands, -, footprint⟩
    refine ⟨used, stop, stands, False.elim, footprint.consumes, fun other last closed consumed same here there => ?_⟩
    have settled := footprint.repeats other last closed consumed same here there
    exact settled.congr (answered (footprint.consumes.current_eq consumed same ▸ names)).symm

private theorem braces_local (single : Local atName inner) (typeName : Option String) :
    Local always (braces inner typeName) := by
  refine Local.advance.bind fun _ => .accept (.pure _) ?_
  have fields : Local atName (do
      let members ← items (structField inner) .rightBrace
      let _ ← expect .rightBrace .structEnd
      return Expr.struct typeName members) :=
    (items_local (structField_local single) (by decide)).bind fun _ =>
      ((Local.expect _ _).weaken nofun).bind fun _ => .pure _
  have entries : Local atName (do
      let pairs ← items (mapEntry inner) .rightBrace
      let _ ← expect .rightBrace .mapEnd
      return Expr.map pairs) :=
    (items_local (mapEntry_local single) (by decide)).bind fun _ =>
      ((Local.expect _ _).weaken nofun).bind fun _ => .pure _
  cases typeName with
  | some name => exact fields.weaken fun _ asked => asked.1.elim
  | none =>
    refine (startsField_local fun answer => ?_).weaken fun _ asked => asked.1
    cases answer with
    | true => exact fields
    | false => exact entries

private theorem leadingDot_local (single : Local atName inner) : Local never (leadingDot inner) := by
  refine ((Local.expectName _).weaken nofun).bind fun _ => .accept ?_ ((Local.pure _).weaken fun _ asked => asked.1)
  exact (callArguments_local single).bind fun _ => .pure _

/-- What is read behind the name of a selection or of a method. -/
def calledFrom (inner : Parser Expr) (operand : Expr) (name : String) (limit : Nat) : Parser Expr := do
  if ← accept .leftParen then
    let arguments ← callArguments inner
    membersFrom inner limit (.call (some operand) name arguments (Loop.ofName? name).isSome)
  else membersFrom inner limit (.select (some operand) name false)

/-- What is read behind the bracket of an index. -/
def positionFrom (inner : Parser Expr) (operand : Expr) (limit : Nat) : Parser Expr := do
  let position ← inner
  let _ ← expect .rightBracket .indexEnd
  membersFrom inner limit (.index operand position)

private theorem membersFrom_succ (inner : Parser Expr) (operand : Expr) (limit : Nat) :
    membersFrom inner (limit + 1) operand = do
    if ← accept .dot then
      let name ← expectName .memberName
      calledFrom inner operand name limit
    else if ← accept .leftBracket then positionFrom inner operand limit
    else return operand :=
  rfl

section Members
variable {limit : Nat} {operand : Expr} (single : Local atName inner)
include single

private theorem calledFrom_settled {name : String}
    (rest : ∀ operand, Settled never 0 limit fun more => membersFrom inner more operand) :
    Settled never 0 limit (calledFrom inner operand name) := by
  refine .accept (fun called more => if called then do
      let arguments ← callArguments inner
      membersFrom inner more (.call (some operand) name arguments (Loop.ofName? name).isSome)
    else membersFrom inner more (.select (some operand) name false)) ?_ ((rest _).weaken fun _ asked => asked.1)
  exact .bind (callArguments_local single 0 limit) fun arguments => rest _

private theorem positionFrom_settled
    (rest : ∀ operand, Settled never 0 limit fun more => membersFrom inner more operand) :
    Settled never 0 limit (positionFrom inner operand) := by
  refine .bind (single.weaken nofun 0 limit) fun position => ?_
  exact .bind ((Local.expect _ _).weaken nofun 0 limit) fun _ => rest _

private theorem membersFrom_settled (limit : Nat) :
    ∀ operand, Settled never 0 limit fun more => membersFrom inner more operand := by
  induction limit with
  | zero => exact fun operand => .exhausted rfl
  | succ limit ih =>
    intro operand
    have indexes : Settled never 1 limit fun more => do
        if ← accept .leftBracket then positionFrom inner operand more else return operand :=
      .accept (fun indexed more => if indexed then positionFrom inner operand more else return operand)
        (positionFrom_settled single ih) ((Settled.of_pure operand).weaken fun _ asked => asked.1)
    refine .succ (.accept (fun dotted more => if dotted then do
        let name ← expectName .memberName
        calledFrom inner operand name more
      else do if ← accept .leftBracket then positionFrom inner operand more else return operand)
      ?_ (indexes.weaken fun _ asked => asked.1))
    exact .bind ((Local.expectName .memberName).weaken nofun 0 limit) fun name => calledFrom_settled single ih

end Members

end Operands

section Peeking

/-- Names between dots that no brace follows. -/
inductive BreaksOff : List Token → Prop where
  | unnamed {token : Token} {rest : List Token} (other : token.kind ≠ .identifier) : BreaksOff (token :: rest)
  | unmarked {name token : Token} {rest : List Token} (notOpened : token.kind ≠ .leftBrace) (notDot : token.kind ≠ .dot) :
      BreaksOff (name :: token :: rest)
  | dotted {name dot : Token} {rest : List Token} (dots : dot.kind = .dot) (breaks : BreaksOff rest) :
      BreaksOff (name :: dot :: rest)

variable {words : List Token} {stream : TokenStream}

private theorem isQualifiedStruct_of_breaksOff (breaks : BreaksOff words) (holds : Holds words stream) :
    isQualifiedStruct stream = .ok false := by
  induction breaks generalizing stream with
  | unnamed other =>
    obtain ⟨behind, given, -⟩ := holds
    cases stream <;> cases given
    · cases behind <;> simp [isQualifiedStruct, other]
    · rfl
  | unmarked notOpened notDot =>
    obtain ⟨behind, given, further, next, -⟩ := holds
    cases stream <;> cases given
    · cases behind <;> cases next
      all_goals simp [isQualifiedStruct, notOpened, notDot]
    · rfl
  | dotted dots _ ih =>
    obtain ⟨behind, given, further, next, holds⟩ := holds
    cases stream <;> cases given
    · cases behind <;> cases next
      · simp [isQualifiedStruct, dots, ih holds]
      · simp [isQualifiedStruct]
    · rfl

private theorem isQualifiedStruct_of_leadsToBrace (leads : LeadsToBrace words) (holds : Holds words stream)
    (closed : Sealed stream) :
    isQualifiedStruct stream = .ok true := by
  induction leads generalizing stream with
  | @opening name brace rest names opens =>
    obtain ⟨behind, given, further, next, -⟩ := holds
    cases stream <;> cases given
    · cases behind <;> cases next
      · simp [isQualifiedStruct, names, opens]
      · cases opens.symm.trans closed
    · cases names.symm.trans closed
  | @dotted name dot rest names dots _ ih =>
    obtain ⟨behind, given, further, next, holds⟩ := holds
    cases stream <;> cases given
    · cases behind <;> cases next
      · simpa [isQualifiedStruct, names, dots] using ih holds closed
      · cases dots.symm.trans closed
    · cases names.symm.trans closed

variable {before : Reader}

/-- Without a struct type the next token is no name, or what is behind the name is no brace
and no dot that goes on. -/
theorem isQualifiedStruct_false (closed : Sealed before.following) (answered : isQualifiedStruct before.following = .ok false) :
    ∃ middle, advance before = .ok (before.current, middle) ∧ (middle.current.kind ≠ .identifier ∨
      ∃ last, advance middle = .ok (middle.current, last) ∧ last.current.kind ≠ .leftBrace ∧
        (last.current.kind = .dot → isQualifiedStruct last.following = .ok false)) := by
  obtain ⟨current, following, bound⟩ := before
  cases following with
  | failed failure => cases answered
  | finished ending => exact ⟨⟨ending, .finished ending, bound⟩, rfl, .inl (by simp [show ending.kind = .endOfInput from closed])⟩
  | more name rest =>
    refine ⟨⟨name, rest, bound⟩, rfl, ?_⟩
    by_cases names : name.kind = .identifier
    · refine .inr ?_
      cases rest with
      | failed failure => simp [isQualifiedStruct, names] at answered
      | finished ending =>
        have ends : ending.kind = .endOfInput := closed
        exact ⟨⟨ending, .finished ending, bound⟩, rfl, by simp [ends], by simp [ends]⟩
      | more mark behind =>
        refine ⟨⟨mark, behind, bound⟩, rfl, ?_⟩
        by_cases opens : mark.kind = .leftBrace
        · simp [isQualifiedStruct, names, opens] at answered
        · exact ⟨opens, fun dots => by simpa [isQualifiedStruct, names, show mark.kind = .dot from dots] using answered⟩
    · exact .inl names

theorem isQualifiedStruct_true (answered : isQualifiedStruct before.following = .ok true) :
    ∃ middle last, advance before = .ok (before.current, middle) ∧ middle.current.kind = .identifier ∧
      advance middle = .ok (middle.current, last) ∧ (last.current.kind = .leftBrace ∨
        (last.current.kind = .dot ∧ isQualifiedStruct last.following = .ok true)) := by
  obtain ⟨current, following, bound⟩ := before
  cases following with
  | failed failure => cases answered
  | finished ending => cases answered
  | more name rest =>
    have names : name.kind = .identifier := by
      apply Classical.byContradiction
      intro other
      cases rest <;> simp [isQualifiedStruct, other] at answered
    cases rest with
    | failed failure => simp [isQualifiedStruct, names] at answered
    | finished ending => simp [isQualifiedStruct, names] at answered
    | more mark behind =>
      refine ⟨⟨name, .more mark behind, bound⟩, ⟨mark, behind, bound⟩, rfl, names, rfl, ?_⟩
      by_cases opens : mark.kind = .leftBrace
      · exact .inl opens
      · by_cases dots : mark.kind = .dot
        · exact .inr ⟨dots, by simpa [isQualifiedStruct, names, dots] using answered⟩
        · simp [isQualifiedStruct, names, opens, dots] at answered

end Peeking

section Names
variable {before middle last : Reader} {expected : TokenKind} {expectation : Expectation}

private theorem accept_at (matching : before.current.kind = expected)
    (advanced : advance before = .ok (before.current, middle)) :
    accept expected before = .ok (true, middle) := by
  have asked : kind before = .ok (before.current.kind, before) := rfl
  rw [accept, bind_of_ok asked, if_pos matching, bind_of_ok advanced]
  rfl

private theorem accept_apart (other : before.current.kind ≠ expected) :
    accept expected before = .ok (false, before) := by
  have asked : kind before = .ok (before.current.kind, before) := rfl
  rw [accept, bind_of_ok asked, if_neg other]
  rfl

private theorem expectName_at (names : before.current.kind = .identifier)
    (advanced : advance before = .ok (before.current, middle)) :
    expectName expectation before = .ok (before.current.text, middle) := by
  have asked : kind before = .ok (before.current.kind, before) := rfl
  have read : expect .identifier expectation before = .ok (before.current, middle) := by
    rw [expect, bind_of_ok asked, if_pos names, advanced]
  rw [expectName, bind_of_ok read]
  rfl

variable {inner : Parser Expr}

private theorem membersFrom_dot (operand : Expr) (limit : Nat) (dots : before.current.kind = .dot)
    (advanced : advance before = .ok (before.current, middle)) : membersFrom inner (limit + 1) operand before =
      (expectName .memberName >>= fun name => calledFrom inner operand name limit) middle := by
  rw [membersFrom_succ, bind_of_ok (accept_at dots advanced)]
  rfl

private theorem selection_dot (operand : Expr) (limit : Nat) (names : before.current.kind = .identifier)
    (advanced : advance before = .ok (before.current, middle)) (dots : middle.current.kind = .dot) :
    (expectName .memberName >>= fun name => calledFrom inner operand name limit) before =
      membersFrom inner limit (.select (some operand) before.current.text false) middle := by
  rw [bind_of_ok (expectName_at names advanced), calledFrom, bind_of_ok (accept_apart (by simp [dots]))]
  rfl

/-- Where a name is followed by no brace and no dot, it takes the name and the token behind
it to see that no struct type is named. -/
theorem breaksOff_of_consumes {used : List Token} {stop : Reader} (consumed : Consumes used middle stop)
    (filled : atName middle → used ≠ []) (continued : atName middle →
      ∃ last, advance middle = .ok (middle.current, last) ∧ last.current.kind ≠ .leftBrace ∧ last.current.kind ≠ .dot) :
    BreaksOff (used ++ [stop.current]) := by
  by_cases names : middle.current.kind = .identifier
  · obtain ⟨last, further, notOpened, notDot⟩ := continued names
    cases consumed with
    | none _ => exact absurd rfl (filled names)
    | more advances rest =>
      obtain ⟨rfl, -, -⟩ := advance_eq_ok.mp advances
      cases further.symm.trans advances
      obtain ⟨words, shape⟩ := List.head?_eq_some_iff.mp rest.head
      rw [List.cons_append, shape]
      exact .unmarked notOpened notDot
  · obtain ⟨words, shape⟩ := List.head?_eq_some_iff.mp consumed.head
    rw [shape]
    exact .unnamed names

/-- Where no struct type is named, the selections behind a name are read as far as it takes
to see that. -/
theorem membersFrom_breaks (single : Local atName inner) (limit : Nat) : ∀ operand before after outcome,
    Sealed before.following → before.current.kind = .dot → isQualifiedStruct before.following = .ok false →
    Reports (membersFrom inner limit operand) before after outcome →
    GivesUp before outcome ∨ ∃ used stop, StandsAt stop after outcome ∧
      (used.length < limit → ∃ words, used ++ [stop.current] = before.current :: words ∧ BreaksOff words) ∧
      Footprint used before stop fun other last => ∀ more, used.length < limit → used.length < more →
        Reports (membersFrom inner more operand) other last outcome := by
  induction limit with
  | zero =>
    intro operand before after outcome closed _ _ reports
    refine (membersFrom_settled single 0 operand before after outcome closed reports).imp_right ?_
    rintro ⟨used, stop, stands, -, footprint⟩
    exact ⟨used, stop, stands, fun none => absurd none (Nat.not_lt_zero _), footprint⟩
  | succ limit ih =>
    intro operand before after outcome closed dots answered reports
    obtain ⟨middle, advanced, continued⟩ := isQualifiedStruct_false closed answered
    have read := reports.congr (membersFrom_dot operand limit dots advanced)
    have opened := closed.uncons (advance_eq_ok.mp advanced).2.1
    have behind : (GivesUp middle outcome) ∨ ∃ used stop, StandsAt stop after outcome ∧
        (used.length < limit → BreaksOff (used ++ [stop.current])) ∧
        Footprint used middle stop fun other last => ∀ more, used.length < limit → used.length < more →
          Reports (expectName .memberName >>= fun name => calledFrom inner operand name more) other last outcome := by
      by_cases dotted : middle.current.kind = .identifier ∧ ∃ last, advance middle = .ok (middle.current, last) ∧
          last.current.kind = .dot
      · obtain ⟨names, last, further, dots⟩ := dotted
        have unread : isQualifiedStruct last.following = .ok false := by
          rcases continued with other | ⟨other, same, -, goesOn⟩
          · exact absurd names other
          · cases further.symm.trans same
            exact goesOn dots
        have selected := read.congr (selection_dot operand limit names further dots)
        refine (ih _ last after outcome (opened.uncons (advance_eq_ok.mp further).2.1) dots unread selected).imp
          (fun gives => gives.earlier (.single further)) ?_
        rintro ⟨used, stop, stands, breaks, footprint⟩
        refine ⟨middle.current :: used, stop, stands, fun enough => ?_, ?_⟩
        · rw [List.length_cons] at enough
          obtain ⟨words, shape, off⟩ := breaks (by omega)
          rw [List.cons_append, shape]
          exact .dotted dots off
        · refine footprint.prepend further fun other between last same advances at' resumes more enough room => ?_
          rw [List.length_cons] at enough room
          have resumed := resumes more (by omega) (by omega)
          rw [← same] at resumed
          exact resumed.congr (selection_dot operand more (same ▸ names) advances (at' ▸ dots)).symm
      · have settled : Settled atName 0 limit fun more =>
            expectName .memberName >>= fun name => calledFrom inner operand name more :=
          .bind (Local.expectName .memberName 0 limit) fun name =>
            calledFrom_settled single (membersFrom_settled single limit)
        refine (settled middle after outcome opened read).imp_right ?_
        rintro ⟨used, stop, stands, filled, footprint⟩
        refine ⟨used, stop, stands, fun _ => ?_, footprint⟩
        refine breaksOff_of_consumes footprint.consumes filled fun names => ?_
        obtain ⟨last, further, notOpened, -⟩ := continued.resolve_left (not_not_intro names)
        exact ⟨last, further, notOpened, fun dots => dotted ⟨names, last, further, dots⟩⟩
    refine behind.imp (fun gives => gives.earlier (.single advanced)) ?_
    rintro ⟨used, stop, stands, breaks, footprint⟩
    refine ⟨before.current :: used, stop, stands, fun enough => ⟨_, rfl, breaks (by simpa using enough)⟩, ?_⟩
    refine footprint.prepend advanced fun other between last same further _ resumes more enough room => ?_
    rw [List.length_cons] at enough room
    cases more with
    | zero => cases room
    | succ more =>
      have resumed := resumes more (by omega) (by omega)
      exact resumed.congr (membersFrom_dot operand more (same ▸ dots) further).symm

theorem nameParts_dot (limit : Nat) (dots : before.current.kind = .dot)
    (advanced : advance before = .ok (before.current, middle)) (names : middle.current.kind = .identifier)
    (further : advance middle = .ok (middle.current, last)) : nameParts (limit + 1) before =
      (nameParts limit >>= fun parts => pure (middle.current.text :: parts)) last := by
  rw [nameParts, bind_of_ok (accept_at dots advanced)]
  exact bind_of_ok (expectName_at names further)

theorem nameParts_apart (limit : Nat) (other : before.current.kind ≠ .dot) : nameParts limit before = .ok ([], before) := by
  cases limit with
  | zero => rfl
  | succ limit =>
    rw [nameParts, bind_of_ok (accept_apart other)]
    rfl

/-- The parts of the name of a struct type are read up to the brace. -/
theorem nameParts_leads (limit : Nat) : ∀ before, before.current.kind = .dot → isQualifiedStruct before.following = .ok true →
    ∃ parts used stop, nameParts limit before = .ok (parts, stop) ∧
      (used.length < limit → ContinuesType (used ++ [stop.current])) ∧
      Footprint used before stop fun other last => ∀ more, used.length < limit → used.length < more →
        nameParts more other = .ok (parts, last) := by
  induction limit with
  | zero =>
    intro before _ _
    exact ⟨[], [], before, rfl, nofun, .none before, fun _ _ _ _ _ _ _ _ enough => absurd enough (Nat.not_lt_zero _)⟩
  | succ limit ih =>
    intro before dots answered
    obtain ⟨middle, last, advanced, names, further, ends⟩ := isQualifiedStruct_true answered
    have behind : ∃ parts used stop, nameParts limit last = .ok (parts, stop) ∧
        (used.length < limit → LeadsToBrace (middle.current :: (used ++ [stop.current]))) ∧
        Footprint used last stop fun other last => ∀ more, used.length < limit → used.length < more →
          nameParts more other = .ok (parts, last) := by
      rcases ends with opens | ⟨moreDots, goesOn⟩
      · have stopped {reader : Reader} (same : reader.current = last.current) (limit : Nat) :
            nameParts limit reader = .ok ([], reader) :=
          nameParts_apart limit (by simp [same, opens])
        refine ⟨[], [], last, stopped rfl limit, fun _ => .opening names opens, .none last, ?_⟩
        intro other final _ consumed same _ _ more _ _
        cases consumed
        exact stopped same more
      · obtain ⟨parts, used, stop, read, continues, footprint⟩ := ih last moreDots goesOn
        refine ⟨parts, used, stop, read, fun enough => ?_, footprint⟩
        obtain ⟨dot, rest, shape, between, leads⟩ := continues enough
        rw [shape]
        exact .dotted names between leads
    obtain ⟨parts, used, stop, read, leads, footprint⟩ := behind
    refine ⟨middle.current.text :: parts, before.current :: middle.current :: used, stop, ?_, fun enough => ?_, ?_⟩
    · rw [nameParts_dot limit dots advanced names further, bind_of_ok read]
      rfl
    · rw [List.length_cons, List.length_cons] at enough
      exact continuesType_cons.mpr ⟨dots, leads (by omega)⟩
    · have named : Footprint (middle.current :: used) middle stop fun other final =>
          ∃ between, advance other = .ok (other.current, between) ∧ ∀ more, used.length < limit → used.length < more →
            nameParts more between = .ok (parts, final) :=
        footprint.prepend further fun _ between _ _ advances _ resumes => ⟨between, advances, resumes⟩
      refine named.prepend advanced fun other between final same advances at' ⟨beyond, goesOn, resumes⟩ more enough room => ?_
      rw [List.length_cons, List.length_cons] at enough room
      cases more with
      | zero => cases room
      | succ more =>
        rw [nameParts_dot more (same ▸ dots) advances (at' ▸ names) goesOn,
          bind_of_ok (resumes more (by omega) (by omega)), at']
        rfl

end Names

section Members
variable {inner : Parser Expr} {before : Reader} {words : List Token}

private theorem isQualifiedStruct_error {failure : LexicalError} :
    ∀ stream, isQualifiedStruct stream = .error failure → EndsIn failure stream
  | .failed other, failed => by
    cases failed
    exact .failed
  | .finished ending, failed => nomatch failed
  | .more name (.failed other), failed => by
    by_cases names : name.kind = .identifier
    · simp only [isQualifiedStruct, names, ne_eq, not_true, if_false] at failed
      cases failed
      exact .more .failed
    · simp [isQualifiedStruct, names] at failed
  | .more name (.finished ending), failed => by simp [isQualifiedStruct] at failed
  | .more name (.more mark behind), failed => by
    by_cases names : name.kind = .identifier
    · by_cases opens : mark.kind = .leftBrace
      · simp [isQualifiedStruct, names, opens] at failed
      · by_cases dots : mark.kind = .dot
        · refine .more (.more (isQualifiedStruct_error behind ?_))
          simpa [isQualifiedStruct, names, dots] using failed
        · simp [isQualifiedStruct, names, opens, dots] at failed
    · simp [isQualifiedStruct, names] at failed

private theorem startsQualifiedStruct_dot {answer : Bool} (dots : before.current.kind = .dot)
    (answered : isQualifiedStruct before.following = .ok answer) :
    startsQualifiedStruct before = .ok (answer, before) := by
  rw [startsQualifiedStruct, if_pos dots, answered]

private theorem startsQualifiedStruct_apart (other : before.current.kind ≠ .dot) :
    startsQualifiedStruct before = .ok (false, before) := by
  rw [startsQualifiedStruct, if_neg other]

/-- Selections, calls and indexes behind an operand, in as many steps as the reader is given. -/
def membersOf (inner : Parser Expr) (operand : Expr) : Parser Expr := do
  membersFrom inner (← steps) operand

/-- What a name is when it is not called: the type of a struct or a variable. -/
def uncalled (inner : Parser Expr) (name : String) : Parser Expr := do
  if ← startsQualifiedStruct then
    let parts ← nameParts (← steps)
    return ← braces inner (some (".".intercalate (name :: parts)))
  if (← kind) = .leftBrace then return ← braces inner (some name)
  return .identifier name

private theorem membersOf_local (single : Local atName inner) (operand : Expr) :
    Local never (membersOf inner operand) :=
  .steps fun limit => membersFrom_settled single limit operand

private theorem uncalled_qualified {next : Expr → Parser Expr} (name : String)
    (answered : startsQualifiedStruct before = .ok (true, before)) : (uncalled inner name >>= next) before =
      (nameParts before.bound >>= fun parts => braces inner (some (".".intercalate (name :: parts))) >>= next) before := by
  have counted : steps before = .ok (before.bound, before) := rfl
  rw [uncalled, bind_assoc, bind_of_ok answered]
  simp only [↓reduceIte, bind_assoc]
  rw [bind_of_ok counted]

/-- A name with a brace behind it is a type as well. -/
def plain (inner : Parser Expr) (name : String) : Parser Expr := do
  if (← kind) = .leftBrace then braces inner (some name) else return .identifier name

private theorem uncalled_plain {next : Expr → Parser Expr} (name : String)
    (answered : startsQualifiedStruct before = .ok (false, before)) :
    (uncalled inner name >>= next) before = (plain inner name >>= next) before := by
  rw [uncalled, bind_assoc, bind_of_ok answered]
  simp only [Bool.false_eq_true, ↓reduceIte, plain]

private theorem plain_local (single : Local atName inner) (name : String) : Local never (plain inner name) := by
  refine .kind fun kind => ?_
  split
  next => exact (braces_local single _).weaken fun _ _ => trivial
  next => exact (Local.pure _).weaken fun _ asked => asked.1

section Uncalled
variable {after : Reader} {outcome : Except ParseFailure Expr} {name : String}

/-- The same is reported wherever the consumed tokens are followed by a token like the one
that the parser stops at. -/
def Repeats (parser : Parser Expr) (before after : Reader) (outcome : Except ParseFailure Expr) : Prop :=
  ∃ used stop, StandsAt stop after outcome ∧ Footprint used before stop fun other last => Reports parser other last outcome

theorem Repeats.of_local {must : Reader → Prop} {parser : Parser Expr} (whole : Local must parser)
    (closed : Sealed before.following) (reports : Reports parser before after outcome) :
    GivesUp before outcome ∨ Repeats parser before after outcome :=
  (whole.elim closed reports).imp_right fun ⟨used, stop, stands, _, footprint⟩ => ⟨used, stop, stands, footprint⟩

private theorem uncalled_starved {failure : LexicalError} (dots : before.current.kind = .dot)
    (answered : isQualifiedStruct before.following = .error failure)
    (reports : Reports (uncalled inner name >>= membersOf inner) before after outcome) : GivesUp before outcome := by
  have failed : startsQualifiedStruct before = .error (.invalid failure.toSyntaxError) := by
    rw [startsQualifiedStruct, if_pos dots, answered]
  have whole : (uncalled inner name >>= membersOf inner) before = .error (.invalid failure.toSyntaxError) := by
    rw [uncalled, bind_assoc, bind_of_error failed]
  cases outcome with
  | ok value => cases whole.symm.trans reports
  | error other =>
    cases whole.symm.trans reports
    exact .starved (isQualifiedStruct_error _ answered)

/-- The name of a struct type leads to its brace wherever its tokens are found again. -/
theorem uncalled_repeats_qualified (single : Local atName inner) (closed : Sealed before.following)
    (dots : before.current.kind = .dot) (answered : isQualifiedStruct before.following = .ok true)
    (reports : Reports (uncalled inner name >>= membersOf inner) before after outcome) :
    GivesUp before outcome ∨ Repeats (uncalled inner name >>= membersOf inner) before after outcome := by
  obtain ⟨parts, used, middle, read, continues, footprint⟩ := nameParts_leads before.bound before dots answered
  have typed : Local never (braces inner (some (".".intercalate (name :: parts))) >>= membersOf inner) :=
    ((braces_local single _).weaken fun _ _ => trivial).bind (membersOf_local single)
  have continued := (reports.congr (uncalled_qualified name (startsQualifiedStruct_dot dots answered))).congr
    (bind_of_ok read)
  refine (typed.elim (footprint.consumes.sealed closed) continued).imp
    (fun gives => gives.earlier footprint.consumes) ?_
  rintro ⟨further, stop, stands, -, behind⟩
  refine ⟨used ++ further, stop, stands, footprint.consumes.append behind.consumes, ?_⟩
  intro other last closed consumed agrees here there
  obtain ⟨between, front, back⟩ := consumed.split
  have same := behind.consumes.current_eq back agrees
  have bounds := footprint.consumes.bound
  have others := front.bound
  rw [List.length_append] at here there
  have reread := footprint.repeats other between closed front same (by omega) (by omega) other.bound
    (by omega) (by omega)
  obtain ⟨dot, words, shape, -, leads⟩ := continues (by omega)
  rw [← same] at shape
  have reanswered := isQualifiedStruct_of_leadsToBrace leads (front.holds_words shape) closed
  have redots : other.current.kind = .dot := footprint.consumes.current_eq front same ▸ dots
  have settled := behind.repeats between last (front.sealed closed) back agrees (by omega) (by omega)
  have resumed : (nameParts other.bound >>= fun parts =>
      braces inner (some (".".intercalate (name :: parts))) >>= membersOf inner) other =
        (braces inner (some (".".intercalate (name :: parts))) >>= membersOf inner) between := bind_of_ok reread
  refine settled.congr ?_
  rw [uncalled_qualified name (startsQualifiedStruct_dot redots reanswered), resumed]

private theorem uncalled_selected (dots : before.current.kind = .dot)
    (answered : isQualifiedStruct before.following = .ok false) :
    (uncalled inner name >>= membersOf inner) before = membersFrom inner before.bound (.identifier name) before := by
  have asked : kind before = .ok (before.current.kind, before) := rfl
  rw [uncalled_plain name (startsQualifiedStruct_dot dots answered), plain, bind_assoc, bind_of_ok asked, dots]
  rfl

/-- Selections that are not the name of a struct type break off wherever they are found again. -/
theorem uncalled_repeats_selected (single : Local atName inner) (closed : Sealed before.following)
    (dots : before.current.kind = .dot) (answered : isQualifiedStruct before.following = .ok false)
    (reports : Reports (uncalled inner name >>= membersOf inner) before after outcome) :
    GivesUp before outcome ∨ Repeats (uncalled inner name >>= membersOf inner) before after outcome := by
  have read := reports.congr (uncalled_selected dots answered)
  refine (membersFrom_breaks single _ _ before after outcome closed dots answered read).imp_right ?_
  rintro ⟨used, stop, stands, breaks, footprint⟩
  refine ⟨used, stop, stands, footprint.consumes, fun other last closed consumed agrees here there => ?_⟩
  obtain ⟨words, shape, off⟩ := breaks here
  rw [← agrees] at shape
  have unread := isQualifiedStruct_of_breaksOff off (consumed.holds_words shape)
  have redots : other.current.kind = .dot := footprint.consumes.current_eq consumed agrees ▸ dots
  have settled := footprint.repeats other last closed consumed agrees here there other.bound here there
  exact settled.congr (uncalled_selected redots unread).symm

private theorem uncalled_repeats_plain (single : Local atName inner) (closed : Sealed before.following)
    (notDot : before.current.kind ≠ .dot)
    (reports : Reports (uncalled inner name >>= membersOf inner) before after outcome) :
    GivesUp before outcome ∨ Repeats (uncalled inner name >>= membersOf inner) before after outcome := by
  have same {reader : Reader} (other : reader.current.kind ≠ .dot) :
      (uncalled inner name >>= membersOf inner) reader = (plain inner name >>= membersOf inner) reader :=
    uncalled_plain name (startsQualifiedStruct_apart other)
  have rest : Local never (plain inner name >>= membersOf inner) := (plain_local single name).bind (membersOf_local single)
  refine (Repeats.of_local rest closed (reports.congr (same notDot))).imp_right ?_
  rintro ⟨used, stop, stands, footprint⟩
  refine ⟨used, stop, stands, footprint.consumes, fun other last closed consumed agrees here there => ?_⟩
  have settled := footprint.repeats other last closed consumed agrees here there
  exact settled.congr (same (footprint.consumes.current_eq consumed agrees ▸ notDot)).symm

/-- What is behind a name is read to see whether it is a struct type, and then read again. -/
theorem uncalled_local (single : Local atName inner) (name : String) :
    Local never (uncalled inner name >>= membersOf inner) := by
  refine .intro fun before after outcome closed reports => ?_
  have repeated : GivesUp before outcome ∨ Repeats (uncalled inner name >>= membersOf inner) before after outcome := by
    by_cases dots : before.current.kind = .dot
    · cases answered : isQualifiedStruct before.following with
      | error failure => exact .inl (uncalled_starved dots answered reports)
      | ok answer =>
        cases answer with
        | true => exact uncalled_repeats_qualified single closed dots answered reports
        | false => exact uncalled_repeats_selected single closed dots answered reports
    · exact uncalled_repeats_plain single closed dots reports
  refine repeated.imp_right ?_
  rintro ⟨used, stop, stands, footprint⟩
  exact ⟨used, stop, stands, False.elim, footprint⟩

end Uncalled

private theorem named_local (single : Local atName inner) (name : String) :
    Local never (named inner name >>= membersOf inner) := by
  have shape : named inner name >>= membersOf inner = accept .leftParen >>= fun called =>
      if called then callArguments inner >>= fun arguments => membersOf inner (presenceTest name arguments)
      else uncalled inner name >>= membersOf inner := by
    change (accept .leftParen >>= fun called =>
      if called then callArguments inner >>= fun arguments => Pure.pure (presenceTest name arguments)
      else uncalled inner name) >>= membersOf inner = _
    rw [bind_assoc]
    congr 1
    funext called
    cases called
    · rfl
    · simp only [↓reduceIte, bind_assoc, pure_bind]
  rw [shape]
  refine .accept ?_ ((uncalled_local single name).weaken fun _ asked => asked.1)
  exact (callArguments_local single).bind fun arguments => membersOf_local single _

private theorem member_local (single : Local atName inner) : Local atName (member inner) := by
  have shape : member inner = get >>= fun reader => operandAt inner reader.current >>= membersOf inner :=
    bind_assoc get _ _
  have rest := membersOf_local single
  have opened (parser : Parser Expr) (settles : Local always parser) (token : Token) :
      Local (fun before => atName before ∧ before.current = token) (parser >>= membersOf inner) :=
    (settles.weaken fun _ _ => trivial).bind rest
  rw [shape]
  refine .inspect (fun token => operandAt inner token >>= membersOf inner) fun token => ?_
  unfold operandAt
  cases Literal.ofToken? token with
  | some literal =>
    refine opened _ (Local.advance.bind fun _ => ?_) token
    cases literal with
    | some tree => exact .pure tree
    | none => exact .broken _
  | none =>
    cases kind : token.kind
    case leftBracket => exact opened _ (listLiteral_local single) token
    case leftBrace => exact opened _ (braces_local single none) token
    case leftParen =>
      refine opened _ (Local.advance.bind fun _ => (single.weaken nofun).bind fun _ => ?_) token
      exact ((Local.expect _ _).weaken nofun).bind fun _ => .pure _
    case dot => exact opened _ (Local.advance.bind fun _ => leadingDot_local single) token
    case identifier =>
      dsimp only
      rw [bind_assoc]
      exact (Local.advance.weaken fun _ _ => trivial).bind fun _ => named_local single token.text
    all_goals
      refine (Local.unexpected.bind rest).weaken fun before asked => ?_
      have names : token.kind = .identifier := asked.2 ▸ asked.1
      cases kind.symm.trans names

end Members

section Nesting
variable {inner deeper : Parser Expr}

private theorem unary_local (single : Local atName inner) (beneath : Local atName deeper) :
    Local atName (unary inner deeper) := by
  refine .kind fun kind => ?_
  have signed (operator : UnaryOperator) : Local always (do
      let _ ← advance
      return Expr.unary operator (← deeper)) :=
    Local.advance.bind fun _ => (beneath.weaken nofun).bind fun _ => .pure _
  cases kind
  case bang => exact (signed .not).weaken fun _ _ => trivial
  case minus => exact (signed .negate).weaken fun _ _ => trivial
  all_goals exact (member_local single).weaken fun _ asked => asked.1

private theorem conditional_local (single : Local atName inner) (beneath : Local atName deeper) :
    Local atName (conditional inner deeper) := by
  refine (disjunction_local beneath).bind fun _ => .accept ?_ ((Local.pure _).weaken fun _ asked => asked.1)
  exact ((disjunction_local beneath).weaken nofun).bind fun _ => ((Local.expect _ _).weaken nofun).bind fun _ =>
    (single.weaken nofun).bind fun _ => .pure _

private theorem nested_local (allowance : Nat) :
    Local atName (expression allowance) ∧ Local atName (operand allowance) := by
  induction allowance with
  | zero => exact ⟨.nested, unary_local .nested .nested⟩
  | succ allowance ih =>
    have expressions : Local atName (expression (allowance + 1)) := conditional_local ih.1 ih.2
    exact ⟨expressions, unary_local expressions ih.2⟩

/-- A source is read token by token, and nothing but the tokens read so far and the one at
hand tells what comes of it. -/
theorem source_local (allowance : Nat) : Local never (source allowance) := by
  have parsed : Local never (do
      let tree ← expression allowance
      if (← kind) ≠ .endOfInput then fail (.trailing (← get).current.text)
      return tree) := by
    refine ((nested_local allowance).1.weaken nofun).bind fun tree => .kind fun kind => ?_
    split
    next =>
      refine .inspect (fun token => do
        let _ ← (fail (.trailing token.text) : Parser PUnit)
        return tree) fun token => ?_
      have trailing : Local never (fail (.trailing token.text) : Parser PUnit) := .fail fun _ => nofun
      exact (trailing.weaken fun _ asked => asked.1.1).bind fun _ => .pure tree
    next => exact (Local.pure tree).weaken fun _ asked => asked.1
  refine .kind fun kind => ?_
  split
  next =>
    have empty : Local never (fail .empty : Parser PUnit) := .fail fun _ => nofun
    exact (empty.weaken fun _ asked => asked.1).bind fun _ => parsed
  next => exact parsed.weaken fun _ asked => asked.1

end Nesting

end CommonExpr.Proofs.ParserFootprint

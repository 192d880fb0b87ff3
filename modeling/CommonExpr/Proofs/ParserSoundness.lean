import CommonExpr.Proofs.Lookahead

/-! Whatever the parser returns for a list of tokens, the grammar derives from the
tokens that it consumed. -/

namespace CommonExpr.Proofs.ParserSoundness
open CommonExpr.Parser Grammar TokenReader Lookahead

/-- A parser that consumes the first tokens of a list and returns what they mean. -/
def Sound (frame : Frame) (parser : Parser α) (meaning : List Token → α → Prop) : Prop :=
  ∀ tokens value after, tokens.length < frame.bound → parser (frame.reader tokens) = .ok (value, after) →
    ∃ used rest, tokens = used ++ rest ∧ after = frame.reader rest ∧ meaning used value

/-- Sound for trees as phrases of one form. -/
abbrev Reads (frame : Frame) (parser : Parser Expr) (phrase : Expr → Phrase) : Prop :=
  Sound frame parser fun used tree => Derives used (phrase tree)

variable {frame : Frame}

theorem Sound.weaken {parser : Parser α} {meaning weaker : List Token → α → Prop} (sound : Sound frame parser meaning)
    (implies : ∀ used value, meaning used value → weaker used value) : Sound frame parser weaker := by
  intro tokens value after short parsed
  obtain ⟨used, rest, split, stands, means⟩ := sound tokens value after short parsed
  exact ⟨used, rest, split, stands, implies used value means⟩

section Chains

/-- The operators of a level, as the parser looks them up. -/
def table : Level → TokenKind → Option BinaryOperator
  | .disjunction => disjunctive?
  | .conjunction => conjunctive?
  | .relation => relational?
  | .sum => additive?
  | .product => multiplicative?

theorem table_eq_some_iff {level : Level} {kind : TokenKind} {operator : BinaryOperator} :
    table level kind = some operator ↔ level.Sign kind operator := by
  constructor
  · intro found
    cases level <;> cases kind <;> cases found <;> constructor
  · intro sign
    cases sign <;> rfl

theorem sign_ordinary {level : Level} {operator : BinaryOperator} : ¬ level.Sign .endOfInput operator := by
  intro sign
  cases sign

variable {level : Level} {operand : Parser Expr}

private theorem chainFrom_sound (single : Reads frame operand level.operand) (limit : Nat) :
    ∀ tokens left tree after, tokens.length < frame.bound →
      chainFrom (table level) operand limit left (frame.reader tokens) = .ok (tree, after) →
      ∃ used rest, tokens = used ++ rest ∧ after = frame.reader rest ∧
        ∀ before, Derives before (.chain level left) → Derives (before ++ used) (.chain level tree) := by
  induction limit with
  | zero =>
    intro tokens left tree after _ parsed
    obtain ⟨rfl, rfl⟩ := pure_eq_ok.mp parsed
    exact ⟨[], tokens, rfl, rfl, fun before derived => by rwa [List.append_nil]⟩
  | succ limit ih =>
    intro tokens left tree after short parsed
    rw [chainFrom, bind_of_ok kind_reader] at parsed
    cases found : table level (headKind tokens) with
    | none =>
      simp only [found] at parsed
      obtain ⟨rfl, rfl⟩ := pure_eq_ok.mp parsed
      exact ⟨[], tokens, rfl, rfl, fun before derived => by rwa [List.append_nil]⟩
    | some operator =>
      simp only [found] at parsed
      have joins := table_eq_some_iff.mp found
      cases tokens with
      | nil => exact absurd joins sign_ordinary
      | cons sign others =>
        rw [bind_of_ok advance_reader] at parsed
        obtain ⟨right, middle, read, parsed⟩ := bind_eq_ok.mp parsed
        obtain ⟨used, rest, rfl, rfl, behind⟩ := single others right middle (by simp at short; omega) read
        obtain ⟨more, last, rfl, rfl, extending⟩ := ih rest _ tree after (by simp at short; omega) parsed
        refine ⟨sign :: (used ++ more), last, by simp, rfl, fun before derived => ?_⟩
        have joined := extending _ (Derives.operation derived joins behind)
        simpa using joined

theorem chain_sound (level : Level) (single : Reads frame operand level.operand) :
    Reads frame (chain (table level) operand) (.chain level) := by
  intro tokens tree after short parsed
  obtain ⟨left, middle, read, parsed⟩ := bind_eq_ok.mp parsed
  obtain ⟨used, rest, rfl, rfl, first⟩ := single tokens left middle short read
  rw [bind_of_ok steps_reader] at parsed
  obtain ⟨more, last, rfl, rfl, extending⟩ :=
    chainFrom_sound single _ rest left tree after (by simp at short; omega) parsed
  exact ⟨used ++ more, last, by simp, rfl, extending used (.operand level first)⟩

theorem disjunction_sound (single : Reads frame operand .unary) :
    Reads frame (disjunction operand) (.chain .disjunction) :=
  chain_sound .disjunction <| chain_sound .conjunction <| chain_sound .relation <| chain_sound .sum <|
    chain_sound .product single

end Chains

section Sequences
variable {item : Parser α} {wrap : α → Item}

private theorem sequence_cons {first second : List Token} {comma : Token} {item next : Item} {others : List Item}
    (head : Derives first (.item item)) (separates : comma.kind = .comma)
    (tail : Derives second (.sequence (next :: others))) :
    Derives (first ++ comma :: second) (.sequence (item :: next :: others)) := by
  cases tail with
  | some all => exact .some (.several head separates all)
  | trailing all last =>
    have whole := Derives.trailing (.several head separates all) last
    simpa using whole

private theorem itemsFrom_sound (sound : Sound frame item fun used value => Derives used (.item (wrap value)))
    {closing : TokenKind} (limit : Nat) :
    ∀ tokens values after, tokens.length < frame.bound →
      itemsFrom item closing limit (frame.reader tokens) = .ok (values, after) →
      ∃ used rest, tokens = used ++ rest ∧ after = frame.reader rest ∧
        ∀ before value, Derives before (.item (wrap value)) →
          Derives (before ++ used) (.sequence ((value :: values).map wrap)) := by
  induction limit with
  | zero =>
    intro tokens values after _ parsed
    obtain ⟨rfl, rfl⟩ := pure_eq_ok.mp parsed
    exact ⟨[], tokens, rfl, rfl, fun before value derived => by simpa using Derives.some (.single derived)⟩
  | succ limit ih =>
    intro tokens values after short parsed
    obtain ⟨accepted, middle, asked, parsed⟩ := bind_eq_ok.mp parsed
    rcases accept_cases (by decide) asked with ⟨rfl, comma, others, rfl, separates, rfl⟩ | ⟨rfl, _, rfl⟩
    · simp only [Bool.not_true, Bool.false_eq_true, ↓reduceIte, bind_of_ok kind_reader] at parsed
      split at parsed
      next =>
        obtain ⟨rfl, rfl⟩ := pure_eq_ok.mp parsed
        exact ⟨[comma], others, rfl, rfl, fun before value derived => .trailing (.single derived) separates⟩
      next =>
        obtain ⟨next, middle, read, parsed⟩ := bind_eq_ok.mp parsed
        obtain ⟨used, rest, rfl, rfl, derivedNext⟩ := sound others next middle (by simp at short; omega) read
        obtain ⟨more, final, read, parsed⟩ := bind_eq_ok.mp parsed
        obtain ⟨rfl, rfl⟩ := pure_eq_ok.mp parsed
        obtain ⟨behind, last, rfl, rfl, extending⟩ := ih rest more final (by simp at short; omega) read
        refine ⟨comma :: (used ++ behind), last, by simp, rfl, fun before value derived => ?_⟩
        exact sequence_cons derived separates (extending used next derivedNext)
    · obtain ⟨rfl, rfl⟩ := pure_eq_ok.mp parsed
      exact ⟨[], tokens, rfl, rfl, fun before value derived => by simpa using Derives.some (.single derived)⟩

theorem items_sound (sound : Sound frame item fun used value => Derives used (.item (wrap value)))
    {closing : TokenKind} :
    Sound frame (items item closing) fun used values => Derives used (.sequence (values.map wrap)) := by
  intro tokens values after short parsed
  rw [items, bind_of_ok kind_reader] at parsed
  split at parsed
  next =>
    obtain ⟨rfl, rfl⟩ := pure_eq_ok.mp parsed
    exact ⟨[], tokens, rfl, rfl, .none⟩
  next =>
    obtain ⟨first, middle, read, parsed⟩ := bind_eq_ok.mp parsed
    obtain ⟨used, rest, rfl, rfl, derived⟩ := sound tokens first middle short read
    rw [bind_of_ok steps_reader] at parsed
    obtain ⟨more, final, read, parsed⟩ := bind_eq_ok.mp parsed
    obtain ⟨rfl, rfl⟩ := pure_eq_ok.mp parsed
    obtain ⟨behind, last, rfl, rfl, extending⟩ := itemsFrom_sound sound _ rest more final (by simp at short; omega) read
    exact ⟨used ++ behind, last, by simp, rfl, extending used first derived⟩

/-- Items up to a closing token, which is consumed. -/
private theorem enclosed_sound (sound : Sound frame item fun used value => Derives used (.item (wrap value)))
    {closing : TokenKind} {expectation : Expectation} {build : List α → β} (ordinary : closing ≠ .endOfInput) :
    Sound frame (do
        let values ← items item closing
        let _ ← expect closing expectation
        return build values) fun used result => ∃ held last values, used = held ++ [last] ∧ last.kind = closing ∧
          result = build values ∧ Derives held (.sequence (values.map wrap)) := by
  intro tokens result after short parsed
  obtain ⟨values, middle, read, parsed⟩ := bind_eq_ok.mp parsed
  obtain ⟨held, rest, rfl, rfl, derived⟩ := items_sound sound tokens values middle short read
  obtain ⟨last, final, expected, parsed⟩ := bind_eq_ok.mp parsed
  obtain ⟨others, rfl, closes, rfl⟩ := expect_eq_ok ordinary expected
  obtain ⟨rfl, rfl⟩ := pure_eq_ok.mp parsed
  exact ⟨held ++ [last], others, by simp, rfl, held, last, values, rfl, closes, rfl, derived⟩

end Sequences

section Operands
variable {inner : Parser Expr}

private theorem element_sound (sound : Reads frame inner .expression) :
    Sound frame inner fun used tree => Derives used (.item (.element tree)) :=
  sound.weaken fun _ _ derived => .element derived

theorem callArguments_sound (sound : Reads frame inner .expression) :
    Sound frame (callArguments inner) fun used arguments => ∃ given closing, used = given ++ [closing] ∧
      Derives given (.sequence (elements arguments)) ∧ closing.kind = .rightParen := by
  intro tokens arguments after short parsed
  obtain ⟨_, rest, rfl, rfl, given, closing, _, rfl, closes, rfl, derived⟩ :=
    enclosed_sound (element_sound sound) (by decide) tokens arguments after short parsed
  exact ⟨given ++ [closing], rest, rfl, rfl, given, closing, rfl, derived, closes⟩

theorem structField_sound (sound : Reads frame inner .expression) :
    Sound frame (structField inner) fun used member => Derives used (.item (.field member.1 member.2)) := by
  intro tokens member after short parsed
  obtain ⟨name, middle, named, parsed⟩ := bind_eq_ok.mp parsed
  obtain ⟨name, others, rfl, names, rfl, rfl⟩ := expectName_eq_ok named
  obtain ⟨colon, middle, expected, parsed⟩ := bind_eq_ok.mp parsed
  obtain ⟨others, rfl, parts, rfl⟩ := expect_eq_ok (by decide) expected
  obtain ⟨value, middle, read, parsed⟩ := bind_eq_ok.mp parsed
  obtain ⟨used, rest, rfl, rfl, derived⟩ := sound others value middle (by simp at short; omega) read
  obtain ⟨rfl, rfl⟩ := pure_eq_ok.mp parsed
  exact ⟨name :: colon :: used, rest, by simp, rfl, .field names parts derived⟩

theorem mapEntry_sound (sound : Reads frame inner .expression) :
    Sound frame (mapEntry inner) fun used pair => Derives used (.item (.entry pair.1 pair.2)) := by
  intro tokens pair after short parsed
  obtain ⟨key, middle, read, parsed⟩ := bind_eq_ok.mp parsed
  obtain ⟨before, others, rfl, rfl, first⟩ := sound tokens key middle short read
  obtain ⟨colon, middle, expected, parsed⟩ := bind_eq_ok.mp parsed
  obtain ⟨others, rfl, parts, rfl⟩ := expect_eq_ok (by decide) expected
  obtain ⟨value, middle, read, parsed⟩ := bind_eq_ok.mp parsed
  obtain ⟨behind, rest, rfl, rfl, second⟩ := sound others value middle (by simp at short; omega) read
  obtain ⟨rfl, rfl⟩ := pure_eq_ok.mp parsed
  exact ⟨before ++ colon :: behind, rest, by simp, rfl, .entry first parts second⟩

variable {tokens : List Token} {tree : Expr} {after : Reader}

/-- What a pair of braces means, by whether a type name stands before it. -/
private def Held (typeName : Option String) (held : List Token) (tree : Expr) : Prop :=
  (∃ members, tree = .struct typeName members ∧ Derives held (.sequence (fields members)) ∧
      (typeName.isSome ∨ StartsField held)) ∨
    ∃ pairs, typeName = none ∧ tree = .map pairs ∧ Derives held (.sequence (entries pairs)) ∧ ¬ StartsField held

private theorem fields_sound (sound : Reads frame inner .expression) (typeName : Option String) :
    Sound frame (do
        let members ← items (structField inner) .rightBrace
        let _ ← expect .rightBrace .structEnd
        return Expr.struct typeName members) fun used tree => ∃ held closing members, used = held ++ [closing] ∧
          closing.kind = .rightBrace ∧ tree = .struct typeName members ∧ Derives held (.sequence (fields members)) := by
  apply enclosed_sound (structField_sound sound)
  decide

private theorem entries_sound (sound : Reads frame inner .expression) :
    Sound frame (do
        let pairs ← items (mapEntry inner) .rightBrace
        let _ ← expect .rightBrace .mapEnd
        return Expr.map pairs) fun used tree => ∃ held closing pairs, used = held ++ [closing] ∧
          closing.kind = .rightBrace ∧ tree = .map pairs ∧ Derives held (.sequence (entries pairs)) := by
  apply enclosed_sound (mapEntry_sound sound)
  decide

private theorem braces_sound (sound : Reads frame inner .expression) (typeName : Option String) {opening : Token}
    (short : (opening :: tokens).length < frame.bound)
    (parsed : braces inner typeName (frame.reader (opening :: tokens)) = .ok (tree, after)) :
    ∃ held closing rest, tokens = held ++ closing :: rest ∧ after = frame.reader rest ∧ closing.kind = .rightBrace ∧
      Held typeName held tree := by
  rw [List.length_cons] at short
  rw [braces, bind_of_ok advance_reader] at parsed
  obtain ⟨accepted, middle, asked, parsed⟩ := bind_eq_ok.mp parsed
  rcases accept_cases (by decide) asked with ⟨rfl, closing, rest, rfl, closes, rfl⟩ | ⟨rfl, _, rfl⟩
  · obtain ⟨rfl, rfl⟩ := pure_eq_ok.mp parsed
    refine ⟨[], closing, rest, rfl, rfl, closes, ?_⟩
    cases typeName with
    | some name => exact .inl ⟨[], rfl, .none, .inl rfl⟩
    | none => exact .inr ⟨[], rfl, rfl, .none, by simp [StartsField]⟩
  · cases typeName with
    | some name =>
      obtain ⟨_, rest, rfl, rfl, held, closing, members, rfl, closes, rfl, derived⟩ :=
        fields_sound sound (some name) tokens tree after (by omega) parsed
      exact ⟨held, closing, rest, by simp, rfl, closes, .inl ⟨members, rfl, derived, .inl rfl⟩⟩
    | none =>
      obtain ⟨isStruct, answered, meaning⟩ := startsField_reader frame tokens
      replace parsed := (bind_of_ok answered).symm.trans parsed
      cases isStruct with
      | true =>
        obtain ⟨_, rest, rfl, rfl, held, closing, members, rfl, closes, rfl, derived⟩ :=
          fields_sound sound none tokens tree after (by omega) parsed
        rw [List.append_assoc, List.singleton_append, startsField_append closes] at meaning
        exact ⟨held, closing, rest, by simp, rfl, closes, .inl ⟨members, rfl, derived, .inr (meaning.mp rfl)⟩⟩
      | false =>
        obtain ⟨_, rest, rfl, rfl, held, closing, pairs, rfl, closes, rfl, derived⟩ :=
          entries_sound sound tokens tree after (by omega) parsed
        rw [List.append_assoc, List.singleton_append, startsField_append closes] at meaning
        have apart : ¬ StartsField held := fun starts => Bool.noConfusion (meaning.mpr starts)
        exact ⟨held, closing, rest, by simp, rfl, closes, .inr ⟨pairs, rfl, rfl, derived, apart⟩⟩

private theorem named_sound (sound : Reads frame inner .expression) {name : Token} (names : name.kind = .identifier) :
    Sound frame (named inner name.text) fun used tree => Derives (name :: used) (.primary tree) := by
  intro tokens tree after short parsed
  obtain ⟨accepted, middle, asked, parsed⟩ := bind_eq_ok.mp parsed
  rcases accept_cases (by decide) asked with ⟨rfl, opening, others, rfl, opens, rfl⟩ | ⟨rfl, _, rfl⟩
  · obtain ⟨arguments, middle, read, returned⟩ := bind_eq_ok.mp parsed
    obtain ⟨_, rest, rfl, rfl, given, closing, rfl, derived, closes⟩ :=
      callArguments_sound sound others arguments middle (by simp at short; omega) read
    obtain ⟨rfl, rfl⟩ := pure_eq_ok.mp returned
    refine ⟨opening :: (given ++ [closing]), rest, by simp, rfl, ?_⟩
    rcases presenceTest_cases name.text arguments with ⟨operand, field, has, rfl, same⟩ | ⟨ordinary, same⟩
    · rw [same]
      exact .presence names has opens derived closes
    · rw [same]
      exact .call names opens derived closes ordinary
  · obtain ⟨continues, answered, meaning⟩ := startsQualifiedStruct_reader frame tokens
    replace parsed := (bind_of_ok answered).symm.trans parsed
    cases continues with
    | true =>
      obtain ⟨dot, others, rfl, dots, leads⟩ := meaning.mp rfl
      obtain ⟨used, opening, behind, parts, rfl, opens, type⟩ := leads.typeName
      have reads : nameParts frame.bound (frame.reader (dot :: (used ++ opening :: behind))) =
          .ok (parts, frame.reader (opening :: behind)) :=
        nameParts_reads type dots opens frame.bound (by simp at short; omega)
      simp only [↓reduceIte, bind_of_ok steps_reader, bind_of_ok reads] at parsed
      obtain ⟨held, closing, rest, rfl, rfl, closes, holds⟩ := braces_sound sound _ (by simp at short ⊢; omega) parsed
      refine ⟨dot :: (used ++ opening :: (held ++ [closing])), rest, by simp, rfl, ?_⟩
      rcases holds with ⟨members, rfl, derived, _⟩ | ⟨_, typeless, _⟩
      · exact .typed (.dottedName names dots type) opens derived closes
      · cases typeless
    | false =>
      simp only [Bool.false_eq_true, ↓reduceIte, bind_of_ok kind_reader] at parsed
      split at parsed
      next opens =>
        cases tokens with
        | nil => cases opens
        | cons opening others =>
          obtain ⟨held, closing, rest, rfl, rfl, closes, holds⟩ := braces_sound sound _ short parsed
          refine ⟨opening :: (held ++ [closing]), rest, by simp, rfl, ?_⟩
          rcases holds with ⟨members, rfl, derived, _⟩ | ⟨_, typeless, _⟩
          · exact .typed (.simpleName names) opens derived closes
          · cases typeless
      next =>
        obtain ⟨rfl, rfl⟩ := pure_eq_ok.mp parsed
        exact ⟨[], tokens, rfl, rfl, .identifier names⟩

private theorem leadingDot_sound (sound : Reads frame inner .expression) {dot : Token} (dots : dot.kind = .dot) :
    Sound frame (leadingDot inner) fun used tree => Derives (dot :: used) (.primary tree) := by
  intro tokens tree after short parsed
  obtain ⟨_, middle, named, parsed⟩ := bind_eq_ok.mp parsed
  obtain ⟨name, others, rfl, names, rfl, rfl⟩ := expectName_eq_ok named
  obtain ⟨accepted, middle, asked, parsed⟩ := bind_eq_ok.mp parsed
  rcases accept_cases (by decide) asked with ⟨rfl, opening, others, rfl, opens, rfl⟩ | ⟨rfl, _, rfl⟩
  · obtain ⟨arguments, middle, read, returned⟩ := bind_eq_ok.mp parsed
    obtain ⟨_, rest, rfl, rfl, given, closing, rfl, derived, closes⟩ :=
      callArguments_sound sound others arguments middle (by simp at short; omega) read
    obtain ⟨rfl, rfl⟩ := pure_eq_ok.mp returned
    exact ⟨name :: opening :: (given ++ [closing]), rest, by simp, rfl, .leadingCall dots names opens derived closes⟩
  · obtain ⟨rfl, rfl⟩ := pure_eq_ok.mp parsed
    exact ⟨[name], others, rfl, rfl, .leadingSelection dots names⟩

private theorem unexpected_ne_ok {before : Reader} : (unexpected : Parser Expr) before ≠ .ok (tree, after) := by
  rw [unexpected]
  split <;> exact nofun

theorem primary_sound (sound : Reads frame inner .expression) : Reads frame (primary inner) .primary := by
  intro tokens tree after short parsed
  cases tokens with
  | nil =>
    rw [primary, bind_of_ok get_reader] at parsed
    exact absurd parsed unexpected_ne_ok
  | cons token others =>
    have shorter : others.length < frame.bound := by simp at short; omega
    cases found : token.kind
    case leftBracket =>
      rw [primary_of_bracket found, listLiteral, bind_of_ok advance_reader] at parsed
      obtain ⟨_, rest, rfl, rfl, held, closing, trees, rfl, closes, rfl, derived⟩ :=
        enclosed_sound (element_sound sound) (by decide) others tree after shorter parsed
      exact ⟨token :: (held ++ [closing]), rest, by simp, rfl, .list found derived closes⟩
    case leftBrace =>
      rw [primary_of_brace found] at parsed
      obtain ⟨held, closing, rest, rfl, rfl, closes, holds⟩ := braces_sound sound none short parsed
      refine ⟨token :: (held ++ [closing]), rest, by simp, rfl, ?_⟩
      rcases holds with ⟨members, rfl, derived, typed | starts⟩ | ⟨pairs, _, rfl, derived, apart⟩
      · cases typed
      · exact .untyped found derived closes starts
      · exact .map found derived closes apart
    case leftParen =>
      rw [primary_of_paren found] at parsed
      obtain ⟨tree, middle, read, returned⟩ := bind_eq_ok.mp parsed
      obtain ⟨held, rest, rfl, rfl, derived⟩ := sound others tree middle shorter read
      obtain ⟨closing, final, expected, returned⟩ := bind_eq_ok.mp returned
      obtain ⟨last, rfl, closes, rfl⟩ := expect_eq_ok (by decide) expected
      obtain ⟨rfl, rfl⟩ := pure_eq_ok.mp returned
      exact ⟨token :: (held ++ [closing]), last, by simp, rfl, .group found derived closes⟩
    case dot =>
      rw [primary_of_dot found] at parsed
      obtain ⟨used, rest, rfl, rfl, derived⟩ := leadingDot_sound sound found others tree after shorter parsed
      exact ⟨token :: used, rest, rfl, rfl, derived⟩
    case identifier =>
      rw [primary_of_name found] at parsed
      obtain ⟨used, rest, rfl, rfl, derived⟩ := named_sound sound found others tree after shorter parsed
      exact ⟨token :: used, rest, rfl, rfl, derived⟩
    all_goals
      rw [primary, bind_of_ok get_reader, current_cons] at parsed
      cases denotes : Literal.ofToken? token with
      | none =>
        simp only [denotes, found] at parsed
        exact absurd parsed unexpected_ne_ok
      | some literal =>
        simp only [denotes, bind_of_ok advance_reader] at parsed
        cases literal with
        | none => cases parsed
        | some literal =>
          obtain ⟨rfl, rfl⟩ := pure_eq_ok.mp parsed
          exact ⟨[token], others, rfl, rfl, .literal denotes⟩

private theorem membersFrom_sound (sound : Reads frame inner .expression) (limit : Nat) :
    ∀ tokens operand tree after, tokens.length < frame.bound →
      membersFrom inner limit operand (frame.reader tokens) = .ok (tree, after) →
      ∃ used rest, tokens = used ++ rest ∧ after = frame.reader rest ∧
        ∀ before, Derives before (.member operand) → Derives (before ++ used) (.member tree) := by
  induction limit with
  | zero =>
    intro tokens operand tree after _ parsed
    obtain ⟨rfl, rfl⟩ := pure_eq_ok.mp parsed
    exact ⟨[], tokens, rfl, rfl, fun before derived => by rwa [List.append_nil]⟩
  | succ limit ih =>
    intro tokens operand tree after short parsed
    obtain ⟨dotted, middle, asked, parsed⟩ := bind_eq_ok.mp parsed
    rcases accept_cases (by decide) asked with ⟨rfl, dot, others, rfl, dots, rfl⟩ | ⟨rfl, _, rfl⟩
    · obtain ⟨_, middle, named, selected⟩ := bind_eq_ok.mp parsed
      obtain ⟨name, others, rfl, names, rfl, rfl⟩ := expectName_eq_ok named
      obtain ⟨called, middle, asked, continued⟩ := bind_eq_ok.mp selected
      rcases accept_cases (by decide) asked with ⟨rfl, opening, others, rfl, opens, rfl⟩ | ⟨rfl, _, rfl⟩
      · obtain ⟨arguments, middle, read, looped⟩ := bind_eq_ok.mp continued
        obtain ⟨_, rest, rfl, rfl, given, closing, rfl, derived, closes⟩ :=
          callArguments_sound sound others arguments middle (by simp at short; omega) read
        obtain ⟨more, last, rfl, rfl, extending⟩ := ih rest _ tree after (by simp at short; omega) looped
        refine ⟨dot :: name :: opening :: (given ++ closing :: more), last, by simp, rfl, fun before derivedBefore => ?_⟩
        have whole := extending _ (Derives.method derivedBefore dots names opens derived closes)
        simpa using whole
      · obtain ⟨more, last, rfl, rfl, extending⟩ := ih others _ tree after (by simp at short; omega) continued
        refine ⟨dot :: name :: more, last, rfl, rfl, fun before derivedBefore => ?_⟩
        have whole := extending _ (Derives.selection derivedBefore dots names)
        simpa using whole
    · obtain ⟨indexed, middle, asked, continued⟩ := bind_eq_ok.mp parsed
      rcases accept_cases (by decide) asked with ⟨rfl, opening, others, rfl, opens, rfl⟩ | ⟨rfl, _, rfl⟩
      · obtain ⟨position, middle, read, continued⟩ := bind_eq_ok.mp continued
        obtain ⟨held, rest, rfl, rfl, derived⟩ := sound others position middle (by simp at short; omega) read
        obtain ⟨closing, middle, expected, continued⟩ := bind_eq_ok.mp continued
        obtain ⟨rest, rfl, closes, rfl⟩ := expect_eq_ok (by decide) expected
        obtain ⟨more, last, rfl, rfl, extending⟩ := ih rest _ tree after (by simp at short; omega) continued
        refine ⟨opening :: (held ++ closing :: more), last, by simp, rfl, fun before derivedBefore => ?_⟩
        have whole := extending _ (Derives.index derivedBefore opens derived closes)
        simpa using whole
      · obtain ⟨rfl, rfl⟩ := pure_eq_ok.mp continued
        exact ⟨[], tokens, rfl, rfl, fun before derived => by rwa [List.append_nil]⟩

private theorem member_sound (sound : Reads frame inner .expression) : Reads frame (member inner) .member := by
  intro tokens tree after short parsed
  obtain ⟨operand, middle, read, parsed⟩ := bind_eq_ok.mp parsed
  obtain ⟨used, rest, rfl, rfl, derived⟩ := primary_sound sound tokens operand middle short read
  rw [bind_of_ok steps_reader] at parsed
  obtain ⟨more, last, rfl, rfl, extending⟩ :=
    membersFrom_sound sound _ rest operand tree after (by simp at short; omega) parsed
  exact ⟨used ++ more, last, by simp, rfl, extending used (.start derived)⟩

end Operands

section Nesting
variable {inner deeper : Parser Expr}

private theorem unary_sound (sound : Reads frame inner .expression) (beneath : Reads frame deeper .unary) :
    Reads frame (unary inner deeper) .unary := by
  intro tokens tree after short parsed
  by_cases plain : ∀ operator, headKind tokens ≠ mark operator
  · rw [unary_of_other plain] at parsed
    obtain ⟨used, rest, rfl, rfl, derived⟩ := member_sound sound tokens tree after short parsed
    exact ⟨used, rest, rfl, rfl, .bare derived⟩
  · obtain ⟨operator, marks⟩ := Classical.not_forall_not.mp plain
    cases tokens with
    | nil => cases operator <;> cases marks
    | cons sign others =>
      rw [unary_of_mark marks] at parsed
      obtain ⟨operand, middle, read, returned⟩ := bind_eq_ok.mp parsed
      obtain ⟨used, rest, rfl, rfl, derived⟩ := beneath others operand middle (by simp at short; omega) read
      obtain ⟨rfl, rfl⟩ := pure_eq_ok.mp returned
      exact ⟨sign :: used, rest, rfl, rfl, .signed marks derived⟩

private theorem conditional_sound (sound : Reads frame inner .expression) (beneath : Reads frame deeper .unary) :
    Reads frame (conditional inner deeper) .expression := by
  intro tokens tree after short parsed
  obtain ⟨condition, middle, read, parsed⟩ := bind_eq_ok.mp parsed
  obtain ⟨first, rest, rfl, rfl, tested⟩ := disjunction_sound beneath tokens condition middle short read
  rw [List.length_append] at short
  obtain ⟨accepted, middle, asked, parsed⟩ := bind_eq_ok.mp parsed
  rcases accept_cases (by decide) asked with ⟨rfl, question, others, rfl, asks, rfl⟩ | ⟨rfl, _, rfl⟩
  · rw [List.length_cons] at short
    obtain ⟨whenTrue, middle, read, parsed⟩ := bind_eq_ok.mp parsed
    obtain ⟨second, rest, rfl, rfl, chosen⟩ := disjunction_sound beneath others whenTrue middle (by omega) read
    rw [List.length_append] at short
    obtain ⟨colon, middle, expected, parsed⟩ := bind_eq_ok.mp parsed
    obtain ⟨others, rfl, parts, rfl⟩ := expect_eq_ok (by decide) expected
    rw [List.length_cons] at short
    obtain ⟨otherwise, middle, read, parsed⟩ := bind_eq_ok.mp parsed
    obtain ⟨third, last, rfl, rfl, other⟩ := sound others otherwise middle (by omega) read
    obtain ⟨rfl, rfl⟩ := pure_eq_ok.mp parsed
    exact ⟨first ++ question :: (second ++ colon :: third), last, by simp, rfl, .conditional tested asks chosen parts other⟩
  · obtain ⟨rfl, rfl⟩ := pure_eq_ok.mp parsed
    exact ⟨first, rest, rfl, rfl, .plain tested⟩

private theorem fail_sound (cause : SyntaxCause) (phrase : Expr → Phrase) : Reads frame (fail cause) phrase := by
  intro tokens tree after _ parsed
  cases parsed

/-- Each unit of the allowance is a step down into both forms of sub-expressions. -/
theorem nested_sound (allowance : Nat) :
    Reads frame (expression allowance) .expression ∧ Reads frame (operand allowance) .unary := by
  induction allowance with
  | zero =>
    refine ⟨fail_sound .nestedTooDeeply .expression, ?_⟩
    exact unary_sound (fail_sound .nestedTooDeeply .expression) (fail_sound .nestedTooDeeply .unary)
  | succ allowance ih =>
    have expressions : Reads frame (expression (allowance + 1)) .expression := conditional_sound ih.1 ih.2
    exact ⟨expressions, unary_sound expressions ih.2⟩

end Nesting

/-- A source that is read to its end is derived by the grammar. -/
theorem source_sound {allowance : Nat} {tokens : List Token} {tree : Expr} {after : Reader} {ending : Token}
    (short : tokens.length < frame.bound) (ends : ending.kind = .endOfInput)
    (ordinary : ∀ token ∈ tokens, token.kind ≠ .endOfInput)
    (parsed : source allowance (frame.reader tokens) = .ok (tree, after)) :
    Derives (tokens ++ [ending]) (.source tree) := by
  rw [source, bind_of_ok kind_reader] at parsed
  split at parsed
  next => obtain ⟨_, _, failed, _⟩ := bind_eq_ok.mp parsed; cases failed
  next =>
    obtain ⟨tree, middle, read, finished⟩ := bind_eq_ok.mp parsed
    obtain ⟨used, rest, rfl, rfl, derived⟩ := (nested_sound allowance).1 tokens tree middle short read
    rw [bind_of_ok kind_reader] at finished
    cases rest with
    | nil =>
      obtain ⟨rfl, _⟩ := pure_eq_ok.mp finished
      rw [List.append_nil]
      exact .source derived ends
    | cons token others =>
      have more : headKind (token :: others) ≠ .endOfInput := ordinary token (by simp)
      rw [if_pos more] at finished
      obtain ⟨_, _, _, failed⟩ := bind_eq_ok.mp finished
      cases failed

end CommonExpr.Proofs.ParserSoundness

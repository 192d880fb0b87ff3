import CommonExpr.Proofs.AlikeTokens

/-! An error of the parser is located at a token up to which all is well: the tokens before
it can be completed to an expression. What is missing is filled in with names, colons and
closing tokens. -/

namespace CommonExpr.Proofs.ViablePrefix
open CommonExpr.Parser Grammar TokenReader Tokenization Lookahead ParserSoundness Spelling TreePrinter

section Completions
variable {inner outer : List Token → Prop} {used : List Token}

/-- More tokens can be found behind these that make the claim true. -/
def Opens (claim : List Token → Prop) (used : List Token) : Prop :=
  ∃ completion, (∀ token ∈ completion, Genuine token) ∧ claim (used ++ completion)

def filling (kind : TokenKind) : Token :=
  ⟨kind, if kind = .identifier then "a" else signText kind, .start⟩

private theorem filling_kind (kind : TokenKind) : (filling kind).kind = kind := rfl

private theorem filling_genuine {kind : TokenKind} (written : kind = .identifier ∨ signText kind ≠ "") :
    Genuine (filling kind) := by
  by_cases names : kind = .identifier
  · subst names
    rfl
  · have sign := sign_isLexeme (written.resolve_left names)
    rwa [Genuine, filling, if_neg names]

theorem Opens.done (holds : inner used) : Opens inner used :=
  ⟨[], nofun, by rwa [List.append_nil]⟩

theorem Opens.filled (kinds : List TokenKind) (written : ∀ kind ∈ kinds, kind = .identifier ∨ signText kind ≠ "")
    (holds : inner (used ++ kinds.map filling)) : Opens inner used := by
  refine ⟨kinds.map filling, fun token member => ?_, holds⟩
  obtain ⟨kind, given, rfl⟩ := List.mem_map.mp member
  exact filling_genuine (written kind given)

/-- Tokens that are some phrase of a form. -/
def Is (phrase : Expr → Phrase) (all : List Token) : Prop :=
  ∃ tree, Derives all (phrase tree)

private theorem name_is : Derives [filling .identifier] (.primary (.identifier "a")) :=
  .identifier rfl

private theorem name_isExpression : Derives [filling .identifier] (.expression (.identifier "a")) :=
  expression_of_primary name_is

theorem opens_expression : Opens (Is .expression) [] :=
  .filled [.identifier] (by decide) ⟨_, name_isExpression⟩

end Completions

section Failures
variable {frame : Frame} {room spare : Nat} {tokens rest : List Token} {failure : ParseFailure}
  {inner outer : List Token → Prop} {α β : Type} {parser : Parser α} {next : α → Parser β}

/-- A failure at no token: there are too many tokens for the allowance, or one of them is
a number of too many digits. -/
inductive Excused (room : Nat) (tokens : List Token) : ParseFailure → Prop where
  | nested (place : Location) (deep : room ≤ tokens.length) : Excused room tokens (.invalid ⟨.nestedTooDeeply, place⟩)
  | uncounted {token : Token} (member : token ∈ tokens) (many : Literal.ofToken? token = some none) :
      Excused room tokens (.broken (.tooManyDigits (token.text.toList.takeWhile Char.isDigit).length))

/-- The failure is an error at one of the tokens, and those before it can be completed. -/
def Blamed (frame : Frame) (room : Nat) (claim : List Token → Prop) (tokens : List Token) (failure : ParseFailure) : Prop :=
  Excused room tokens failure ∨ ∃ used rest cause, tokens = used ++ rest ∧ cause ≠ .nestedTooDeeply ∧
    failure = .invalid ⟨cause, (frame.reader rest).current.location⟩ ∧ Opens claim used

def Blames (frame : Frame) (room : Nat) (parser : Parser α) (claim : List Token → Prop) : Prop :=
  ∀ tokens failure, tokens.length < frame.bound → parser (frame.reader tokens) = .error failure →
    Blamed frame room claim tokens failure

/-- What stands around a part is completed with it. -/
theorem Blamed.around (blamed : Blamed frame room inner rest failure) (front : List Token) (kinds : List TokenKind)
    (written : ∀ kind ∈ kinds, kind = .identifier ∨ signText kind ≠ "") (roomy : spare ≤ room + front.length)
    (holds : ∀ all, inner all → outer (front ++ (all ++ kinds.map filling))) :
    Blamed frame spare outer (front ++ rest) failure := by
  refine blamed.imp ?_ ?_
  · rintro (⟨place, deep⟩ | ⟨member, many⟩)
    · exact .nested place (by rw [List.length_append]; omega)
    · exact .uncounted (List.mem_append_right front member) many
  · rintro ⟨used, last, cause, rfl, plain, located, completion, genuine, holding⟩
    refine ⟨front ++ used, last, cause, (List.append_assoc ..).symm, plain, located, completion ++ kinds.map filling, ?_, ?_⟩
    · intro token member
      rcases List.mem_append.mp member with inside | added
      · exact genuine token inside
      · obtain ⟨kind, given, rfl⟩ := List.mem_map.mp added
        exact filling_genuine (written kind given)
    · simpa using holds _ holding

theorem Blamed.behind (blamed : Blamed frame room inner rest failure) (front : List Token)
    (roomy : spare ≤ room + front.length) (holds : ∀ all, inner all → outer (front ++ all)) :
    Blamed frame spare outer (front ++ rest) failure :=
  blamed.around front [] nofun roomy fun all given => by simpa using holds all given

theorem Blamed.mono (blamed : Blamed frame room inner tokens failure) (roomy : spare ≤ room)
    (implies : ∀ all, inner all → outer all) : Blamed frame spare outer tokens failure :=
  blamed.behind [] roomy implies

theorem Blamed.stop {cause : SyntaxCause} (plain : cause ≠ .nestedTooDeeply) (front : List Token) (opens : Opens inner front) :
    Blamed frame room inner (front ++ rest) (.invalid ⟨cause, (frame.reader rest).current.location⟩) :=
  .inr ⟨front, rest, cause, rfl, plain, rfl, opens⟩

private theorem bind_eq_error {before : Reader} :
    (parser >>= next) before = .error failure ↔ parser before = .error failure ∨
    ∃ value middle, parser before = .ok (value, middle) ∧ next value middle = .error failure := by
  change Except.bind (parser before) (fun pair => next pair.1 pair.2) = .error failure ↔ _
  cases parser before with
  | error other => simp [Except.bind]
  | ok pair =>
    refine ⟨fun failed => .inr ⟨pair.1, pair.2, rfl, failed⟩, ?_⟩
    rintro (⟨⟨⟩⟩ | ⟨value, middle, ⟨⟩, failed⟩)
    exact failed

private theorem expect_eq_error {expected : TokenKind} {expectation : Expectation}
    (failed : expect expected expectation (frame.reader tokens) = .error failure) :
    ∃ cause, cause ≠ .nestedTooDeeply ∧ failure = .invalid ⟨cause, (frame.reader tokens).current.location⟩ := by
  rw [expect, bind_of_ok kind_reader] at failed
  split at failed
  next =>
    cases tokens with
    | nil => cases failed
    | cons token others =>
      rw [advance_reader] at failed
      cases failed
  next =>
    rw [bind_of_ok get_reader] at failed
    cases failed
    exact ⟨_, by simp, rfl⟩

private theorem expectName_eq_error {expectation : Expectation}
    (failed : expectName expectation (frame.reader tokens) = .error failure) :
    ∃ cause, cause ≠ .nestedTooDeeply ∧ failure = .invalid ⟨cause, (frame.reader tokens).current.location⟩ := by
  rcases bind_eq_error.mp failed with failed | ⟨_, _, _, returned⟩
  · exact expect_eq_error failed
  · cases returned

/-- A token of the kind asked for is consumed, or nothing is. -/
theorem accept_bind_cases {expected : TokenKind} {next : Bool → Parser β} {result : Except ParseFailure (β × Reader)}
    (ordinary : expected ≠ .endOfInput) (whole : (accept expected >>= next) (frame.reader tokens) = result) :
    (∃ token others, tokens = token :: others ∧ token.kind = expected ∧ next true (frame.reader others) = result) ∨
      next false (frame.reader tokens) = result := by
  by_cases matching : headKind tokens = expected
  · cases tokens with
    | nil => exact absurd matching.symm ordinary
    | cons token others => exact .inl ⟨token, others, rfl, matching, (bind_of_ok (accept_of_kind matching)).symm.trans whole⟩
  · exact .inr ((bind_of_ok (accept_of_other matching)).symm.trans whole)

end Failures

section Chains
variable {frame : Frame} {room : Nat} {level : Level} {operand : Parser Expr}

private theorem chainFrom_blames (single : Reads frame operand level.operand)
    (blames : Blames frame room operand (Is level.operand)) (limit : Nat) : ∀ tokens left failure,
    tokens.length < frame.bound → chainFrom (table level) operand limit left (frame.reader tokens) = .error failure →
    ∀ before, Derives before (.chain level left) →
      Blamed frame room (Is (.chain level)) (before ++ tokens) failure := by
  induction limit with
  | zero =>
    intro tokens left failure _ failed
    cases failed
  | succ limit ih =>
    intro tokens left failure short failed before derived
    rw [chainFrom, bind_of_ok kind_reader] at failed
    cases found : table level (headKind tokens) with
    | none =>
      simp only [found] at failed
      cases failed
    | some operator =>
      simp only [found] at failed
      have joins := table_eq_some_iff.mp found
      cases tokens with
      | nil => exact absurd joins sign_ordinary
      | cons sign others =>
        rw [List.length_cons] at short
        rw [bind_of_ok advance_reader] at failed
        rcases bind_eq_error.mp failed with failed | ⟨right, middle, read, failed⟩
        · rw [List.append_cons]
          refine (blames others failure (by omega) failed).behind (before ++ [sign]) (by simp) ?_
          rintro all ⟨right, behind⟩
          exact ⟨_, by simpa using Derives.operation derived joins behind⟩
        · obtain ⟨used, rest, rfl, rfl, behind⟩ := single others right middle (by omega) read
          rw [List.length_append] at short
          have joined := ih rest _ failure (by omega) failed _ (Derives.operation derived joins behind)
          rwa [List.append_assoc, List.cons_append] at joined

private theorem chain_blames (level : Level) (single : Reads frame operand level.operand)
    (blames : Blames frame room operand (Is level.operand)) :
    Blames frame room (chain (table level) operand) (Is (.chain level)) := by
  intro tokens failure short failed
  have wrap (all : List Token) : Is level.operand all → Is (.chain level) all :=
    fun ⟨tree, derived⟩ => ⟨tree, .operand level derived⟩
  rcases bind_eq_error.mp failed with failed | ⟨left, middle, read, failed⟩
  · exact (blames tokens failure short failed).mono (Nat.le_refl _) wrap
  · obtain ⟨used, rest, rfl, rfl, first⟩ := single tokens left middle short read
    rw [bind_of_ok steps_reader] at failed
    rw [List.length_append] at short
    exact chainFrom_blames single blames _ rest left failure (by omega) failed used (.operand level first)

private theorem disjunction_blames (single : Reads frame operand .unary)
    (blames : Blames frame room operand (Is .unary)) :
    Blames frame room (disjunction operand) (Is (.chain .disjunction)) := by
  have product := chain_sound .product single
  have sum := chain_sound .sum product
  have relation := chain_sound .relation sum
  have conjunction := chain_sound .conjunction relation
  exact chain_blames .disjunction conjunction <| chain_blames .conjunction relation <|
    chain_blames .relation sum <| chain_blames .sum product <|
    chain_blames .product single blames

end Chains

section Sequences
variable {frame : Frame} {room : Nat} {α β : Type} {item : Parser α} {wrap : α → Item} {closing : TokenKind}

def IsItem (wrap : α → Item) (all : List Token) : Prop :=
  ∃ value, Derives all (.item (wrap value))

def AreItems (wrap : α → Item) (all : List Token) : Prop :=
  ∃ values : List α, Derives all (.items (values.map wrap))

/-- Items and the token that closes them. -/
def Closed (wrap : α → Item) (closing : TokenKind) (all : List Token) : Prop :=
  ∃ (held : List Token) (last : Token) (values : List α), all = held ++ [last] ∧ last.kind = closing ∧
    Derives held (.sequence (values.map wrap))

private theorem itemsFrom_blames (sound : Sound frame item fun used value => Derives used (.item (wrap value)))
    (blames : Blames frame room item (IsItem wrap)) (limit : Nat) : ∀ tokens failure, tokens.length < frame.bound →
      itemsFrom item closing limit (frame.reader tokens) = .error failure →
      ∀ before value, Derives before (.item (wrap value)) → Blamed frame room (AreItems wrap) (before ++ tokens) failure := by
  induction limit with
  | zero =>
    intro tokens failure _ failed
    cases failed
  | succ limit ih =>
    intro tokens failure short failed before value derived
    rw [itemsFrom] at failed
    rcases accept_bind_cases (by decide) failed with ⟨comma, others, rfl, separates, failed⟩ | failed
    · rw [List.length_cons] at short
      simp only [Bool.not_true, Bool.false_eq_true, ↓reduceIte, bind_of_ok kind_reader] at failed
      split at failed
      next => cases failed
      next =>
        rcases bind_eq_error.mp failed with failed | ⟨next, middle, read, failed⟩
        · rw [List.append_cons]
          refine (blames others failure (by omega) failed).behind (before ++ [comma]) (by simp) ?_
          rintro all ⟨next, behind⟩
          exact ⟨[value, next], by simpa using Derives.several derived separates (.single behind)⟩
        · obtain ⟨used, rest, rfl, rfl, behind⟩ := sound others next middle (by omega) read
          rw [List.length_append] at short
          rcases bind_eq_error.mp failed with failed | ⟨_, _, _, failed⟩
          · have joined := ih rest failure (by omega) failed used next behind
            rw [List.append_cons]
            refine joined.behind (before ++ [comma]) (by simp) ?_
            rintro all ⟨values, tail⟩
            exact ⟨value :: values, by simpa using Derives.several derived separates tail⟩
          · cases failed
    · cases failed

private theorem items_blames (sound : Sound frame item fun used value => Derives used (.item (wrap value)))
    (blames : Blames frame room item (IsItem wrap)) : Blames frame room (items item closing) (AreItems wrap) := by
  intro tokens failure short failed
  rw [items, bind_of_ok kind_reader] at failed
  split at failed
  next => cases failed
  next =>
    rcases bind_eq_error.mp failed with failed | ⟨first, middle, read, failed⟩
    · refine (blames tokens failure short failed).mono (Nat.le_refl _) ?_
      rintro all ⟨value, derived⟩
      exact ⟨[value], .single derived⟩
    · obtain ⟨used, rest, rfl, rfl, derived⟩ := sound tokens first middle short read
      rw [List.length_append] at short
      rw [bind_of_ok steps_reader] at failed
      rcases bind_eq_error.mp failed with failed | ⟨_, _, _, failed⟩
      · exact itemsFrom_blames sound blames _ rest failure (by omega) failed used first derived
      · cases failed

private theorem closed_blames (sound : Sound frame item fun used value => Derives used (.item (wrap value)))
    (blames : Blames frame room item (IsItem wrap)) {expectation : Expectation} {build : List α → β}
    (written : signText closing ≠ "") : Blames frame room (do
        let values ← items item closing
        let _ ← expect closing expectation
        return build values) (Closed wrap closing) := by
  have closes {all : List Token} {values : List α} (held : Derives all (.sequence (values.map wrap))) :
      Closed wrap closing (all ++ [closing].map filling) := ⟨all, filling closing, values, rfl, rfl, held⟩
  intro tokens failure short failed
  rcases bind_eq_error.mp failed with failed | ⟨values, middle, read, failed⟩
  · have inside := items_blames sound blames tokens failure short failed
    exact inside.around [] [closing] (by simp [written]) (Nat.le_refl _) fun all ⟨values, derived⟩ => closes (.some derived)
  · obtain ⟨held, rest, rfl, rfl, derived⟩ := items_sound sound tokens values middle short read
    rcases bind_eq_error.mp failed with failed | ⟨_, _, _, failed⟩
    · obtain ⟨cause, plain, rfl⟩ := expect_eq_error failed
      exact .stop plain held (.filled [closing] (by simp [written]) (closes derived))
    · cases failed

end Sequences

section Operands
variable {frame : Frame} {room : Nat} {inner : Parser Expr} {tokens rest used all : List Token} {failure : ParseFailure}
  {name opening : Token}

abbrev fieldItem (member : String × Expr) : Item :=
  .field member.1 member.2

abbrev entryItem (pair : Expr × Expr) : Item :=
  .entry pair.1 pair.2

/-- Tokens that make an operand with this one before them. -/
def Continues (first : Token) (all : List Token) : Prop :=
  Is .primary (first :: all)

private theorem enclosed_blames (sound : Reads frame inner .expression)
    (blames : Blames frame room inner (Is .expression))
    {closing : TokenKind} {expectation : Expectation} {build : List Expr → β} (written : signText closing ≠ "") :
    Blames frame room (do
      let values ← items inner closing
      let _ ← expect closing expectation
      return build values) (Closed Item.element closing) :=
  closed_blames (sound.weaken fun _ _ derived => .element derived)
    (fun tokens failure short failed => (blames tokens failure short failed).mono (Nat.le_refl _)
      fun _ ⟨tree, derived⟩ => ⟨tree, .element derived⟩) written

private theorem callArguments_blames (sound : Reads frame inner .expression)
    (blames : Blames frame room inner (Is .expression)) :
    Blames frame room (callArguments inner) (Closed Item.element .rightParen) :=
  enclosed_blames sound blames (by decide)

private theorem structField_blames (blames : Blames frame room inner (Is .expression)) :
    Blames frame room (structField inner) (IsItem fieldItem) := by
  intro tokens failure short failed
  rcases bind_eq_error.mp failed with failed | ⟨_, _, named, failed⟩
  · obtain ⟨cause, plain, rfl⟩ := expectName_eq_error failed
    refine .stop plain [] (.filled [.identifier, .colon, .identifier] (by decide) ?_)
    exact ⟨("a", _), .field rfl rfl name_isExpression⟩
  obtain ⟨name, others, rfl, names, rfl, rfl⟩ := expectName_eq_ok named
  rcases bind_eq_error.mp failed with failed | ⟨colon, _, expected, failed⟩
  · obtain ⟨cause, plain, rfl⟩ := expect_eq_error failed
    refine .stop plain [name] (.filled [.colon, .identifier] (by decide) ?_)
    exact ⟨(name.text, _), .field names rfl name_isExpression⟩
  obtain ⟨others, rfl, parts, rfl⟩ := expect_eq_ok (by decide) expected
  rcases bind_eq_error.mp failed with failed | ⟨_, _, _, ⟨⟩⟩
  have inside := blames others failure (by simp at short; omega) failed
  refine inside.behind [name, colon] (by omega) ?_
  rintro all ⟨value, derived⟩
  exact ⟨(name.text, value), by simpa using Derives.field names parts derived⟩

private theorem mapEntry_blames (sound : Reads frame inner .expression)
    (blames : Blames frame room inner (Is .expression)) :
    Blames frame room (mapEntry inner) (IsItem entryItem) := by
  intro tokens failure short failed
  rcases bind_eq_error.mp failed with failed | ⟨key, middle, read, failed⟩
  · refine (blames tokens failure short failed).around [] [.colon, .identifier] (by decide) (Nat.le_refl _) ?_
    rintro all ⟨key, derived⟩
    exact ⟨(key, _), .entry derived rfl name_isExpression⟩
  obtain ⟨before, rest, rfl, rfl, first⟩ := sound tokens key middle short read
  rw [List.length_append] at short
  rcases bind_eq_error.mp failed with failed | ⟨colon, _, expected, failed⟩
  · obtain ⟨cause, plain, rfl⟩ := expect_eq_error failed
    refine .stop plain before (.filled [.colon, .identifier] (by decide) ?_)
    exact ⟨(key, _), .entry first rfl name_isExpression⟩
  obtain ⟨others, rfl, parts, rfl⟩ := expect_eq_ok (by decide) expected
  rw [List.length_cons] at short
  rcases bind_eq_error.mp failed with failed | ⟨_, _, _, ⟨⟩⟩
  rw [List.append_cons]
  refine (blames others failure (by omega) failed).behind (before ++ [colon]) (by omega) ?_
  rintro all ⟨value, derived⟩
  exact ⟨(key, value), by simpa using Derives.entry first parts derived⟩

private theorem continues_of_fields (opens : opening.kind = .leftBrace) (starts : StartsField all)
    (closed : Closed fieldItem .rightBrace all) : Continues opening all := by
  obtain ⟨held, closing, members, rfl, closes, derived⟩ := closed
  exact ⟨_, .untyped opens derived closes ((startsField_append closes).mp starts)⟩

private theorem continues_of_entries (opens : opening.kind = .leftBrace) (apart : ¬ StartsField all)
    (closed : Closed entryItem .rightBrace all) : Continues opening all := by
  obtain ⟨held, closing, pairs, rfl, closes, derived⟩ := closed
  exact ⟨_, .map opens derived closes fun starts => apart ((startsField_append closes).mpr starts)⟩

/-- Whether braces hold fields is seen from two tokens, and fewer can be completed to either. -/
theorem opens_braces (opens : opening.kind = .leftBrace)
    (asFields : StartsField (used ++ rest) → Opens (Closed fieldItem .rightBrace) used)
    (asEntries : ¬ StartsField (used ++ rest) → Opens (Closed entryItem .rightBrace) used) :
    Opens (Continues opening) used := by
  match used with
  | [] => exact .filled [.rightBrace] (by decide) ⟨.map [], .map opens .none rfl (by simp [StartsField])⟩
  | [first] =>
    by_cases names : first.kind = .identifier
    · refine .filled [.colon, .identifier, .rightBrace] (by decide) ?_
      refine continues_of_fields opens (startsField_cons.mpr ⟨names, rfl⟩) ?_
      have only : Derives [first, filling .colon, filling .identifier] (.items (fields [(first.text, .identifier "a")])) :=
        .single (.field names rfl name_isExpression)
      exact ⟨_, filling .rightBrace, [(first.text, .identifier "a")], rfl, rfl, .some only⟩
    · have apart (others : List Token) : ¬ StartsField ([first] ++ others) := by
        rintro ⟨name, colon, rest, same, named, -⟩
        cases same
        exact names named
      obtain ⟨completion, genuine, closed⟩ := asEntries (apart rest)
      exact ⟨completion, genuine, continues_of_entries opens (apart completion) closed⟩
  | first :: second :: more =>
    have seen (others : List Token) : StartsField (first :: second :: more ++ others) ↔
        first.kind = .identifier ∧ second.kind = .colon := startsField_cons
    by_cases starts : StartsField (first :: second :: more ++ rest)
    · obtain ⟨completion, genuine, closed⟩ := asFields starts
      exact ⟨completion, genuine, continues_of_fields opens ((seen _).mpr ((seen _).mp starts)) closed⟩
    · obtain ⟨completion, genuine, closed⟩ := asEntries starts
      exact ⟨completion, genuine, continues_of_entries opens (fun again => starts ((seen _).mpr ((seen _).mp again))) closed⟩

private theorem typedBraces_blames (sound : Reads frame inner .expression)
    (blames : Blames frame room inner (Is .expression))
    {type : String} (short : tokens.length < frame.bound)
    (failed : braces inner (some type) (frame.reader (opening :: tokens)) = .error failure) :
    Blamed frame room (Closed fieldItem .rightBrace) tokens failure := by
  rw [braces, bind_of_ok advance_reader] at failed
  rcases accept_bind_cases (by decide) failed with ⟨_, _, _, _, ⟨⟩⟩ | failed
  exact closed_blames (structField_sound sound) (structField_blames blames) (by decide) tokens failure short failed

private theorem untypedBraces_blames (sound : Reads frame inner .expression)
    (blames : Blames frame room inner (Is .expression))
    (opens : opening.kind = .leftBrace) (short : tokens.length < frame.bound)
    (failed : braces inner none (frame.reader (opening :: tokens)) = .error failure) :
    Blamed frame room (Continues opening) tokens failure := by
  rw [braces, bind_of_ok advance_reader] at failed
  rcases accept_bind_cases (by decide) failed with ⟨_, _, _, _, ⟨⟩⟩ | failed
  obtain ⟨isStruct, answered, meaning⟩ := startsField_reader frame tokens
  replace failed := (bind_of_ok answered).symm.trans failed
  cases isStruct with
  | true =>
    have starts := meaning.mp rfl
    have inside := closed_blames (structField_sound sound) (structField_blames blames) (by decide) tokens failure short failed
    refine inside.imp_right ?_
    rintro ⟨used, rest, cause, rfl, plain, located, fields⟩
    exact ⟨used, rest, cause, rfl, plain, located, opens_braces opens (fun _ => fields) fun apart => absurd starts apart⟩
  | false =>
    have apart : ¬ StartsField tokens := fun starts => Bool.noConfusion (meaning.mpr starts)
    have inside := closed_blames (mapEntry_sound sound) (mapEntry_blames sound blames) (by decide) tokens failure short failed
    refine inside.imp_right ?_
    rintro ⟨used, rest, cause, rfl, plain, located, entries⟩
    exact ⟨used, rest, cause, rfl, plain, located, opens_braces opens (fun starts => absurd starts apart) fun _ => entries⟩

private theorem continues_of_call (names : name.kind = .identifier) (opens : opening.kind = .leftParen)
    (closed : Closed Item.element .rightParen all) : Continues name (opening :: all) := by
  obtain ⟨given, closing, arguments, rfl, closes, derived⟩ := closed
  rcases presenceTest_cases name.text arguments with ⟨operand, field, has, rfl, -⟩ | ⟨ordinary, -⟩
  · exact ⟨_, .presence names has opens derived closes⟩
  · exact ⟨_, .call names opens derived closes ordinary⟩

private theorem continues_of_struct {before : List Token} {parts : List String}
    (type : Derives (name :: before) (.typeName parts))
    (opens : opening.kind = .leftBrace) (closed : Closed fieldItem .rightBrace all) :
    Continues name (before ++ opening :: all) := by
  obtain ⟨held, closing, members, rfl, closes, derived⟩ := closed
  exact ⟨_, .typed type opens derived closes⟩

private theorem named_blames (sound : Reads frame inner .expression) (blames : Blames frame room inner (Is .expression))
    (names : name.kind = .identifier) : Blames frame room (named inner name.text) (Continues name) := by
  intro tokens failure short failed
  rcases accept_bind_cases (by decide) failed with ⟨opening, others, rfl, opens, failed⟩ | failed
  · rw [List.length_cons] at short
    rcases bind_eq_error.mp failed with failed | ⟨_, _, _, ⟨⟩⟩
    have inside := callArguments_blames sound blames others failure (by omega) failed
    exact inside.behind [opening] (by omega) fun all closed => continues_of_call names opens closed
  obtain ⟨continues, answered, meaning⟩ := startsQualifiedStruct_reader frame tokens
  replace failed := (bind_of_ok answered).symm.trans failed
  cases continues with
  | true =>
    obtain ⟨dot, others, rfl, dots, leads⟩ := meaning.mp rfl
    obtain ⟨before, opening, behind, parts, rfl, opens, type⟩ := leads.typeName
    rw [List.length_cons, List.length_append, List.length_cons] at short
    have reads : nameParts frame.bound (frame.reader (dot :: (before ++ opening :: behind))) =
        .ok (parts, frame.reader (opening :: behind)) :=
      nameParts_reads type dots opens frame.bound (by omega)
    simp only [↓reduceIte, bind_of_ok steps_reader, bind_of_ok reads] at failed
    have inside := typedBraces_blames sound blames (by omega) failed
    rw [List.append_cons, ← List.cons_append]
    refine inside.behind (dot :: (before ++ [opening])) (by omega) fun all closed => ?_
    simpa using continues_of_struct (.dottedName names dots type) opens closed
  | false =>
    simp only [Bool.false_eq_true, ↓reduceIte, bind_of_ok kind_reader] at failed
    split at failed
    next opens =>
      cases tokens with
      | nil => cases opens
      | cons opening others =>
        rw [List.length_cons] at short
        have inside := typedBraces_blames sound blames (by omega) failed
        exact inside.behind [opening] (by omega) fun all closed => continues_of_struct (.simpleName names) opens closed
    next => cases failed

private theorem leadingDot_blames {dot : Token} (sound : Reads frame inner .expression)
    (blames : Blames frame room inner (Is .expression))
    (dots : dot.kind = .dot) : Blames frame room (leadingDot inner) (Continues dot) := by
  intro tokens failure short failed
  rcases bind_eq_error.mp failed with failed | ⟨_, _, named, failed⟩
  · obtain ⟨cause, plain, rfl⟩ := expectName_eq_error failed
    exact .stop plain [] (.filled [.identifier] (by decide) ⟨_, .leadingSelection dots rfl⟩)
  obtain ⟨name, others, rfl, names, rfl, rfl⟩ := expectName_eq_ok named
  rcases accept_bind_cases (by decide) failed with ⟨opening, others, rfl, opens, failed⟩ | ⟨⟨⟩⟩
  rcases bind_eq_error.mp failed with failed | ⟨_, _, _, ⟨⟩⟩
  rw [List.length_cons, List.length_cons] at short
  have inside := callArguments_blames sound blames others failure (by omega) failed
  refine inside.behind [name, opening] (by omega) ?_
  rintro _ ⟨given, closing, arguments, rfl, closes, derived⟩
  exact ⟨_, .leadingCall dots names opens derived closes⟩

/-- An error at the first token of an operand. -/
theorem unexpected_blamed (failed : (unexpected : Parser Expr) (frame.reader tokens) = .error failure) :
    Blamed frame room (Is .primary) tokens failure := by
  have place {cause : SyntaxCause} (plain : cause ≠ .nestedTooDeeply) : Blamed frame room (Is .primary) tokens
      (.invalid ⟨cause, (frame.reader tokens).current.location⟩) :=
    .stop plain [] (.filled [.identifier] (by decide) ⟨_, name_is⟩)
  unfold unexpected at failed
  split at failed <;> cases failed <;> exact place nofun

private theorem primary_blames (sound : Reads frame inner .expression)
    (blames : Blames frame room inner (Is .expression)) :
    Blames frame (room + 1) (primary inner) (Is .primary) := by
  intro tokens failure short failed
  cases tokens with
  | nil =>
    rw [primary, bind_of_ok get_reader] at failed
    exact unexpected_blamed failed
  | cons token others =>
    have shorter : others.length < frame.bound := by rw [List.length_cons] at short; omega
    have continued (inside : Blamed frame room (Continues token) others failure) :
        Blamed frame (room + 1) (Is .primary) (token :: others) failure :=
      inside.behind [token] (Nat.le_refl _) fun _ derived => derived
    cases found : token.kind
    case leftBracket =>
      rw [primary_of_bracket found, listLiteral, bind_of_ok advance_reader] at failed
      refine continued ((enclosed_blames sound blames (by decide) others failure shorter failed).mono (Nat.le_refl _) ?_)
      rintro _ ⟨held, closing, trees, rfl, closes, derived⟩
      exact ⟨_, .list found derived closes⟩
    case leftBrace =>
      rw [primary_of_brace found] at failed
      exact continued (untypedBraces_blames sound blames found shorter failed)
    case leftParen =>
      rw [primary_of_paren found] at failed
      rcases bind_eq_error.mp failed with failed | ⟨tree, middle, read, failed⟩
      · refine (blames others failure shorter failed).around [token] [.rightParen] (by decide) (Nat.le_refl _) ?_
        rintro all ⟨tree, derived⟩
        exact ⟨tree, .group found derived rfl⟩
      · obtain ⟨held, rest, rfl, rfl, derived⟩ := sound others tree middle shorter read
        rcases bind_eq_error.mp failed with failed | ⟨_, _, _, ⟨⟩⟩
        obtain ⟨cause, plain, rfl⟩ := expect_eq_error failed
        exact .stop plain (token :: held) (.filled [.rightParen] (by decide) ⟨tree, .group found derived rfl⟩)
    case dot =>
      rw [primary_of_dot found] at failed
      exact continued (leadingDot_blames sound blames found others failure shorter failed)
    case identifier =>
      rw [primary_of_name found] at failed
      exact continued (named_blames sound blames found others failure shorter failed)
    all_goals
      rw [primary, bind_of_ok get_reader, current_cons] at failed
      cases denotes : Literal.ofToken? token with
      | none =>
        simp only [denotes, found] at failed
        exact unexpected_blamed failed
      | some literal =>
        simp only [denotes, bind_of_ok advance_reader] at failed
        cases literal with
        | some literal => cases failed
        | none =>
          cases failed
          exact .inl (.uncounted (List.mem_cons_self ..) denotes)

private theorem membersFrom_blames (sound : Reads frame inner .expression)
    (blames : Blames frame room inner (Is .expression))
    (limit : Nat) : ∀ tokens operand failure, tokens.length < frame.bound →
      membersFrom inner limit operand (frame.reader tokens) = .error failure →
      ∀ before, Derives before (.member operand) → Blamed frame (room + 1) (Is .member) (before ++ tokens) failure := by
  induction limit with
  | zero =>
    intro tokens operand failure _ failed
    cases failed
  | succ limit ih =>
    intro tokens operand failure short failed before derived
    rcases accept_bind_cases (by decide) failed with ⟨dot, others, rfl, dots, failed⟩ | failed
    · rcases bind_eq_error.mp failed with failed | ⟨_, _, named, failed⟩
      · obtain ⟨cause, plain, rfl⟩ := expectName_eq_error failed
        rw [List.append_cons]
        have selected := Derives.selection derived dots (filling_kind .identifier)
        exact .stop plain _ (.filled [.identifier] (by decide) ⟨_, by simpa using selected⟩)
      obtain ⟨name, others, rfl, names, rfl, rfl⟩ := expectName_eq_ok named
      rw [List.length_cons, List.length_cons] at short
      rcases accept_bind_cases (by decide) failed with ⟨opening, others, rfl, opens, failed⟩ | failed
      · rw [List.length_cons] at short
        rcases bind_eq_error.mp failed with failed | ⟨arguments, middle, read, looped⟩
        · have inside := callArguments_blames sound blames others failure (by omega) failed
          rw [List.append_cons, List.append_cons, List.append_cons]
          refine inside.behind (before ++ [dot] ++ [name] ++ [opening]) (by simp) ?_
          rintro _ ⟨given, closing, arguments, rfl, closes, inner⟩
          exact ⟨_, by simpa using Derives.method derived dots names opens inner closes⟩
        · obtain ⟨_, rest, rfl, rfl, given, closing, rfl, inner, closes⟩ :=
            callArguments_sound sound others arguments middle (by omega) read
          rw [List.length_append] at short
          have whole := ih rest _ failure (by omega) looped _ (.method derived dots names opens inner closes)
          simpa using whole
      · have whole := ih others _ failure (by omega) failed _ (.selection derived dots names)
        simpa using whole
    · rcases accept_bind_cases (by decide) failed with ⟨opening, others, rfl, opens, failed⟩ | ⟨⟨⟩⟩
      rw [List.length_cons] at short
      rcases bind_eq_error.mp failed with failed | ⟨position, middle, read, failed⟩
      · rw [List.append_cons]
        refine (blames others failure (by omega) failed).around (before ++ [opening]) [.rightBracket] (by decide) (by simp) ?_
        rintro all ⟨position, place⟩
        exact ⟨_, by simpa using Derives.index derived opens place (filling_kind .rightBracket)⟩
      obtain ⟨held, rest, rfl, rfl, place⟩ := sound others position middle (by omega) read
      rcases bind_eq_error.mp failed with failed | ⟨closing, _, expected, failed⟩
      · obtain ⟨cause, plain, rfl⟩ := expect_eq_error failed
        have indexed := Derives.index derived opens place (filling_kind .rightBracket)
        rw [← List.cons_append, ← List.append_assoc]
        exact .stop plain _ (.filled [.rightBracket] (by decide) ⟨_, by simpa using indexed⟩)
      obtain ⟨rest, rfl, closes, rfl⟩ := expect_eq_ok (by decide) expected
      rw [List.length_append, List.length_cons] at short
      have whole := ih rest _ failure (by omega) failed _ (.index derived opens place closes)
      simpa using whole

private theorem member_blames (sound : Reads frame inner .expression)
    (blames : Blames frame room inner (Is .expression)) :
    Blames frame (room + 1) (member inner) (Is .member) := by
  intro tokens failure short failed
  rcases bind_eq_error.mp failed with failed | ⟨operand, middle, read, failed⟩
  · exact (primary_blames sound blames tokens failure short failed).mono (Nat.le_refl _) fun _ ⟨tree, derived⟩ =>
      ⟨tree, .start derived⟩
  · obtain ⟨used, rest, rfl, rfl, derived⟩ := primary_sound sound tokens operand middle short read
    rw [bind_of_ok steps_reader] at failed
    rw [List.length_append] at short
    exact membersFrom_blames sound blames _ rest operand failure (by omega) failed used (.start derived)

end Operands

section Nesting
variable {frame : Frame} {room within beneath : Nat} {inner deeper : Parser Expr}

private theorem unary_blames (sound : Reads frame inner .expression)
    (blames : Blames frame within inner (Is .expression))
    (deep : Blames frame beneath deeper (Is .unary)) (roomy : room ≤ within + 1 ∧ room ≤ beneath + 1) :
    Blames frame room (unary inner deeper) (Is .unary) := by
  intro tokens failure short failed
  by_cases plain : ∀ operator, headKind tokens ≠ mark operator
  · rw [unary_of_other plain] at failed
    exact (member_blames sound blames tokens failure short failed).mono roomy.1 fun _ ⟨tree, derived⟩ => ⟨tree, .bare derived⟩
  · obtain ⟨operator, marks⟩ := Classical.not_forall_not.mp plain
    cases tokens with
    | nil => cases operator <;> cases marks
    | cons sign others =>
      rw [unary_of_mark marks] at failed
      rw [List.length_cons] at short
      rcases bind_eq_error.mp failed with failed | ⟨_, _, _, ⟨⟩⟩
      refine (deep others failure (by omega) failed).behind [sign] roomy.2 ?_
      rintro all ⟨tree, derived⟩
      exact ⟨_, by simpa using Derives.signed marks derived⟩

private theorem conditional_blames (single : Reads frame deeper .unary)
    (blames : Blames frame within inner (Is .expression))
    (deep : Blames frame room deeper (Is .unary)) (roomy : room ≤ within + 1) :
    Blames frame room (conditional inner deeper) (Is .expression) := by
  have chain := disjunction_blames single deep
  intro tokens failure short failed
  rcases bind_eq_error.mp failed with failed | ⟨condition, middle, read, failed⟩
  · exact (chain tokens failure short failed).mono (Nat.le_refl _) fun _ ⟨tree, derived⟩ => ⟨tree, .plain derived⟩
  obtain ⟨first, rest, rfl, rfl, tested⟩ := disjunction_sound single tokens condition middle short read
  rw [List.length_append] at short
  rcases accept_bind_cases (by decide) failed with ⟨question, others, rfl, asks, failed⟩ | ⟨⟨⟩⟩
  rw [List.length_cons] at short
  rcases bind_eq_error.mp failed with failed | ⟨whenTrue, middle, read, failed⟩
  · rw [List.append_cons]
    refine (chain others failure (by omega) failed).around (first ++ [question]) [.colon, .identifier] (by decide) (by omega) ?_
    rintro all ⟨whenTrue, chosen⟩
    exact ⟨_, by simpa using Derives.conditional tested asks chosen (filling_kind .colon) name_isExpression⟩
  obtain ⟨second, rest, rfl, rfl, chosen⟩ := disjunction_sound single others whenTrue middle (by omega) read
  rw [List.length_append] at short
  rcases bind_eq_error.mp failed with failed | ⟨colon, _, expected, failed⟩
  · obtain ⟨cause, plain, rfl⟩ := expect_eq_error failed
    have whole := Derives.conditional tested asks chosen (filling_kind .colon) name_isExpression
    rw [← List.cons_append, ← List.append_assoc]
    exact .stop plain _ (.filled [.colon, .identifier] (by decide) ⟨_, by simpa using whole⟩)
  obtain ⟨others, rfl, parts, rfl⟩ := expect_eq_ok (by decide) expected
  rw [List.length_cons] at short
  rcases bind_eq_error.mp failed with failed | ⟨_, _, _, ⟨⟩⟩
  rw [List.append_cons second, ← List.cons_append, ← List.append_assoc]
  refine (blames others failure (by omega) failed).behind (first ++ question :: (second ++ [colon])) (by simp; omega) ?_
  rintro all ⟨otherwise, other⟩
  exact ⟨_, by simpa using Derives.conditional tested asks chosen parts other⟩

private theorem nested_blames (allowance : Nat) : Blames frame allowance (expression allowance) (Is .expression) ∧
    Blames frame (allowance + 1) (operand allowance) (Is .unary) := by
  have nothing (phrase : Expr → Phrase) : Reads frame (fail .nestedTooDeeply) phrase := nofun
  have nested (phrase : Expr → Phrase) : Blames frame 0 (fail .nestedTooDeeply : Parser Expr) (Is phrase) := by
    intro tokens failure _ failed
    cases failed
    exact .inl (.nested _ (Nat.zero_le _))
  induction allowance with
  | zero =>
    exact ⟨nested _, unary_blames (nothing _) (nested _) (nested _) ⟨Nat.le_refl _, Nat.le_refl _⟩⟩
  | succ allowance ih =>
    have sound : Reads frame (expression allowance) .expression ∧ Reads frame (operand allowance) .unary :=
      nested_sound allowance
    have expressions : Blames frame (allowance + 1) (expression (allowance + 1)) (Is .expression) :=
      conditional_blames sound.2 ih.1 ih.2 (Nat.le_refl _)
    exact ⟨expressions, unary_blames (nested_sound (allowance + 1)).1 expressions ih.2 ⟨Nat.le_refl _, Nat.le_refl _⟩⟩

/-- An error in a source is at a token up to which the source can be completed. -/
theorem source_blames (allowance : Nat) : Blames frame allowance (source allowance) (Is .expression) := by
  intro tokens failure short failed
  rw [source, bind_of_ok kind_reader] at failed
  split at failed
  next =>
    cases failed
    exact .stop (by simp) [] opens_expression
  next =>
    rcases bind_eq_error.mp failed with failed | ⟨tree, middle, read, failed⟩
    · exact (nested_blames allowance).1 tokens failure short failed
    · obtain ⟨used, rest, rfl, rfl, derived⟩ := (nested_sound allowance).1 tokens tree middle short read
      rw [bind_of_ok kind_reader] at failed
      split at failed
      next =>
        cases failed
        exact .stop (by simp) used (.done ⟨tree, derived⟩)
      next => cases failed

end Nesting

end CommonExpr.Proofs.ViablePrefix

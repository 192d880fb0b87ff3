import CommonExpr.Proofs.ParserSoundness

/-! The parser finds every derivation: tokens that the grammar derives a tree from are
read as that tree, whatever stands behind them, as long as it does not bind to them.
Operands of one level are joined in a loop, so for those the claim is where the loop
stands when they are read. The nesting allowance need not exceed the number of tokens. -/

namespace CommonExpr.Proofs.ParserCompleteness
open CommonExpr.Parser Grammar TokenReader Lookahead ParserSoundness

/-- How tightly a token binds to an operand before it. -/
def tightness : TokenKind → Nat
  | .question => 1
  | .or => 2
  | .and => 3
  | .eq | .ne | .lt | .le | .gt | .ge | .member => 4
  | .plus | .minus => 5
  | .star | .slash | .percent => 6
  | .dot | .leftBracket | .leftParen | .leftBrace => 7
  | _ => 0

def rank : Level → Nat
  | .disjunction => 2
  | .conjunction => 3
  | .relation => 4
  | .sum => 5
  | .product => 6

private theorem tightness_of_sign {level : Level} {kind : TokenKind} {operator : BinaryOperator}
    (sign : level.Sign kind operator) :
    tightness kind = rank level := by
  cases sign <;> rfl

private theorem table_eq_none {level : Level} {kind : TokenKind} (other : tightness kind ≠ rank level) :
    table level kind = none := by
  cases found : table level kind with
  | none => rfl
  | some operator => exact absurd (tightness_of_sign (table_eq_some_iff.mp found)) other

/-- Nothing that would be read as a part of a name or a call stands ahead. -/
structure Loose (rest : List Token) : Prop where
  notCalled : headKind rest ≠ .leftParen
  notOpened : headKind rest ≠ .leftBrace
  notContinued : ¬ ContinuesType rest

section Follow
variable {rest : List Token}

private theorem loose_of_tightness (apart : tightness (headKind rest) < 7) : Loose rest where
  notCalled called := by rw [called] at apart; contradiction
  notOpened opened := by rw [opened] at apart; contradiction
  notContinued := by
    rintro ⟨dot, behind, rfl, dots, _⟩
    rw [headKind_cons, dots] at apart
    contradiction

private theorem loose_bracket {opening : Token} (opens : opening.kind = .leftBracket) : Loose (opening :: rest) where
  notCalled := by simp [opens]
  notOpened := by simp [opens]
  notContinued := by simp [continuesType_cons, opens]

private theorem loose_selection {dot name : Token} (dots : dot.kind = .dot) (loose : Loose rest) :
    Loose (dot :: name :: rest) where
  notCalled := by simp [dots]
  notOpened := by simp [dots]
  notContinued := by
    rw [continuesType_cons]
    rintro ⟨_, leads⟩
    cases leads with
    | opening _ opens => exact loose.notOpened opens
    | dotted _ dots leads => exact loose.notContinued ⟨_, _, rfl, dots, leads⟩

private theorem loose_method {dot name opening : Token} (dots : dot.kind = .dot) (opens : opening.kind = .leftParen) :
    Loose (dot :: name :: opening :: rest) where
  notCalled := by simp [dots]
  notOpened := by simp [dots]
  notContinued := by
    rw [continuesType_cons]
    rintro ⟨_, leads⟩
    cases leads with
    | opening _ brace => rw [opens] at brace; cases brace
    | dotted _ dots _ => rw [opens] at dots; cases dots

end Follow

section Beginnings

/-- A kind that is not the end of anything. -/
def Fresh (kind : TokenKind) : Prop :=
  kind ≠ .rightParen ∧ kind ≠ .rightBracket ∧ kind ≠ .rightBrace ∧ kind ≠ .endOfInput

/-- What the first token of a phrase cannot be. -/
def Begins (tokens : List Token) : Phrase → Prop
  | .member _ | .primary _ => Fresh (headKind tokens) ∧ headKind tokens ≠ .bang ∧ headKind tokens ≠ .minus
  | .source _ | .sequence _ => True
  | _ => Fresh (headKind tokens)

private theorem fresh_append {tokens rest : List Token} (fresh : Fresh (headKind tokens)) :
    headKind (tokens ++ rest) = headKind tokens := by
  cases tokens with
  | nil => exact absurd rfl fresh.2.2.2
  | cons token others => rfl

private theorem fresh_length {tokens : List Token} (fresh : Fresh (headKind tokens)) : 0 < tokens.length := by
  cases tokens with
  | nil => exact absurd rfl fresh.2.2.2
  | cons token others => simp

theorem kind_of_literal {token : Token} {tree : Expr} (denotes : Literal.ofToken? token = some (some tree)) :
    Begins [token] (.primary tree) := by
  simp only [Begins, Fresh, headKind_cons]
  cases kind : token.kind <;> simp [Literal.ofToken?, kind] at denotes ⊢

private theorem derives_begins {tokens : List Token} {phrase : Phrase} (derived : Derives tokens phrase) :
    Begins tokens phrase := by
  induction derived with
  | source | none | some | trailing => trivial
  | plain _ ih | element _ ih | single _ ih => exact ih
  | operand level _ ih => cases level <;> exact ih
  | conditional _ _ _ _ _ ih | operation _ _ _ ih _ | entry _ _ _ ih _ | several _ _ _ ih _ =>
    simpa only [Begins, fresh_append ih] using ih
  | bare _ ih => exact ih.1
  | start _ ih => exact ih
  | selection _ _ _ ih | method _ _ _ _ _ _ ih _ | index _ _ _ _ ih _ =>
    simpa only [Begins, fresh_append ih.1] using ih
  | literal denotes => exact kind_of_literal denotes
  | typed type _ _ _ ih _ =>
    cases type with
    | simpleName names | dottedName names _ _ => simp [Begins, Fresh, names]
  | @signed _ _ _ operator marks _ _ => cases operator <;> simp [Begins, Fresh, marks, mark]
  | group sign | list sign | leadingSelection sign | leadingCall sign | presence sign | call sign
  | identifier sign | untyped sign | map sign | simpleName sign | dottedName sign | field sign => simp [Begins, Fresh, sign]

private theorem sequence_begins {tokens : List Token} {all : List Item} (derived : Derives tokens (.sequence all)) :
    (tokens = [] ∧ all = []) ∨ Fresh (headKind tokens) := by
  cases derived with
  | none => exact .inl ⟨rfl, rfl⟩
  | some items => exact .inr (derives_begins items)
  | trailing items _ =>
    have fresh : Fresh (headKind _) := derives_begins items
    exact .inr (by rwa [fresh_append fresh])

end Beginnings

/-- What reads the operands of a level. -/
def beneath (operand : Parser Expr) : Level → Parser Expr
  | .disjunction => chain conjunctive? (chain relational? (chain additive? (chain multiplicative? operand)))
  | .conjunction => chain relational? (chain additive? (chain multiplicative? operand))
  | .relation => chain additive? (chain multiplicative? operand)
  | .sum => chain multiplicative? operand
  | .product => operand

/-- What reads the operand of an operator before it. -/
def deeper : Nat → Parser Expr
  | 0 => fail .nestedTooDeeply
  | allowance + 1 => operand allowance

theorem operand_eq (allowance : Nat) : operand allowance = unary (expression allowance) (deeper allowance) := by
  cases allowance <;> rfl

theorem expression_succ (allowance : Nat) :
    expression (allowance + 1) = conditional (expression allowance) (operand allowance) := rfl

/-- The parser of items of a form reads this one. -/
def ReadsItem (inner : Parser Expr) (before after : Reader) : Item → Prop
  | .element tree => inner before = .ok (tree, after)
  | .field name value => structField inner before = .ok ((name, value), after)
  | .entry key value => mapEntry inner before = .ok ((key, value), after)

/-- The tokens that end a sequence. -/
def Closes (closing : TokenKind) : Prop :=
  closing = .rightParen ∨ closing = .rightBracket ∨ closing = .rightBrace

/-- The closing token is ahead, with or without a comma before it. -/
def Ending (closing : TokenKind) (rest behind : List Token) : Prop :=
  headKind behind = closing ∧ (rest = behind ∨ ∃ comma, rest = comma :: behind ∧ comma.kind = .comma)

/-- What comes of reading a phrase with the rest of the tokens behind it. -/
def Outcome (frame : Frame) (tokens rest : List Token) (allowance : Nat) : Phrase → Prop
  | .expression tree => tokens.length ≤ allowance → tightness (headKind rest) = 0 →
      expression allowance (frame.reader (tokens ++ rest)) = .ok (tree, frame.reader rest)
  | .chain level tree => tokens.length ≤ allowance + 1 → tightness (headKind rest) ≤ rank level →
      ∃ steps, rest.length < steps ∧
        chain (table level) (beneath (operand allowance) level) (frame.reader (tokens ++ rest)) =
          chainFrom (table level) (beneath (operand allowance) level) steps tree (frame.reader rest)
  | .unary tree => tokens.length ≤ allowance + 1 → tightness (headKind rest) < 7 →
      operand allowance (frame.reader (tokens ++ rest)) = .ok (tree, frame.reader rest)
  | .member tree => tokens.length ≤ allowance + 1 → Loose rest →
      ∃ steps, rest.length < steps ∧ member (expression allowance) (frame.reader (tokens ++ rest)) =
        membersFrom (expression allowance) steps tree (frame.reader rest)
  | .primary tree => tokens.length ≤ allowance + 1 → Loose rest →
      primary (expression allowance) (frame.reader (tokens ++ rest)) = .ok (tree, frame.reader rest)
  | .item item => tokens.length ≤ allowance → tightness (headKind rest) = 0 →
      ReadsItem (expression allowance) (frame.reader (tokens ++ rest)) (frame.reader rest) item
  | .items all => tokens.length ≤ allowance → ∀ closing behind, Closes closing → Ending closing rest behind →
      ∀ (α : Type) (item : Parser α) (wrap : α → Item) (values : List α), all = values.map wrap →
        (∀ value before after, ReadsItem (expression allowance) before after (wrap value) → item before = .ok (value, after)) →
        ∃ value others middle, values = value :: others ∧
          item (frame.reader (tokens ++ rest)) = .ok (value, frame.reader middle) ∧
          ∀ steps, tokens.length + rest.length < steps →
            itemsFrom item closing steps (frame.reader middle) = .ok (others, frame.reader behind)
  | .sequence all => tokens.length ≤ allowance → Closes (headKind rest) →
      ∀ (α : Type) (item : Parser α) (wrap : α → Item) (values : List α), all = values.map wrap →
        (∀ value before after, ReadsItem (expression allowance) before after (wrap value) → item before = .ok (value, after)) →
        items item (headKind rest) (frame.reader (tokens ++ rest)) = .ok (values, frame.reader rest)
  | .source _ | .typeName _ => True

def Found (frame : Frame) (tokens : List Token) (phrase : Phrase) : Prop :=
  ∀ rest allowance, tokens.length + rest.length < frame.bound → Outcome frame tokens rest allowance phrase

variable {frame : Frame} {rest : List Token} {allowance : Nat}

section Chains
variable {tokens : List Token} {tree : Expr} {level : Level}

private theorem chainFrom_stops {operand : Parser Expr} (steps : Nat) (left : Expr)
    (apart : tightness (headKind rest) < rank level) :
    chainFrom (table level) operand steps left (frame.reader rest) = .ok (left, frame.reader rest) := by
  cases steps with
  | zero => rfl
  | succ steps =>
    rw [chainFrom, bind_of_ok kind_reader, table_eq_none (Nat.ne_of_lt apart)]
    rfl

private theorem chain_reads (level : Level) (found : Found frame tokens (.chain level tree))
    (room : tokens.length + rest.length < frame.bound) (enough : tokens.length ≤ allowance + 1)
    (apart : tightness (headKind rest) < rank level) :
    chain (table level) (beneath (operand allowance) level) (frame.reader (tokens ++ rest)) =
      .ok (tree, frame.reader rest) := by
  obtain ⟨steps, _, reached⟩ := found rest allowance room enough (Nat.le_of_lt apart)
  rw [reached, chainFrom_stops steps tree apart]

private theorem beneath_reads (found : Found frame tokens (level.operand tree))
    (room : tokens.length + rest.length < frame.bound)
    (enough : tokens.length ≤ allowance + 1) (apart : tightness (headKind rest) ≤ rank level) :
    beneath (operand allowance) level (frame.reader (tokens ++ rest)) = .ok (tree, frame.reader rest) := by
  have looser := Nat.lt_succ_of_le apart
  cases level with
  | disjunction => exact chain_reads .conjunction found room enough looser
  | conjunction => exact chain_reads .relation found room enough looser
  | relation => exact chain_reads .sum found room enough looser
  | sum => exact chain_reads .product found room enough looser
  | product => exact found rest allowance room enough looser

private theorem operand_found (found : Found frame tokens (level.operand tree)) :
    Found frame tokens (.chain level tree) := by
  intro rest allowance room enough apart
  refine ⟨frame.bound, by omega, ?_⟩
  rw [chain, bind_of_ok (beneath_reads found room enough apart), bind_of_ok steps_reader]

private theorem operation_found {first second : List Token} {left right : Expr} {sign : Token}
    {operator : BinaryOperator}
    (before : Found frame first (.chain level left)) (joins : level.Sign sign.kind operator)
    (behind : Found frame second (level.operand right)) :
    Found frame (first ++ sign :: second) (.chain level (.binary operator left right)) := by
  intro rest allowance room enough apart
  simp only [List.length_append, List.length_cons] at room enough
  obtain ⟨steps, many, reached⟩ := before (sign :: (second ++ rest)) allowance (by simp; omega) (by omega)
    (Nat.le_of_eq (tightness_of_sign joins))
  cases steps with
  | zero => simp at many
  | succ steps =>
    refine ⟨steps, by simp at many; omega, ?_⟩
    rw [List.append_assoc, List.cons_append, reached, chainFrom, bind_of_ok kind_reader, headKind_cons,
      table_eq_some_iff.mpr joins]
    simp only
    rw [bind_of_ok advance_reader, bind_of_ok (beneath_reads behind (by omega) (by omega) apart)]

end Chains

section Sequences
variable {tokens : List Token}

private theorem closes_facts {closing : TokenKind} (closes : Closes closing) :
    tightness closing = 0 ∧ closing ≠ .comma ∧ ∀ kind, Fresh kind → kind ≠ closing := by
  rcases closes with rfl | rfl | rfl
  · exact ⟨rfl, by decide, fun kind fresh => fresh.1⟩
  · exact ⟨rfl, by decide, fun kind fresh => fresh.2.1⟩
  · exact ⟨rfl, by decide, fun kind fresh => fresh.2.2.1⟩

private theorem tightness_ending {closing : TokenKind} {behind : List Token} (closes : Closes closing)
    (ending : Ending closing rest behind) : tightness (headKind rest) = 0 := by
  obtain ⟨closed, rfl | ⟨comma, rfl, separates⟩⟩ := ending
  · rw [closed, (closes_facts closes).1]
  · rw [headKind_cons, separates]
    rfl

private theorem itemsFrom_ends {item : Parser α} {closing : TokenKind} {behind : List Token} {steps : Nat}
    (closes : Closes closing) (ending : Ending closing rest behind) (many : 0 < steps) :
    itemsFrom item closing steps (frame.reader rest) = .ok ([], frame.reader behind) := by
  obtain ⟨steps, rfl⟩ := Nat.exists_eq_succ_of_ne_zero (Nat.ne_of_gt many)
  obtain ⟨closed, rfl | ⟨comma, rfl, separates⟩⟩ := ending
  · rw [itemsFrom, bind_of_ok (accept_of_other (by rw [closed]; exact (closes_facts closes).2.1))]
    rfl
  · rw [itemsFrom, bind_of_ok (accept_of_kind separates)]
    simp only [Bool.not_true, Bool.false_eq_true, ↓reduceIte]
    rw [bind_of_ok kind_reader, if_pos closed]
    rfl

private theorem single_found {item : Item} (found : Found frame tokens (.item item)) :
    Found frame tokens (.items [item]) := by
  intro rest allowance room enough closing behind closes ending α parser wrap values same reads
  obtain ⟨value, rfl, rfl⟩ := List.map_eq_singleton_iff.mp same.symm
  have read := reads value _ _ (found rest allowance room enough (tightness_ending closes ending))
  exact ⟨value, [], rest, rfl, read, fun steps many => itemsFrom_ends closes ending (by omega)⟩

private theorem several_found {first second : List Token} {item : Item} {others : List Item} {comma : Token}
    (head : Found frame first (.item item)) (separates : comma.kind = .comma) (begins : Begins second (.items others))
    (tail : Found frame second (.items others)) : Found frame (first ++ comma :: second) (.items (item :: others)) := by
  intro rest allowance room enough closing behind closes ending α parser wrap values same reads
  simp only [List.length_append, List.length_cons] at room enough
  obtain ⟨value, others, rfl, rfl, rfl⟩ := List.map_eq_cons_iff.mp same.symm
  have separated : tightness (headKind (comma :: (second ++ rest))) = 0 := by
    rw [headKind_cons, separates]
    rfl
  have read := reads value _ _ (head (comma :: (second ++ rest)) allowance (by simp; omega) (by omega) separated)
  obtain ⟨next, behindNext, middle, rfl, readNext, finish⟩ :=
    tail rest allowance (by omega) (by omega) closing behind closes ending α parser wrap others rfl reads
  refine ⟨value, next :: behindNext, _, rfl, by simpa using read, fun steps many => ?_⟩
  simp only [List.length_append, List.length_cons] at many
  obtain ⟨steps, rfl⟩ := Nat.exists_eq_succ_of_ne_zero (show steps ≠ 0 by omega)
  have fresh : headKind (second ++ rest) ≠ closing := by
    rw [fresh_append begins]
    exact (closes_facts closes).2.2 _ begins
  rw [itemsFrom, bind_of_ok (accept_of_kind separates)]
  simp only [Bool.not_true, Bool.false_eq_true, ↓reduceIte]
  rw [bind_of_ok kind_reader, if_neg fresh, bind_of_ok readNext, bind_of_ok (finish steps (by omega))]
  rfl

private theorem none_found : Found frame [] (.sequence []) := by
  intro rest allowance room enough closes α item wrap values same reads
  obtain rfl := List.map_eq_nil_iff.mp same.symm
  rw [List.nil_append, items, bind_of_ok kind_reader, if_pos rfl]
  rfl

/-- Items up to a closing token, with or without a comma before it. -/
private theorem items_reads {all : List Item} {behind : List Token} (found : Found frame tokens (.items all))
    (begins : Begins tokens (.items all)) (room : tokens.length + rest.length < frame.bound)
    (enough : tokens.length ≤ allowance) (closes : Closes (headKind behind)) (ending : Ending (headKind behind) rest behind)
    {item : Parser α} {wrap : α → Item} {values : List α} (same : all = values.map wrap)
    (reads : ∀ value before after, ReadsItem (expression allowance) before after (wrap value) →
      item before = .ok (value, after)) :
    items item (headKind behind) (frame.reader (tokens ++ rest)) = .ok (values, frame.reader behind) := by
  obtain ⟨value, others, middle, rfl, read, finish⟩ :=
    found rest allowance room enough _ behind closes ending α item wrap values same reads
  have fresh : headKind (tokens ++ rest) ≠ headKind behind := by
    rw [fresh_append begins]
    exact (closes_facts closes).2.2 _ begins
  rw [items, bind_of_ok kind_reader, if_neg fresh, bind_of_ok read, bind_of_ok steps_reader, bind_of_ok (finish _ room)]
  rfl

private theorem some_found {all : List Item} (found : Found frame tokens (.items all))
    (begins : Begins tokens (.items all)) : Found frame tokens (.sequence all) := by
  intro rest allowance room enough closes α item wrap values same reads
  exact items_reads found begins room enough closes ⟨rfl, .inl rfl⟩ same reads

private theorem trailing_found {all : List Item} {comma : Token} (found : Found frame tokens (.items all))
    (begins : Begins tokens (.items all)) (separates : comma.kind = .comma) :
    Found frame (tokens ++ [comma]) (.sequence all) := by
  intro rest allowance room enough closes α item wrap values same reads
  simp only [List.length_append, List.length_singleton] at room enough
  rw [List.append_assoc, List.singleton_append]
  exact items_reads found begins (by simp; omega) (by omega) closes ⟨rfl, .inr ⟨comma, rfl, separates⟩⟩ same reads

/-- Items up to a closing token, which is consumed. -/
private theorem enclosed_reads {held : List Token} {closing : Token} {wrap : α → Item} {values : List α}
    {item : Parser α}
    {expectation : Expectation} {build : List α → β} {kind : TokenKind}
    (found : Found frame held (.sequence (values.map wrap))) (closed : closing.kind = kind) (closes : Closes kind)
    (room : held.length + rest.length + 1 < frame.bound) (enough : held.length ≤ allowance)
    (reads : ∀ value before after, ReadsItem (expression allowance) before after (wrap value) →
      item before = .ok (value, after)) :
    (do
      let values ← items item kind
      let _ ← expect kind expectation
      return build values) (frame.reader (held ++ closing :: rest)) = .ok (build values, frame.reader rest) := by
  subst closed
  have read := found (closing :: rest) allowance (by simp; omega) enough closes α item wrap values rfl reads
  rw [headKind_cons] at read
  rw [bind_of_ok read, bind_of_ok (expect_of_kind rfl)]
  rfl

private theorem callArguments_reads {given : List Token} {closing : Token} {arguments : List Expr}
    (found : Found frame given (.sequence (elements arguments))) (closed : closing.kind = .rightParen)
    (room : given.length + rest.length + 1 < frame.bound) (enough : given.length ≤ allowance) :
    callArguments (expression allowance) (frame.reader (given ++ closing :: rest)) = .ok (arguments, frame.reader rest) :=
  enclosed_reads found closed (.inl rfl) room enough fun _ _ _ read => read

end Sequences

section Operands
variable {tokens : List Token} {tree : Expr}

private theorem notClosed {held : List Token} (fresh : Fresh (headKind held)) :
    headKind (held ++ rest) ≠ .rightBrace := by
  rw [fresh_append fresh]
  exact fresh.2.2.1

private theorem braces_struct {held : List Token} {opening closing : Token} {typeName : Option String}
    {members : List (String × Expr)} (derived : Derives held (.sequence (fields members)))
    (found : Found frame held (.sequence (fields members))) (closed : closing.kind = .rightBrace)
    (starts : typeName.isSome ∨ StartsField held) (room : held.length + rest.length + 1 < frame.bound)
    (enough : held.length ≤ allowance) :
    braces (expression allowance) typeName (frame.reader (opening :: (held ++ closing :: rest))) =
      .ok (.struct typeName members, frame.reader rest) := by
  rw [braces, bind_of_ok advance_reader]
  rcases sequence_begins derived with ⟨rfl, none⟩ | fresh
  · obtain rfl := List.map_eq_nil_iff.mp none
    rw [List.nil_append, bind_of_ok (accept_of_kind closed), if_pos rfl]
    cases typeName with
    | some name => rfl
    | none => simp [StartsField] at starts
  · rw [bind_of_ok (accept_of_other (notClosed fresh)), if_neg Bool.false_ne_true]
    have whole : (do
          let members ← items (structField (expression allowance)) .rightBrace
          let _ ← expect .rightBrace .structEnd
          return Expr.struct typeName members) (frame.reader (held ++ closing :: rest)) =
        .ok (.struct typeName members, frame.reader rest) :=
      enclosed_reads found closed (.inr (.inr rfl)) room enough fun _ _ _ read => read
    cases typeName with
    | some name => exact whole
    | none =>
      obtain ⟨answer, answered, meaning⟩ := startsField_reader frame (held ++ closing :: rest)
      obtain rfl := meaning.mpr ((startsField_append closed).mpr (starts.resolve_left (by simp)))
      exact (bind_of_ok answered).trans whole

private theorem braces_map {held : List Token} {opening closing : Token} {pairs : List (Expr × Expr)}
    (derived : Derives held (.sequence (entries pairs))) (found : Found frame held (.sequence (entries pairs)))
    (closed : closing.kind = .rightBrace) (apart : ¬ StartsField held)
    (room : held.length + rest.length + 1 < frame.bound) (enough : held.length ≤ allowance) :
    braces (expression allowance) none (frame.reader (opening :: (held ++ closing :: rest))) =
      .ok (.map pairs, frame.reader rest) := by
  rw [braces, bind_of_ok advance_reader]
  rcases sequence_begins derived with ⟨rfl, none⟩ | fresh
  · obtain rfl := List.map_eq_nil_iff.mp none
    rw [List.nil_append, bind_of_ok (accept_of_kind closed), if_pos rfl]
    rfl
  · rw [bind_of_ok (accept_of_other (notClosed fresh)), if_neg Bool.false_ne_true]
    obtain ⟨answer, answered, meaning⟩ := startsField_reader frame (held ++ closing :: rest)
    obtain rfl : answer = false := by
      cases answer with
      | true => exact absurd ((startsField_append closed).mp (meaning.mp rfl)) apart
      | false => rfl
    refine (bind_of_ok answered).trans ?_
    exact enclosed_reads found closed (.inr (.inr rfl)) room enough fun _ _ _ read => read

private theorem literal_found {token : Token} (denotes : Literal.ofToken? token = some (some tree)) :
    Found frame [token] (.primary tree) := by
  intro rest allowance room enough loose
  exact primary_of_literal denotes

private theorem group_found {opening closing : Token} (opens : opening.kind = .leftParen)
    (inner : Found frame tokens (.expression tree)) (closed : closing.kind = .rightParen) :
    Found frame (opening :: (tokens ++ [closing])) (.primary tree) := by
  intro rest allowance room enough loose
  simp only [List.length_cons, List.length_append, List.length_nil] at room enough
  have bounded : tightness (headKind (closing :: rest)) = 0 := by
    rw [headKind_cons, closed]
    rfl
  have read := inner (closing :: rest) allowance (by simp; omega) (by omega) bounded
  rw [List.cons_append, List.append_assoc, List.singleton_append, primary_of_paren opens, bind_of_ok read,
    bind_of_ok (expect_of_kind closed)]
  rfl

private theorem list_found {trees : List Expr} {opening closing : Token} (opens : opening.kind = .leftBracket)
    (inner : Found frame tokens (.sequence (elements trees))) (closed : closing.kind = .rightBracket) :
    Found frame (opening :: (tokens ++ [closing])) (.primary (.list trees)) := by
  intro rest allowance room enough loose
  simp only [List.length_cons, List.length_append, List.length_nil] at room enough
  rw [List.cons_append, List.append_assoc, List.singleton_append, primary_of_bracket opens, listLiteral,
    bind_of_ok advance_reader]
  exact enclosed_reads inner closed (.inr (.inl rfl)) (by omega) (by omega) fun _ _ _ read => read

private theorem leadingSelection_found {dot name : Token} (dots : dot.kind = .dot) (names : name.kind = .identifier) :
    Found frame [dot, name] (.primary (.select none name.text false)) := by
  intro rest allowance room enough loose
  rw [List.cons_append, List.singleton_append, primary_of_dot dots, leadingDot, bind_of_ok (expectName_of_kind names),
    bind_of_ok (accept_of_other loose.notCalled)]
  rfl

private theorem leadingCall_found {arguments : List Expr} {dot name opening closing : Token} (dots : dot.kind = .dot)
    (names : name.kind = .identifier) (opens : opening.kind = .leftParen)
    (given : Found frame tokens (.sequence (elements arguments))) (closed : closing.kind = .rightParen) :
    Found frame (dot :: name :: opening :: (tokens ++ [closing])) (.primary (.call none name.text arguments false)) := by
  intro rest allowance room enough loose
  simp only [List.length_cons, List.length_append, List.length_nil] at room enough
  simp only [List.cons_append, List.append_assoc, List.nil_append]
  rw [primary_of_dot dots, leadingDot, bind_of_ok (expectName_of_kind names), bind_of_ok (accept_of_kind opens),
    if_pos rfl, bind_of_ok (callArguments_reads given closed (by omega) (by omega))]
  rfl

/-- The call of a name that starts an operand, which may ask for presence. -/
private theorem call_reads {arguments : List Expr} {name opening closing : Token} (names : name.kind = .identifier)
    (opens : opening.kind = .leftParen) (given : Found frame tokens (.sequence (elements arguments)))
    (closed : closing.kind = .rightParen) (same : presenceTest name.text arguments = tree) :
    Found frame (name :: opening :: (tokens ++ [closing])) (.primary tree) := by
  intro rest allowance room enough loose
  simp only [List.length_cons, List.length_append, List.length_nil] at room enough
  simp only [List.cons_append, List.append_assoc, List.nil_append]
  rw [primary_of_name names, named, bind_of_ok (accept_of_kind opens), if_pos rfl,
    bind_of_ok (callArguments_reads given closed (by omega) (by omega)), same]
  rfl

private theorem identifier_found {name : Token} (names : name.kind = .identifier) :
    Found frame [name] (.primary (.identifier name.text)) := by
  intro rest allowance room enough loose
  obtain ⟨continues, answered, meaning⟩ := startsQualifiedStruct_reader frame rest
  obtain rfl : continues = false := by
    cases continues with
    | true => exact absurd (meaning.mp rfl) loose.notContinued
    | false => rfl
  rw [List.singleton_append, primary_of_name names, named, bind_of_ok (accept_of_other loose.notCalled),
    if_neg Bool.false_ne_true, bind_of_ok answered, if_neg Bool.false_ne_true, bind_of_ok kind_reader,
    if_neg loose.notOpened]
  rfl

private theorem typed_found {first second : List Token} {parts : List String} {members : List (String × Expr)}
    {opening closing : Token} (type : Derives first (.typeName parts)) (opens : opening.kind = .leftBrace)
    (derived : Derives second (.sequence (fields members))) (inner : Found frame second (.sequence (fields members)))
    (closed : closing.kind = .rightBrace) :
    Found frame (first ++ opening :: (second ++ [closing]))
      (.primary (.struct (some (".".intercalate parts)) members)) := by
  intro rest allowance room enough loose
  simp only [List.length_cons, List.length_append, List.length_nil] at room enough
  have read (typeName : Option String) (some : typeName.isSome) :
      braces (expression allowance) typeName (frame.reader (opening :: (second ++ closing :: rest))) =
        .ok (.struct typeName members, frame.reader rest) :=
    braces_struct derived inner closed (.inl some) (by omega) (by omega)
  simp only [List.append_assoc, List.cons_append, List.nil_append]
  generalize shape : Phrase.typeName parts = phrase at type
  cases type with
  | @simpleName name names =>
    cases shape
    have plain : startsQualifiedStruct (frame.reader (opening :: (second ++ closing :: rest))) =
        .ok (false, frame.reader (opening :: (second ++ closing :: rest))) := by
      simp [startsQualifiedStruct, opens]
    rw [List.cons_append, List.nil_append, primary_of_name names, named, bind_of_ok (accept_of_other (by simp [opens])),
      if_neg Bool.false_ne_true, bind_of_ok plain, if_neg Bool.false_ne_true, bind_of_ok kind_reader, headKind_cons,
      if_pos opens]
    exact read _ rfl
  | @dottedName others behind name dot names dots others_type =>
    cases shape
    simp only [List.length_cons] at room enough
    obtain ⟨continues, answered, meaning⟩ :=
      startsQualifiedStruct_reader frame (dot :: (others ++ opening :: (second ++ closing :: rest)))
    obtain rfl := meaning.mpr (continuesType_cons.mpr ⟨dots, leadsToBrace_of_typeName others_type opens⟩)
    rw [List.cons_append, List.cons_append, primary_of_name names, named, bind_of_ok (accept_of_other (by simp [dots])),
      if_neg Bool.false_ne_true, bind_of_ok answered, if_pos rfl, bind_of_ok steps_reader,
      bind_of_ok (nameParts_reads others_type dots opens _ (by omega))]
    exact read _ rfl
  | _ => cases shape

private theorem untyped_found {members : List (String × Expr)} {opening closing : Token}
    (opens : opening.kind = .leftBrace)
    (derived : Derives tokens (.sequence (fields members))) (inner : Found frame tokens (.sequence (fields members)))
    (closed : closing.kind = .rightBrace) (starts : StartsField tokens) :
    Found frame (opening :: (tokens ++ [closing])) (.primary (.struct none members)) := by
  intro rest allowance room enough loose
  simp only [List.length_cons, List.length_append, List.length_nil] at room enough
  rw [List.cons_append, List.append_assoc, List.singleton_append, primary_of_brace opens]
  exact braces_struct derived inner closed (.inr starts) (by omega) (by omega)

private theorem map_found {pairs : List (Expr × Expr)} {opening closing : Token} (opens : opening.kind = .leftBrace)
    (derived : Derives tokens (.sequence (entries pairs))) (inner : Found frame tokens (.sequence (entries pairs)))
    (closed : closing.kind = .rightBrace) (apart : ¬ StartsField tokens) :
    Found frame (opening :: (tokens ++ [closing])) (.primary (.map pairs)) := by
  intro rest allowance room enough loose
  simp only [List.length_cons, List.length_append, List.length_nil] at room enough
  rw [List.cons_append, List.append_assoc, List.singleton_append, primary_of_brace opens]
  exact braces_map derived inner closed apart (by omega) (by omega)

end Operands

section Members
variable {tokens others : List Token} {tree : Expr}

private theorem start_found (operand : Found frame tokens (.primary tree)) : Found frame tokens (.member tree) := by
  intro rest allowance room enough loose
  refine ⟨frame.bound, by omega, ?_⟩
  rw [member, bind_of_ok (operand rest allowance room enough loose), bind_of_ok steps_reader]

private theorem selection_found {dot name : Token} (operand : Found frame tokens (.member tree))
    (dots : dot.kind = .dot)
    (names : name.kind = .identifier) :
    Found frame (tokens ++ [dot, name]) (.member (.select (some tree) name.text false)) := by
  intro rest allowance room enough loose
  simp only [List.length_cons, List.length_append, List.length_nil] at room enough
  obtain ⟨steps, many, reached⟩ :=
    operand (dot :: name :: rest) allowance (by simp; omega) (by omega) (loose_selection dots loose)
  simp only [List.length_cons] at many
  obtain ⟨steps, rfl⟩ := Nat.exists_eq_succ_of_ne_zero (show steps ≠ 0 by omega)
  refine ⟨steps, by omega, ?_⟩
  rw [List.append_assoc, List.cons_append, List.singleton_append, reached, membersFrom, bind_of_ok (accept_of_kind dots),
    if_pos rfl, bind_of_ok (expectName_of_kind names), bind_of_ok (accept_of_other loose.notCalled),
    if_neg Bool.false_ne_true]

private theorem method_found {arguments : List Expr} {dot name opening closing : Token}
    (operand : Found frame tokens (.member tree)) (dots : dot.kind = .dot) (names : name.kind = .identifier)
    (opens : opening.kind = .leftParen) (given : Found frame others (.sequence (elements arguments)))
    (closed : closing.kind = .rightParen) :
    Found frame (tokens ++ dot :: name :: opening :: (others ++ [closing]))
      (.member (.call (some tree) name.text arguments (Loop.ofName? name.text).isSome)) := by
  intro rest allowance room enough loose
  simp only [List.length_cons, List.length_append, List.length_nil] at room enough
  obtain ⟨steps, many, reached⟩ := operand (dot :: name :: opening :: (others ++ closing :: rest)) allowance
    (by simp; omega) (by omega) (loose_method dots opens)
  simp only [List.length_cons, List.length_append] at many
  obtain ⟨steps, rfl⟩ := Nat.exists_eq_succ_of_ne_zero (show steps ≠ 0 by omega)
  refine ⟨steps, by omega, ?_⟩
  simp only [List.append_assoc, List.cons_append, List.nil_append]
  rw [reached, membersFrom, bind_of_ok (accept_of_kind dots), if_pos rfl, bind_of_ok (expectName_of_kind names),
    bind_of_ok (accept_of_kind opens), if_pos rfl, bind_of_ok (callArguments_reads given closed (by omega) (by omega))]

private theorem index_found {position : Expr} {opening closing : Token} (operand : Found frame tokens (.member tree))
    (opens : opening.kind = .leftBracket) (place : Found frame others (.expression position))
    (closed : closing.kind = .rightBracket) :
    Found frame (tokens ++ opening :: (others ++ [closing])) (.member (.index tree position)) := by
  intro rest allowance room enough loose
  simp only [List.length_cons, List.length_append, List.length_nil] at room enough
  obtain ⟨steps, many, reached⟩ := operand (opening :: (others ++ closing :: rest)) allowance (by simp; omega) (by omega)
    (loose_bracket opens)
  simp only [List.length_cons, List.length_append] at many
  obtain ⟨steps, rfl⟩ := Nat.exists_eq_succ_of_ne_zero (show steps ≠ 0 by omega)
  have bounded : tightness (headKind (closing :: rest)) = 0 := by
    rw [headKind_cons, closed]
    rfl
  have read := place (closing :: rest) allowance (by simp; omega) (by omega) bounded
  refine ⟨steps, by omega, ?_⟩
  simp only [List.append_assoc, List.cons_append, List.nil_append]
  rw [reached, membersFrom, bind_of_ok (accept_of_other (by simp [opens])), if_neg Bool.false_ne_true,
    bind_of_ok (accept_of_kind opens), if_pos rfl, bind_of_ok read, bind_of_ok (expect_of_kind closed)]

private theorem membersFrom_stops {inner : Parser Expr} (steps : Nat) (operand : Expr)
    (apart : tightness (headKind rest) < 7) :
    membersFrom inner steps operand (frame.reader rest) = .ok (operand, frame.reader rest) := by
  have notDot : headKind rest ≠ .dot := by intro dots; rw [dots] at apart; contradiction
  have notBracket : headKind rest ≠ .leftBracket := by intro opens; rw [opens] at apart; contradiction
  cases steps with
  | zero => rfl
  | succ steps =>
    rw [membersFrom, bind_of_ok (accept_of_other notDot), if_neg Bool.false_ne_true,
      bind_of_ok (accept_of_other notBracket), if_neg Bool.false_ne_true]
    rfl

private theorem bare_found (begins : Begins tokens (.member tree)) (operand : Found frame tokens (.member tree)) :
    Found frame tokens (.unary tree) := by
  intro rest allowance room enough apart
  obtain ⟨steps, _, reached⟩ := operand rest allowance room enough (loose_of_tightness apart)
  obtain ⟨fresh, notBang, notMinus⟩ := begins
  have plain (operator : UnaryOperator) : headKind (tokens ++ rest) ≠ mark operator := by
    rw [fresh_append fresh]
    cases operator with
    | not => exact notBang
    | negate => exact notMinus
  rw [operand_eq, unary_of_other plain, reached, membersFrom_stops steps tree apart]

private theorem signed_found {sign : Token} {operator : UnaryOperator} (marks : sign.kind = mark operator)
    (begins : Begins tokens (.unary tree)) (operand : Found frame tokens (.unary tree)) :
    Found frame (sign :: tokens) (.unary (.unary operator tree)) := by
  intro rest allowance room enough apart
  rw [List.length_cons] at room enough
  have filled := fresh_length begins
  obtain ⟨allowance, rfl⟩ := Nat.exists_eq_succ_of_ne_zero (show allowance ≠ 0 by omega)
  rw [List.cons_append, operand_eq, unary_of_mark marks, deeper,
    bind_of_ok (operand rest allowance (by omega) (by omega) apart)]
  rfl

end Members

section Expressions
variable {tokens first second third : List Token} {tree : Expr}

private theorem disjunction_reads (found : Found frame tokens (.chain .disjunction tree))
    (room : tokens.length + rest.length < frame.bound) (enough : tokens.length ≤ allowance + 1)
    (apart : tightness (headKind rest) < 2) :
    disjunction (operand allowance) (frame.reader (tokens ++ rest)) = .ok (tree, frame.reader rest) :=
  chain_reads .disjunction found room enough apart

private theorem plain_found (begins : Begins tokens (.chain .disjunction tree))
    (chain : Found frame tokens (.chain .disjunction tree)) : Found frame tokens (.expression tree) := by
  intro rest allowance room enough apart
  have filled := fresh_length begins
  obtain ⟨allowance, rfl⟩ := Nat.exists_eq_succ_of_ne_zero (show allowance ≠ 0 by omega)
  have notAsked : headKind rest ≠ .question := by
    intro asked
    rw [asked] at apart
    contradiction
  rw [expression_succ, conditional, bind_of_ok (disjunction_reads chain room (by omega) (by omega)),
    bind_of_ok (accept_of_other notAsked)]
  rfl

private theorem conditional_found {condition whenTrue otherwise : Expr} {question colon : Token}
    (tested : Found frame first (.chain .disjunction condition)) (asks : question.kind = .question)
    (chosen : Found frame second (.chain .disjunction whenTrue)) (parts : colon.kind = .colon)
    (other : Found frame third (.expression otherwise)) :
    Found frame (first ++ question :: (second ++ colon :: third))
      (.expression (.conditional condition whenTrue otherwise)) := by
  intro rest allowance room enough apart
  simp only [List.length_append, List.length_cons] at room enough
  obtain ⟨allowance, rfl⟩ := Nat.exists_eq_succ_of_ne_zero (show allowance ≠ 0 by omega)
  have asked : tightness (headKind (question :: (second ++ colon :: (third ++ rest)))) < 2 := by
    rw [headKind_cons, asks]
    decide
  have parted : tightness (headKind (colon :: (third ++ rest))) < 2 := by
    rw [headKind_cons, parts]
    decide
  simp only [List.append_assoc, List.cons_append]
  rw [expression_succ, conditional, bind_of_ok (disjunction_reads tested (by simp; omega) (by omega) asked),
    bind_of_ok (accept_of_kind asks), if_pos rfl,
    bind_of_ok (disjunction_reads chosen (by simp; omega) (by omega) parted), bind_of_ok (expect_of_kind parts),
    bind_of_ok (other rest allowance (by omega) (by omega) apart)]
  rfl

private theorem field_found {name colon : Token} (names : name.kind = .identifier) (parts : colon.kind = .colon)
    (inner : Found frame tokens (.expression tree)) : Found frame (name :: colon :: tokens) (.item (.field name.text tree)) := by
  intro rest allowance room enough apart
  simp only [List.length_cons] at room enough
  simp only [List.cons_append, ReadsItem]
  rw [structField, bind_of_ok (expectName_of_kind names), bind_of_ok (expect_of_kind parts),
    bind_of_ok (inner rest allowance (by omega) (by omega) apart)]
  rfl

private theorem entry_found {key value : Expr} {colon : Token} (before : Found frame first (.expression key))
    (parts : colon.kind = .colon) (behind : Found frame second (.expression value)) :
    Found frame (first ++ colon :: second) (.item (.entry key value)) := by
  intro rest allowance room enough apart
  simp only [List.length_append, List.length_cons] at room enough
  have parted : tightness (headKind (colon :: (second ++ rest))) = 0 := by
    rw [headKind_cons, parts]
    rfl
  simp only [List.append_assoc, List.cons_append, ReadsItem]
  rw [mapEntry, bind_of_ok (before _ allowance (by simp; omega) (by omega) parted), bind_of_ok (expect_of_kind parts),
    bind_of_ok (behind rest allowance (by omega) (by omega) apart)]
  rfl

end Expressions

/-- By induction on the derivation, one lemma for each rule. -/
theorem derives_found {tokens : List Token} {phrase : Phrase} (derived : Derives tokens phrase) :
    Found frame tokens phrase := by
  induction derived with
  | source | simpleName | dottedName => exact fun _ _ _ => trivial
  | plain chain ih => exact plain_found (derives_begins chain) ih
  | conditional _ asks _ parts _ first second third => exact conditional_found first asks second parts third
  | operand level _ ih => exact operand_found ih
  | operation _ joins _ before behind => exact operation_found before joins behind
  | signed marks operand ih => exact signed_found marks (derives_begins operand) ih
  | bare operand ih => exact bare_found (derives_begins operand) ih
  | start _ ih => exact start_found ih
  | selection _ dots names ih => exact selection_found ih dots names
  | method _ dots names opens _ closes ih given => exact method_found ih dots names opens given closes
  | index _ opens _ closes ih place => exact index_found ih opens place closes
  | literal denotes => exact literal_found denotes
  | group opens _ closes ih => exact group_found opens ih closes
  | list opens _ closes ih => exact list_found opens ih closes
  | leadingSelection dots names => exact leadingSelection_found dots names
  | leadingCall dots names opens _ closes given => exact leadingCall_found dots names opens given closes
  | presence names has opens _ closes given =>
    exact call_reads names opens given closes (by rw [has]; rfl)
  | call names opens _ closes ordinary given =>
    exact call_reads names opens given closes (presenceTest_ordinary ordinary)
  | identifier names => exact identifier_found names
  | typed type opens inner closes _ ih => exact typed_found type opens inner ih closes
  | untyped opens inner closes starts ih => exact untyped_found opens inner ih closes starts
  | map opens inner closes apart ih => exact map_found opens inner ih closes apart
  | element _ ih => exact ih
  | field names parts _ ih => exact field_found names parts ih
  | entry _ parts _ before behind => exact entry_found before parts behind
  | single _ ih => exact single_found ih
  | several _ separates tail ih found => exact several_found ih separates (derives_begins tail) found
  | none => exact none_found
  | some all ih => exact some_found ih (derives_begins all)
  | trailing all separates ih => exact trailing_found ih (derives_begins all) separates

/-- An allowance of one unit for each token is enough. -/
theorem source_complete (frame : Frame) {allowance : Nat} {tokens : List Token} {tree : Expr} {ending : Token}
    (derived : Derives (tokens ++ [ending]) (.source tree)) (short : tokens.length < frame.bound)
    (enough : tokens.length ≤ allowance) : source allowance (frame.reader tokens) = .ok (tree, frame.reader []) := by
  generalize shape : tokens ++ [ending] = all, same : Phrase.source tree = phrase at derived
  cases derived with
  | source whole ends =>
    cases same
    obtain ⟨rfl, _⟩ := List.append_inj' shape rfl
    have begins : Fresh (headKind tokens) := derives_begins whole
    have read := derives_found whole [] allowance short enough rfl
    rw [List.append_nil] at read
    rw [source, bind_of_ok kind_reader, if_neg begins.2.2.2]
    refine (bind_of_ok read).trans ?_
    rfl
  | _ => cases same

end CommonExpr.Proofs.ParserCompleteness

import CommonExpr.Tree.Parser

/-! Reading from a known list of tokens. The steps of the parser are described by what
they consume of the list, so that nothing behind them looks into a stream. -/

namespace CommonExpr.Proofs.TokenReader
open CommonExpr.Parser

section Binding
variable {α β : Type} {parser : Parser α} {next : α → Parser β} {before middle after : Reader} {value : α} {result : β}

theorem bind_of_ok (first : parser before = .ok (value, middle)) : (parser >>= next) before = next value middle := by
  change Except.bind (parser before) (fun pair => next pair.1 pair.2) = next value middle
  rw [first]
  rfl

theorem bind_eq_ok : (parser >>= next) before = .ok (result, after) ↔
    ∃ value middle, parser before = .ok (value, middle) ∧ next value middle = .ok (result, after) := by
  constructor
  · intro whole
    change Except.bind (parser before) (fun pair => next pair.1 pair.2) = .ok (result, after) at whole
    cases first : parser before with
    | error failure => rw [first] at whole; cases whole
    | ok pair => exact ⟨pair.1, pair.2, rfl, by rw [first] at whole; exact whole⟩
  · rintro ⟨value, middle, first, rest⟩
    rw [bind_of_ok first, rest]

theorem pure_eq_ok {result : α} : (pure value : Parser α) before = .ok (result, after) ↔ value = result ∧ before = after := by
  constructor
  · intro same
    cases same
    exact ⟨rfl, rfl⟩
  · rintro ⟨rfl, rfl⟩
    rfl

end Binding

def endToken (place : Location) : Token :=
  ⟨.endOfInput, "", place⟩

/-- The tokens of a list and then the end at a place. -/
def streamOf (place : Location) : List Token → TokenStream
  | [] => .finished (endToken place)
  | token :: rest => .more token (streamOf place rest)

/-- What stays the same while a list of tokens is read: the place of its end, and the
bound on the steps of a loop. -/
structure Frame where
  place : Location
  bound : Nat

/-- A reader with a list of tokens before it. -/
def Frame.reader (frame : Frame) : List Token → Reader
  | [] => ⟨endToken frame.place, .finished (endToken frame.place), frame.bound⟩
  | token :: rest => ⟨token, streamOf frame.place rest, frame.bound⟩

/-- The kind of the first token, which is the end token where there is no other. -/
def headKind : List Token → TokenKind
  | [] => .endOfInput
  | token :: _ => token.kind

@[simp] theorem headKind_nil : headKind [] = .endOfInput := rfl

@[simp] theorem headKind_cons (token : Token) (rest : List Token) : headKind (token :: rest) = token.kind := rfl

section Steps
variable {frame : Frame} {tokens rest : List Token} {token : Token} {expected : TokenKind} {after : Reader}

@[simp] theorem current_cons : (frame.reader (token :: rest)).current = token := rfl

@[simp] theorem get_reader : (get : Parser Reader) (frame.reader tokens) = .ok (frame.reader tokens, frame.reader tokens) := rfl

@[simp] theorem kind_reader : kind (frame.reader tokens) = .ok (headKind tokens, frame.reader tokens) := by
  cases tokens <;> rfl

@[simp] theorem steps_reader : steps (frame.reader tokens) = .ok (frame.bound, frame.reader tokens) := by
  cases tokens <;> rfl

@[simp] theorem advance_reader : advance (frame.reader (token :: rest)) = .ok (token, frame.reader rest) := by
  cases rest <;> rfl

theorem accept_of_kind (matching : token.kind = expected) :
    accept expected (frame.reader (token :: rest)) = .ok (true, frame.reader rest) := by
  rw [accept, bind_of_ok kind_reader, headKind_cons, if_pos matching, bind_of_ok advance_reader]
  rfl

theorem accept_of_other (other : headKind tokens ≠ expected) :
    accept expected (frame.reader tokens) = .ok (false, frame.reader tokens) := by
  rw [accept, bind_of_ok kind_reader, if_neg other]
  rfl

theorem expect_of_kind {expectation : Expectation} (matching : token.kind = expected) :
    expect expected expectation (frame.reader (token :: rest)) = .ok (token, frame.reader rest) := by
  rw [expect, bind_of_ok kind_reader, headKind_cons, if_pos matching, advance_reader]

theorem expectName_of_kind {expectation : Expectation} (matching : token.kind = .identifier) :
    expectName expectation (frame.reader (token :: rest)) = .ok (token.text, frame.reader rest) := by
  rw [expectName, bind_of_ok (expect_of_kind matching)]
  rfl

/-- A token of the kind asked for is consumed, or nothing is. -/
theorem accept_cases {accepted : Bool} (ordinary : expected ≠ .endOfInput)
    (done : accept expected (frame.reader tokens) = .ok (accepted, after)) :
    (accepted = true ∧ ∃ token rest, tokens = token :: rest ∧ token.kind = expected ∧ after = frame.reader rest) ∨
      (accepted = false ∧ headKind tokens ≠ expected ∧ after = frame.reader tokens) := by
  by_cases matching : headKind tokens = expected
  · cases tokens with
    | nil => exact absurd matching.symm ordinary
    | cons first rest =>
      rw [accept_of_kind matching] at done
      cases done
      exact .inl ⟨rfl, first, rest, rfl, matching, rfl⟩
  · rw [accept_of_other matching] at done
    cases done
    exact .inr ⟨rfl, matching, rfl⟩

theorem expect_eq_ok {expectation : Expectation} (ordinary : expected ≠ .endOfInput)
    (done : expect expected expectation (frame.reader tokens) = .ok (token, after)) :
    ∃ rest, tokens = token :: rest ∧ token.kind = expected ∧ after = frame.reader rest := by
  rw [expect, bind_of_ok kind_reader] at done
  split at done
  next matching =>
    cases tokens with
    | nil => exact absurd matching.symm ordinary
    | cons first rest =>
      rw [advance_reader] at done
      cases done
      exact ⟨rest, rfl, matching, rfl⟩
  next => obtain ⟨_, _, _, failed⟩ := bind_eq_ok.mp done; cases failed

theorem expectName_eq_ok {expectation : Expectation} {name : String}
    (done : expectName expectation (frame.reader tokens) = .ok (name, after)) :
    ∃ token rest, tokens = token :: rest ∧ token.kind = .identifier ∧ name = token.text ∧ after = frame.reader rest := by
  obtain ⟨token, middle, expected, returned⟩ := bind_eq_ok.mp done
  obtain ⟨rest, same, kind, rfl⟩ := expect_eq_ok (by decide) expected
  obtain ⟨rfl, rfl⟩ := pure_eq_ok.mp returned
  exact ⟨token, rest, same, kind, rfl, rfl⟩

end Steps

/-- What is read where the token is at hand. -/
def operandAt (inner : Parser Expr) (token : Token) : Parser Expr := do
  match Literal.ofToken? token with
  | some literal =>
    let _ ← advance
    match literal with
    | some tree => return tree
    | none => failWith (.broken (.tooManyDigits (token.text.toList.takeWhile Char.isDigit).length))
  | none =>
    match token.kind with
    | .leftBracket => listLiteral inner
    | .leftBrace => braces inner none
    | .leftParen =>
      let _ ← advance
      let tree ← inner
      let _ ← expect .rightParen .groupEnd
      return tree
    | .dot =>
      let _ ← advance
      leadingDot inner
    | .identifier =>
      let _ ← advance
      named inner token.text
    | _ => unexpected

end CommonExpr.Proofs.TokenReader

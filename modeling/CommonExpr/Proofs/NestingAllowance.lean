import CommonExpr.Proofs.ParserRelation

/-! A larger allowance of nesting changes nothing but where the parser gives up. -/

namespace CommonExpr.Proofs.NestingAllowance
open CommonExpr.Parser ParserRelation

/-- The first parser does what the second one does, or finds its allowance used up. -/
def Within {α : Type} (first second : Parser α) : Prop :=
  ∀ before, first before = second before ∨ ∃ place, first before = .error (.invalid ⟨.nestedTooDeeply, place⟩)

namespace Within
variable {α β : Type}

theorem refl (parser : Parser α) : Within parser parser :=
  fun _ => .inl rfl

theorem exhausted (parser : Parser α) : Within (fail .nestedTooDeeply) parser :=
  fun before => .inr ⟨before.current.location, rfl⟩

theorem bind {first second : Parser α} {next other : α → Parser β} (within : Within first second)
    (continues : ∀ value, Within (next value) (other value)) : Within (first >>= next) (second >>= other) := by
  intro before
  change Except.bind (first before) (fun pair => next pair.1 pair.2) =
      Except.bind (second before) (fun pair => other pair.1 pair.2) ∨
    ∃ place, Except.bind (first before) (fun pair => next pair.1 pair.2) = .error (.invalid ⟨.nestedTooDeeply, place⟩)
  rcases within before with same | ⟨place, exceeded⟩
  · rw [same]
    cases second before with
    | error failure => exact .inl rfl
    | ok pair => exact continues pair.1 pair.2
  · rw [exceeded]
    exact .inr ⟨place, rfl⟩

theorem trans {first second third : Parser α} (one : Within first second) (two : Within second third) :
    Within first third := by
  intro before
  rcases one before with same | exceeded
  · rw [same]
    exact two before
  · exact .inr exceeded

theorem compositional : Compositional Within where
  bind := bind
  pure _ := refl _
  fail _ := refl _
  broken _ := refl _
  unexpected := refl _
  get := refl _
  advance := refl _
  startsField := refl _
  startsQualifiedStruct := refl _

end Within

/-- One more unit is enough to see: each step down hands on what is left of it. -/
private theorem nested_within_succ (allowance : Nat) :
    Within (expression allowance) (expression (allowance + 1)) ∧ Within (operand allowance) (operand (allowance + 1)) := by
  have law := Within.compositional.parametric
  induction allowance with
  | zero => exact ⟨.exhausted _, law.unary (.exhausted _) (.exhausted _)⟩
  | succ allowance ih =>
    have expressions : Within (expression (allowance + 1)) (expression (allowance + 2)) := law.conditional ih.1 ih.2
    exact ⟨expressions, law.unary expressions ih.2⟩

private theorem expression_within {small large : Nat} (less : small ≤ large) :
    Within (expression small) (expression large) := by
  induction less with
  | refl => exact .refl _
  | step _ ih => exact ih.trans (nested_within_succ _).1

theorem source_within {small large : Nat} (less : small ≤ large) : Within (source small) (source large) :=
  Within.compositional.parametric.source (expression_within less)

end CommonExpr.Proofs.NestingAllowance

import CommonExpr.Evaluation.Evaluate
import Mathlib.Data.List.Forall2
import Mathlib.Tactic.Choose

/-! Properties of computations, and relations between computations in two monads, that
sequencing keeps. Every loop keeps them too, whatever its body does, so that a proof about
evaluation has to look at single operations only. The loops are walked through once, for
relations that carry along what is promised of the results; a relation of computations that
come to the same is the case in which sameness is promised, and a property is the relation
of each computation to itself. -/

namespace CommonExpr.Proofs.EvaluationClosure

section Runs
variable {ε σ : Type}

/-- What comes next runs where the first part has come to a value. -/
theorem run_bind (first : ExceptT ε (StateM σ) α) (next : α → ExceptT ε (StateM σ) β) (state : σ) :
    (first >>= next).run state = match first.run state with
      | (.ok value, after) => (next value).run after
      | (.error failure, after) => (.error failure, after) := by
  change ExceptT.run (ExceptT.bind first next) state = _
  simp only [ExceptT.run, ExceptT.bind, ExceptT.mk, StateT.bind, Bind.bind]
  rcases first state with ⟨failure | value, after⟩ <;> rfl

variable {first : ExceptT ε (StateM σ) α} {next : α → ExceptT ε (StateM σ) β} {state after : σ}

theorem run_bind_of_ok {value : α} (came : first.run state = (.ok value, after)) :
    (first >>= next).run state = (next value).run after := by
  rw [run_bind, came]

theorem run_bind_of_error {failure : ε} (failed : first.run state = (.error failure, after)) :
    (first >>= next).run state = (.error failure, after) := by
  rw [run_bind, failed]

/-- What has come to a value did so in both of its parts. -/
theorem ok_of_run_bind {value : β} (came : (first >>= next).run state = (.ok value, after)) :
    ∃ between middle, first.run state = (.ok between, middle) ∧ (next between).run middle = (.ok value, after) := by
  rw [run_bind] at came
  rcases ended : first.run state with ⟨failure | between, middle⟩
  · rw [ended] at came
    cases came
  · rw [ended] at came
    exact ⟨between, middle, rfl, came⟩

/-- What has failed did so in its first part, or in its second one. -/
theorem error_of_run_bind {failure : ε} (failed : (first >>= next).run state = (.error failure, after)) :
    first.run state = (.error failure, after) ∨
      ∃ between middle, first.run state = (.ok between, middle) ∧ (next between).run middle = (.error failure, after) := by
  rw [run_bind] at failed
  rcases ended : first.run state with ⟨cause | between, middle⟩
  · rw [ended] at failed
    cases failed
    exact .inl rfl
  · rw [ended] at failed
    exact .inr ⟨between, middle, rfl, failed⟩

end Runs

section Loops
variable {m : Type → Type} [Monad m]

/-- The search for exactly one element that passes, in any monad. -/
def exactlyOneM (test : α → m Bool) (found : Bool) : List α → m Bool
  | [] => return found
  | element :: rest => do
    if ← test element then
      if found then return false else exactlyOneM test true rest
    else exactlyOneM test found rest

/-- A loop in any monad. -/
def loopM (loop : Loop) (each : Value → m Value) (elements : List Value) : m Value :=
  let test (element : Value) : m Bool := return (← each element).isTrue
  match loop with
  | .map => return .list (← elements.mapM each)
  | .filter => return .list (← elements.filterM test)
  | .all => return .bool (← elements.allM test)
  | .exists => return .bool (← elements.anyM test)
  | .existsOne => return .bool (← exactlyOneM test false elements)

private theorem exactlyOneM_eq (test : Value → Evaluation Bool) (found : Bool) (elements : List Value) :
    exactlyOneM test found elements = exactlyOne test found elements := by
  induction elements generalizing found with
  | nil => rfl
  | cons element rest ih => simp only [exactlyOneM, exactlyOne, ih]

theorem loopM_eq_run (loop : Loop) (each : Value → Evaluation Value) (elements : List Value) :
    loopM loop each elements = loop.run each elements := by
  cases loop <;> simp only [loopM, Loop.run, exactlyOneM_eq]

end Loops

section Relations

/-- A relation of two computations that may come to different results, related as is promised.
It holds where both do nothing but come to such results, and of two sequences whose parts are related,
the second parts for all results that the first ones may have. -/
structure Carries {m n : Type → Type} [Monad m] [Monad n]
    (related : (α β : Type) → (α → β → Prop) → m α → n β → Prop) : Prop where
  pure {α β : Type} {promised : α → β → Prop} {value : α} {answer : β} (reached : promised value answer) :
    related α β promised (Pure.pure value) (Pure.pure answer)
  bind {α β γ δ : Type} {promised : α → β → Prop} {last : γ → δ → Prop} {first : m α} {second : n β} {next : α → m γ}
    {further : β → n δ} (begun : related α β promised first second)
    (rest : ∀ value answer, promised value answer → related γ δ last (next value) (further answer)) :
    related γ δ last (first >>= next) (second >>= further)

/-- A relation of values that a loop cannot tell apart, with what it makes of them. -/
structure Uniform (values : Value → Value → Prop) : Prop where
  isTrue {value answer : Value} (reached : values value answer) : value.isTrue = answer.isTrue
  bool (answer : Bool) : values (.bool answer) (.bool answer)
  list {items others : List Value} (each : List.Forall₂ values items others) : values (.list items) (.list others)

theorem Uniform.same : Uniform Eq where
  isTrue reached := congrArg Value.isTrue reached
  bool _ := rfl
  list each := congrArg Value.list (List.forall₂_eq_eq_eq ▸ each)

namespace Carries
variable {m n : Type → Type} [Monad m] [Monad n] {related : (α β : Type) → (α → β → Prop) → m α → n β → Prop}
  (carries : Carries related) {α β γ δ : Type}
include carries

/-- Where both come to the same, the rest has to be looked at for one value only. -/
theorem before {last : γ → δ → Prop} {first : m α} {second : n α} {next : α → m γ} {further : α → n δ}
    (begun : related α α Eq first second) (rest : ∀ value, related γ δ last (next value) (further value)) :
    related γ δ last (first >>= next) (second >>= further) := by
  apply carries.bind begun
  rintro value _ rfl
  exact rest value

section Lists
variable {values : α → β → Prop} {items : List α} {others : List β} (alike : List.Forall₂ values items others)
include alike

theorem mapM [LawfulMonad m] [LawfulMonad n] {promised : γ → δ → Prop} {each : α → m γ} {other : β → n δ}
    (step : ∀ item further, values item further → related γ δ promised (each item) (other further)) :
    related (List γ) (List δ) (List.Forall₂ promised) (items.mapM each) (others.mapM other) := by
  induction alike with
  | nil => exact carries.pure .nil
  | cons here _ ih =>
    rw [List.mapM_cons, List.mapM_cons]
    apply carries.bind (step _ _ here)
    intro first second head
    apply carries.bind ih
    intro rest further tail
    exact carries.pure (.cons head tail)

variable {test : α → m Bool} {other : β → n Bool}
  (step : ∀ item further, values item further → related Bool Bool Eq (test item) (other further))
include step

theorem filterM : related (List α) (List β) (List.Forall₂ values) (items.filterM test) (others.filterM other) := by
  have kept (before : List α) (behind : List β) (passed : List.Forall₂ values before behind) :
      related (List α) (List β) (List.Forall₂ values) (items.filterAuxM test before) (others.filterAuxM other behind) := by
    induction alike generalizing before behind with
    | nil => exact carries.pure passed
    | cons here _ ih =>
      apply carries.before (step _ _ here)
      intro passes
      cases passes with
      | true => exact ih _ _ (.cons here passed)
      | false => exact ih _ _ passed
  apply carries.bind (kept [] [] .nil)
  intro first second passed
  exact carries.pure (List.rel_reverse passed)

theorem allM : related Bool Bool Eq (items.allM test) (others.allM other) := by
  induction alike with
  | nil => exact carries.pure rfl
  | cons here _ ih =>
    apply carries.before (step _ _ here)
    intro passes
    cases passes with
    | true => exact ih
    | false => exact carries.pure rfl

theorem anyM : related Bool Bool Eq (items.anyM test) (others.anyM other) := by
  induction alike with
  | nil => exact carries.pure rfl
  | cons here _ ih =>
    apply carries.before (step _ _ here)
    intro passes
    cases passes with
    | true => exact carries.pure rfl
    | false => exact ih

theorem exactlyOneM (found : Bool) :
    related Bool Bool Eq (EvaluationClosure.exactlyOneM test found items)
      (EvaluationClosure.exactlyOneM other found others) := by
  induction alike generalizing found with
  | nil => exact carries.pure rfl
  | cons here _ ih =>
    apply carries.before (step _ _ here)
    intro passes
    cases passes with
    | true =>
      cases found with
      | true => exact carries.pure rfl
      | false => exact ih true
    | false => exact ih found

end Lists

/-- Whichever loop runs, over lists whose elements are related one by one, it comes to related values:
it hands on elements of its list, values of its body, or a bool. -/
theorem loop [LawfulMonad m] [LawfulMonad n] {values : Value → Value → Prop} (uniform : Uniform values) (loop : Loop)
    {items others : List Value} (alike : List.Forall₂ values items others) (each : Value → m Value) (other : Value → n Value)
    (step : ∀ item further, values item further → related Value Value values (each item) (other further)) :
    related Value Value values (loopM loop each items) (loopM loop other others) := by
  have test (item further : Value) (here : values item further) :
      related Bool Bool Eq (do return (← each item).isTrue) (do return (← other further).isTrue) :=
    carries.bind (step item further here) fun _ _ reached => carries.pure (uniform.isTrue reached)
  have answered {first : m Bool} {second : n Bool} (same : related Bool Bool Eq first second) :
      related Value Value values (do return .bool (← first)) (do return .bool (← second)) :=
    carries.before same fun _ => carries.pure (uniform.bool _)
  have listed {first : m (List Value)} {second : n (List Value)}
      (same : related (List Value) (List Value) (List.Forall₂ values) first second) :
      related Value Value values (do return .list (← first)) (do return .list (← second)) :=
    carries.bind same fun _ _ each => carries.pure (uniform.list each)
  cases loop with
  | map => exact listed (carries.mapM alike step)
  | filter => exact listed (carries.filterM alike test)
  | all => exact answered (carries.allM alike test)
  | «exists» => exact answered (carries.anyM alike test)
  | existsOne => exact answered (carries.exactlyOneM alike test false)

end Carries

/-- A relation of two computations that come to the same result, if to any. It holds where both do
nothing else, and of two sequences whose parts are related. -/
structure Sequences {m n : Type → Type} [Monad m] [Monad n] (related : (α : Type) → m α → n α → Prop) : Prop where
  pure {α : Type} (value : α) : related α (Pure.pure value) (Pure.pure value)
  bind {α β : Type} {first : m α} {second : n α} {next : α → m β} {further : α → n β} (begun : related α first second)
    (rest : ∀ value, related β (next value) (further value)) : related β (first >>= next) (second >>= further)

/-- The two computations may as well come to one pair, as promised, of which each reads off its side. -/
def Sided {m n : Type → Type} [Monad m] [Monad n] (related : (α : Type) → m α → n α → Prop) (α β : Type)
    (promised : α → β → Prop) (first : m α) (second : n β) : Prop :=
  ∃ (left : m { pair : α × β // promised pair.1 pair.2 }) (right : n { pair : α × β // promised pair.1 pair.2 }),
    related _ left right ∧ (do return (← left).1.1) = first ∧ (do return (← right).1.2) = second

namespace Sequences
variable {m n : Type → Type} [Monad m] [Monad n] [LawfulMonad m] [LawfulMonad n]
  {related : (α : Type) → m α → n α → Prop} (sequences : Sequences related) {α : Type}
include sequences

theorem carries : Carries (Sided related) where
  pure {α β promised value answer} reached :=
    ⟨Pure.pure ⟨(value, answer), reached⟩, Pure.pure ⟨(value, answer), reached⟩, sequences.pure _, pure_bind _ _,
      pure_bind _ _⟩
  bind := by
    rintro α β γ δ promised last _ _ next further ⟨left, right, begun, rfl, rfl⟩ rest
    choose lefts rights steps sides others using fun pair : { pair : α × β // promised pair.1 pair.2 } =>
      rest pair.1.1 pair.1.2 pair.2
    refine ⟨left >>= lefts, right >>= rights, sequences.bind begun steps, ?_, ?_⟩
    · simp only [bind_assoc, pure_bind, sides]
    · simp only [bind_assoc, pure_bind, others]

theorem sided_of_same {first : m α} {second : n α} (same : related α first second) :
    Sided related α α Eq first second := by
  let twice (value : α) : {pair : α × α // pair.1 = pair.2} := ⟨(value, value), rfl⟩
  refine ⟨do return twice (← first), do return twice (← second), ?_, ?_, ?_⟩
  · exact sequences.bind same fun value => sequences.pure (twice value)
  · simp only [twice, bind_assoc, pure_bind, bind_pure]
  · simp only [twice, bind_assoc, pure_bind, bind_pure]

omit [LawfulMonad m] [LawfulMonad n] in
theorem same_of_sided {first : m α} {second : n α} (sided : Sided related α α Eq first second) :
    related α first second := by
  obtain ⟨left, right, same, rfl, rfl⟩ := sided
  refine sequences.bind same fun pair => ?_
  rw [pair.2]
  exact sequences.pure _

/-- Whichever loop runs, it is related where its body is. -/
theorem loop (loop : Loop) {each : Value → m Value} {other : Value → n Value}
    (step : ∀ item, related Value (each item) (other item)) (items : List Value) :
    related Value (loopM loop each items) (loopM loop other items) := by
  have alike : List.Forall₂ Eq items items := List.forall₂_same.mpr fun _ _ => rfl
  apply sequences.same_of_sided
  apply sequences.carries.loop .same loop alike
  rintro item _ rfl
  exact sequences.sided_of_same (step item)

end Sequences
end Relations

section Properties

/-- A property that holds of what does nothing, and of a sequence whose parts have it. -/
structure Composes (holds : (α : Type) → Evaluation α → Prop) : Prop where
  pure {α : Type} (value : α) : holds α (Pure.pure value)
  bind {α β : Type} {program : Evaluation α} {next : α → Evaluation β} (first : holds α program)
    (rest : ∀ value, holds β (next value)) : holds β (program >>= next)

namespace Composes
variable {holds : (α : Type) → Evaluation α → Prop} (composes : Composes holds)
include composes

/-- A property is a relation of each computation to itself. -/
theorem sequences : Sequences (m := Evaluation) (n := Evaluation) fun α first second => first = second ∧ holds α first where
  pure value := ⟨rfl, composes.pure value⟩
  bind := by
    rintro α β first _ next further ⟨rfl, begun⟩ rest
    obtain rfl : next = further := funext fun value => (rest value).1
    exact ⟨rfl, composes.bind begun fun value => (rest value).2⟩

/-- Whichever loop runs, it has the property that its body has. -/
theorem loop (loop : Loop) {each : Value → Evaluation Value} (body : ∀ item, holds Value (each item))
    (items : List Value) : holds Value (loop.run each items) := by
  have looped := (composes.sequences.loop loop (fun item => ⟨rfl, body item⟩) items).2
  rwa [loopM_eq_run] at looped

theorem foldSteps {name accumulator : String} {condition step : Evaluation Value}
    (rebound : ∀ value, holds Unit (Evaluation.assign name value))
    (accumulated : ∀ value, holds Unit (Evaluation.assign accumulator value))
    (tested : holds Value condition) (stepped : holds Value step) (items : List Value) :
    holds Unit (CommonExpr.foldSteps name accumulator condition step items) := by
  induction items with
  | nil => exact composes.pure ()
  | cons item rest ih =>
    refine composes.bind (rebound item) fun _ => composes.bind tested fun answer => ?_
    split
    next => exact composes.bind stepped fun value => composes.bind (accumulated value) fun _ => ih
    next => exact ih

/-- What a fold is evaluated to between the ends of its scope. -/
theorem comprehension {name accumulator : String} {initial condition step result : Evaluation Value}
    (rebound : ∀ value, holds Unit (Evaluation.assign name value))
    (accumulated : ∀ value, holds Unit (Evaluation.assign accumulator value)) (started : holds Value initial)
    (tested : holds Value condition) (stepped : holds Value step) (ended : holds Value result) (items : List Value) :
    holds Value (do
      Evaluation.assign accumulator (← initial)
      CommonExpr.foldSteps name accumulator condition step items
      result) := by
  have steps := composes.foldSteps rebound accumulated tested stepped items
  refine composes.bind started fun value => ?_
  exact composes.bind (accumulated value) fun _ => composes.bind steps fun _ => ended

end Composes
end Properties
end CommonExpr.Proofs.EvaluationClosure

import CommonExpr.Program
import CommonExpr.Proofs.ParserImage
import CommonExpr.Proofs.ScopeRefinement

/-! What a name stands for. A run over bindings is the run, over no bindings at all, of the tree
into which they are written: a variable stands for its value unless a loop around it binds the
name. A selection with a leading dot is treated no differently. It is meant for the bindings of
the caller, but inside a loop over its name it stands for the variable of the loop. -/

namespace CommonExpr.Proofs.LeadingDots
open OverlayScopes ScopeRefinement WellFormedTree ParserImage

section Filling

/-- A value as a tree; what kind of literal it is does not matter to evaluation. -/
def constant (value : Value) : Expr :=
  .literal .null value

/-- What a variable stands for inside loops over the given names. -/
def variableIn (bindings : Bindings) (bound : List String) (name : String) : Expr :=
  if name ∈ bound then .identifier name
  else match bindings.get? name with
    | some value => constant value
    | none => .identifier name

/-- What a leading dot stands for inside loops over the given names. Under a loop over its own name
it is the variable of the loop, which is always there. Elsewhere it is the binding of the caller. -/
def dotIn (bindings : Bindings) (bound : List String) (field : String) (test : Bool) : Expr :=
  if field ∈ bound then if test then constant (.bool true) else .identifier field
  else match bindings.get? field, test with
    | found, true => constant (.bool found.isSome)
    | some value, false => constant value
    | none, false => .select none field false

mutual

/-- The tree with the bindings of the caller written into it, inside loops over the given names. -/
def filled (bindings : Bindings) : List String → Expr → Expr
  | bound, .identifier name => variableIn bindings bound name
  | bound, .select none field test => dotIn bindings bound field test
  | bound, .select (some operand) field test => .select (some (filled bindings bound operand)) field test
  | bound, .index operand position => .index (filled bindings bound operand) (filled bindings bound position)
  | bound, .call (some target) function arguments true =>
    .call (some (filled bindings bound target)) function
      (match arguments with
      | [.identifier name, body] => [.identifier name, filled bindings (name :: bound) body]
      | others => others) true
  | bound, .call (some target) function arguments false =>
    .call (some (filled bindings bound target)) function (filledAll bindings bound arguments) false
  | bound, .call none function arguments loop => .call none function (filledAll bindings bound arguments) loop
  | bound, .list elements => .list (filledAll bindings bound elements)
  | bound, .map entries => .map (filledEntries bindings bound entries)
  | bound, .struct typeName fields => .struct typeName (filledFields bindings bound fields)
  | bound, .unary operator operand => .unary operator (filled bindings bound operand)
  | bound, .binary operator left right => .binary operator (filled bindings bound left) (filled bindings bound right)
  | bound, .conditional condition whenTrue otherwise =>
    .conditional (filled bindings bound condition) (filled bindings bound whenTrue) (filled bindings bound otherwise)
  | _, other => other

def filledAll (bindings : Bindings) : List String → List Expr → List Expr
  | _, [] => []
  | bound, tree :: rest => filled bindings bound tree :: filledAll bindings bound rest

def filledEntries (bindings : Bindings) : List String → List (Expr × Expr) → List (Expr × Expr)
  | _, [] => []
  | bound, (key, value) :: rest => (filled bindings bound key, filled bindings bound value) :: filledEntries bindings bound rest

def filledFields (bindings : Bindings) : List String → List (String × Expr) → List (String × Expr)
  | _, [] => []
  | bound, (field, value) :: rest => (field, filled bindings bound value) :: filledFields bindings bound rest

end

end Filling

section Reading
variable {functions : Functions} {bindings : Bindings} {bound : List String} {environment empty : Environment}

/-- The same loops are around a tree and around the one it is filled to, and only the first one
sees the bindings of the caller beneath them. -/
def Beneath (bindings : Bindings) (bound : List String) (environment empty : Environment) : Prop :=
  ∀ name, if name ∈ bound then (environment.get? name).isSome ∧ empty.get? name = environment.get? name
    else environment.get? name = bindings.get? name ∧ empty.get? name = none

theorem Beneath.inside (beneath : Beneath bindings bound environment empty) {name : String} (member : name ∈ bound) :
    ∃ value, environment.get? name = some value ∧ empty.get? name = some value := by
  have both := beneath name
  rw [if_pos member] at both
  obtain ⟨value, found⟩ := Option.isSome_iff_exists.mp both.1
  exact ⟨value, found, both.2.trans found⟩

theorem Beneath.outside (beneath : Beneath bindings bound environment empty) {name : String} (missing : name ∉ bound) :
    environment.get? name = bindings.get? name ∧ empty.get? name = none := by
  have both := beneath name
  rwa [if_neg missing] at both

private theorem beneath_base (bindings : Bindings) : Beneath bindings [] (.base bindings) (.base .empty) :=
  fun _ => ⟨rfl, rfl⟩

theorem Beneath.overlay (beneath : Beneath bindings bound environment empty) (name : String) (value : Value) :
    Beneath bindings (name :: bound) (.overlay name value environment) (.overlay name value empty) := by
  intro other
  simp only [Environment.get?]
  by_cases same : other = name
  · rw [if_pos (same ▸ List.mem_cons_self), if_pos same, if_pos same]
    exact ⟨rfl, rfl⟩
  · rw [if_neg same, if_neg same]
    have both := beneath other
    simpa only [List.mem_cons, same, false_or] using both

/-- Filled in, the tree comes to what it comes to over the bindings. -/
def Filled (functions : Functions) (bindings : Bindings) (tree : Expr) : Prop :=
  ∀ bound environment empty, Beneath bindings bound environment empty → ∀ allowance,
    Reference.evaluate functions (filled bindings bound tree) empty allowance =
      Reference.evaluate functions tree environment allowance

private theorem variableIn_filled (beneath : Beneath bindings bound environment empty) (name : String)
    (allowance : Option Nat) :
    Reference.evaluate functions (variableIn bindings bound name) empty allowance =
      Reference.evaluate functions (.identifier name) environment allowance := by
  rw [variableIn]
  split
  next member =>
    obtain ⟨value, found, same⟩ := beneath.inside member
    simp only [Reference.evaluate, Reference.lookup?, found, same]
  next missing =>
    obtain ⟨same, none⟩ := beneath.outside missing
    cases found : bindings.get? name with
    | some value => simp only [constant, Reference.evaluate, Reference.lookup?, same, found, pure_bind]
    | none => simp only [Reference.evaluate, Reference.lookup?, same, found, none]

private theorem dotIn_filled (beneath : Beneath bindings bound environment empty) (field : String) (test : Bool)
    (allowance : Option Nat) :
    Reference.evaluate functions (dotIn bindings bound field test) empty allowance =
      Reference.evaluate functions (.select none field test) environment allowance := by
  unfold dotIn
  split
  next member =>
    obtain ⟨value, found, same⟩ := beneath.inside member
    cases test <;> simp [constant, Reference.evaluate, Reference.lookup?, found, same]
  next missing =>
    obtain ⟨same, none⟩ := beneath.outside missing
    cases test <;> cases found : bindings.get? field <;>
      simp [constant, Reference.evaluate, Reference.lookup?, same, found, none]

private theorem filledAll_evaluates {trees : List Expr} (each : ∀ tree ∈ trees, Filled functions bindings tree)
    (beneath : Beneath bindings bound environment empty) (allowance : Option Nat) :
    Reference.evaluateAll functions (filledAll bindings bound trees) empty allowance =
      Reference.evaluateAll functions trees environment allowance := by
  induction trees with
  | nil => rw [filledAll, Reference.evaluateAll, Reference.evaluateAll]
  | cons tree rest ih =>
    obtain ⟨first, others⟩ := List.forall_mem_cons.mp each
    rw [filledAll, Reference.evaluateAll, Reference.evaluateAll, first bound environment empty beneath, ih others]

private theorem filledEntries_evaluate {entries : List (Expr × Expr)}
    (keys : ∀ entry ∈ entries, Filled functions bindings entry.1)
    (values : ∀ entry ∈ entries, Filled functions bindings entry.2) (beneath : Beneath bindings bound environment empty)
    (allowance : Option Nat) (built : List (Value × Value)) :
    Reference.evaluateEntries functions (filledEntries bindings bound entries) empty allowance built =
      Reference.evaluateEntries functions entries environment allowance built := by
  induction entries generalizing built with
  | nil => rw [filledEntries, Reference.evaluateEntries, Reference.evaluateEntries]
  | cons entry rest ih =>
    obtain ⟨key, keys⟩ := List.forall_mem_cons.mp keys
    obtain ⟨value, values⟩ := List.forall_mem_cons.mp values
    rw [filledEntries, Reference.evaluateEntries, Reference.evaluateEntries, key bound environment empty beneath,
      value bound environment empty beneath]
    simp only [ih keys values]

private theorem filledFields_evaluate {fields : List (String × Expr)}
    (values : ∀ field ∈ fields, Filled functions bindings field.2)
    (beneath : Beneath bindings bound environment empty) (allowance : Option Nat) (built : List (Value × Value)) :
    Reference.evaluateFields functions (filledFields bindings bound fields) empty allowance built =
      Reference.evaluateFields functions fields environment allowance built := by
  induction fields generalizing built with
  | nil => rw [filledFields, Reference.evaluateFields, Reference.evaluateFields]
  | cons field rest ih =>
    obtain ⟨value, values⟩ := List.forall_mem_cons.mp values
    rw [filledFields, Reference.evaluateFields, Reference.evaluateFields, value bound environment empty beneath]
    simp only [ih values]

/-- The body of a loop is the one argument that is filled, and stands under its variable. -/
theorem filled_loop {target : Expr} {function : String} {arguments : List Expr} (subject : Filled functions bindings target)
    (given : ∀ tree ∈ arguments, Filled functions bindings tree) :
    Filled functions bindings (.call (some target) function arguments true) := by
  intro bound environment empty beneath allowance
  rw [filled.eq_def]
  dsimp only
  rw [Reference.evaluate, Reference.evaluate, funext (subject bound environment empty beneath)]
  rcases arguments with _ | ⟨first, _ | ⟨body, _ | ⟨third, others⟩⟩⟩
  · rfl
  · cases first <;> rfl
  · cases first with
    | identifier name =>
      have same (element : Value) (inner : Option Nat) := given body (by simp) (name :: bound) _ _
        (beneath.overlay name element) inner
      simp only [same]
    | _ => rfl
  · cases first <;> rfl

/-- By the constructors of a tree that the parser can return; folds are not among them. -/
theorem filled_evaluates {Allowed : LiteralKind → Value → Prop} {tree : Expr} (formed : WellFormed Allowed tree) :
    Filled functions bindings tree := by
  induction formed with
  | literal _ =>
    intro bound environment empty beneath allowance
    rw [filled, Reference.evaluate, Reference.evaluate]
    all_goals intros; contradiction
  | @identifier name _ =>
    intro bound environment empty beneath allowance
    rw [filled]
    exact variableIn_filled beneath name allowance
  | @select operand field test _ _ inner =>
    intro bound environment empty beneath allowance
    cases operand with
    | none =>
      rw [filled]
      exact dotIn_filled beneath field test allowance
    | some operand =>
      have same := funext (inner operand rfl bound environment empty beneath)
      rw [filled, Reference.evaluate, Reference.evaluate, same]
  | index _ _ inner place =>
    intro bound environment empty beneath allowance
    rw [filled, Reference.evaluate, Reference.evaluate, funext (inner bound environment empty beneath),
      funext (place bound environment empty beneath)]
  | @call target function arguments _ _ _ inner given =>
    cases target with
    | none =>
      intro bound environment empty beneath allowance
      rw [filled, Reference.evaluate, Reference.evaluate, funext (filledAll_evaluates given beneath)]
    | some target =>
      cases Option.isSome (Loop.ofName? function) with
      | true => exact filled_loop (inner target rfl) given
      | false =>
        intro bound environment empty beneath allowance
        rw [Option.isSome_some, Bool.and_false, filled, Reference.evaluate, Reference.evaluate,
          funext (filledAll_evaluates given beneath), funext (inner target rfl bound environment empty beneath)]
  | list _ inner =>
    intro bound environment empty beneath allowance
    rw [filled, Reference.evaluate, Reference.evaluate, funext (filledAll_evaluates inner beneath)]
  | map _ _ keys values =>
    intro bound environment empty beneath allowance
    rw [filled, Reference.evaluate, Reference.evaluate]
    simp only [filledEntries_evaluate keys values beneath]
  | typed _ _ _ _ values | untyped _ _ _ values =>
    intro bound environment empty beneath allowance
    rw [filled, Reference.evaluate, Reference.evaluate]
    simp only [filledFields_evaluate values beneath]
  | unary _ inner =>
    intro bound environment empty beneath allowance
    rw [filled, Reference.evaluate, Reference.evaluate, funext (inner bound environment empty beneath)]
  | @binary operator _ _ _ _ before behind =>
    intro bound environment empty beneath allowance
    have first := funext (before bound environment empty beneath)
    have second := funext (behind bound environment empty beneath)
    rw [filled]
    cases operator <;> rw [Reference.evaluate, Reference.evaluate, first, second]
  | conditional _ _ _ tested chosen other =>
    intro bound environment empty beneath allowance
    rw [filled, Reference.evaluate, Reference.evaluate, funext (tested bound environment empty beneath),
      funext (chosen bound environment empty beneath), funext (other bound environment empty beneath)]

end Reading

section Programs

/-- What a source comes to over bindings is what it comes to over none when they are written into
it. So a leading dot means the binding of the caller, except under a loop over its own name. -/
theorem bindings_written_in {source : String} {limits : Limits} {tree : Expr} (parsed : Expr.parse source limits = .ok tree)
    (functions : Functions) (bindings : Bindings) :
    (tree.run functions bindings).1 = ((filled bindings [] tree).run functions .empty).1 := by
  rw [run_eq_answer, run_eq_answer, Reference.answer, Reference.answer,
    filled_evaluates (wellFormed_of_parse parsed) [] _ _ (beneath_base bindings)]

/-- One dot is under a loop over its name, the other ones are not. -/
theorem dots_in_and_out_of_loop :
    let tree : Expr := .call (some (.list [.select none "x" false])) "map"
      [.identifier "y", .list [.select none "y" false, .select none "x" false, .select none "z" true]] true
    let caller : Bindings := ⟨[("x", .int 5), ("y", .int 7)]⟩
    Expr.parse "[.x].map(y, [.y, .x, has(.z)])" {} = .ok tree ∧
      filled caller [] tree = .call (some (.list [constant (.int 5)])) "map"
        [.identifier "y", .list [.identifier "y", constant (.int 5), constant (.bool false)]] true ∧
      (tree.run standardFunctions caller).1 = ((filled caller [] tree).run standardFunctions .empty).1 := by
  intro tree caller
  have parsed : Expr.parse "[.x].map(y, [.y, .x, has(.z)])" {} = .ok tree := by rfl
  exact ⟨parsed, by rfl, bindings_written_in parsed standardFunctions caller⟩

/-- The caller has bound the name to five, or not at all, and still the dot finds the one of the loop. -/
theorem dot_finds_loop_variable :
    let caller : Bindings := ⟨[("x", .int 5)]⟩
    (∃ tree, Expr.parse "[1].map(x, .x)" {} = .ok tree ∧ caller.get? "x" = some (.int 5) ∧
      (tree.run standardFunctions caller).1 = .ok (.list [.int 1])) ∧
    ∃ tree, Expr.parse "[1].map(x, has(.x))" {} = .ok tree ∧ Bindings.empty.get? "x" = none ∧
      (tree.run standardFunctions .empty).1 = .ok (.list [.bool true]) := by
  intro caller
  let looped (body : Expr) : Expr := .call (some (.list [.literal .int (.int 1)])) "map" [.identifier "x", body] true
  exact ⟨⟨looped (.select none "x" false), by rfl, rfl, by rfl⟩, ⟨looped (.select none "x" true), by rfl, rfl, by rfl⟩⟩

end Programs

end CommonExpr.Proofs.LeadingDots

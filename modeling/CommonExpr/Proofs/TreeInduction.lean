import CommonExpr.Tree.Basic

/-! Induction over trees, with a case for each way in which a tree is evaluated: a selection with
and without an operand, the three kinds of calls, and the three kinds of operators between two
operands. What is shown of the trees in a list is shown of each of them. -/

namespace CommonExpr

private theorem sizeOf_pair_lt [SizeOf α] [SizeOf β] {entries : List (α × β)} {entry : α × β}
    (member : entry ∈ entries) :
    sizeOf entry.1 < sizeOf entries ∧ sizeOf entry.2 < sizeOf entries := by
  have whole := List.sizeOf_lt_of_mem member
  have parts : sizeOf entry = 1 + sizeOf entry.1 + sizeOf entry.2 := rfl
  omega

section Parts
variable {holds : Expr → Prop} (literal : ∀ kind value, holds (.literal kind value))
  (identifier : ∀ name, holds (.identifier name)) (dot : ∀ field test, holds (.select none field test))
  (select : ∀ operand field test, holds operand → holds (.select (some operand) field test))
  (index : ∀ operand position, holds operand → holds position → holds (.index operand position))
  (loop : ∀ target function arguments, holds target → (∀ argument ∈ arguments, holds argument) →
    holds (.call (some target) function arguments true))
  (method : ∀ target function arguments, holds target → (∀ argument ∈ arguments, holds argument) →
    holds (.call (some target) function arguments false))
  (function : ∀ function arguments loop, (∀ argument ∈ arguments, holds argument) →
    holds (.call none function arguments loop))
  (list : ∀ elements, (∀ element ∈ elements, holds element) → holds (.list elements))
  (map : ∀ entries, (∀ entry ∈ entries, holds entry.1) → (∀ entry ∈ entries, holds entry.2) → holds (.map entries))
  (struct : ∀ typeName fields, (∀ field ∈ fields, holds field.2) → holds (.struct typeName fields))
  (comprehension : ∀ name range accumulator initial condition step result, holds range → holds initial →
    holds condition → holds step → holds result →
    holds (.comprehension name range accumulator initial condition step result))
  (unary : ∀ operator operand, holds operand → holds (.unary operator operand))
  (logical : ∀ operator left right, holds left → holds right → holds (.binary (.logical operator) left right))
  (arithmetic : ∀ operator left right, holds left → holds right → holds (.binary (.arithmetic operator) left right))
  (relational : ∀ operator left right, holds left → holds right → holds (.binary (.relational operator) left right))
  (conditional : ∀ condition whenTrue otherwise, holds condition → holds whenTrue → holds otherwise →
    holds (.conditional condition whenTrue otherwise))
  (loneEntry : ∀ key value, holds key → holds value → holds (.loneEntry key value))
  (loneField : ∀ field value, holds value → holds (.loneField field value))
include literal identifier dot select index loop method function list map struct comprehension unary logical
  arithmetic relational conditional loneEntry loneField

/-- What each tree has whose parts have it, every tree has. -/
@[elab_as_elim]
theorem Expr.byParts : (tree : Expr) → holds tree
  | .literal kind value => literal kind value
  | .identifier name => identifier name
  | .select none field test => dot field test
  | .select (some operand) field test => select operand field test (Expr.byParts operand)
  | .index operand position => index operand position (Expr.byParts operand) (Expr.byParts position)
  | .call (some target) name arguments true =>
    loop target name arguments (Expr.byParts target)
      fun argument member => have _ := List.sizeOf_lt_of_mem member; Expr.byParts argument
  | .call (some target) name arguments false =>
    method target name arguments (Expr.byParts target)
      fun argument member => have _ := List.sizeOf_lt_of_mem member; Expr.byParts argument
  | .call none name arguments loop =>
    function name arguments loop fun argument member => have _ := List.sizeOf_lt_of_mem member; Expr.byParts argument
  | .list elements => list elements fun element member => have _ := List.sizeOf_lt_of_mem member; Expr.byParts element
  | .map entries =>
    map entries
      (fun entry member => have _ := (sizeOf_pair_lt member).1; Expr.byParts entry.1)
      (fun entry member => have _ := (sizeOf_pair_lt member).2; Expr.byParts entry.2)
  | .struct typeName fields =>
    struct typeName fields fun field member => have _ := (sizeOf_pair_lt member).2; Expr.byParts field.2
  | .comprehension name range accumulator initial condition step result =>
    comprehension name range accumulator initial condition step result (Expr.byParts range) (Expr.byParts initial)
      (Expr.byParts condition) (Expr.byParts step) (Expr.byParts result)
  | .unary operator operand => unary operator operand (Expr.byParts operand)
  | .binary (.logical operator) left right => logical operator left right (Expr.byParts left) (Expr.byParts right)
  | .binary (.arithmetic operator) left right => arithmetic operator left right (Expr.byParts left) (Expr.byParts right)
  | .binary (.relational operator) left right => relational operator left right (Expr.byParts left) (Expr.byParts right)
  | .conditional condition whenTrue otherwise =>
    conditional condition whenTrue otherwise (Expr.byParts condition) (Expr.byParts whenTrue) (Expr.byParts otherwise)
  | .loneEntry key value => loneEntry key value (Expr.byParts key) (Expr.byParts value)
  | .loneField field value => loneField field value (Expr.byParts value)

end Parts
end CommonExpr

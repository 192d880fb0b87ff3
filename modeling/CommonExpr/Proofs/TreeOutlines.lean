import CommonExpr.Proofs.DoubleLiterals
import CommonExpr.Proofs.ParserImage
import CommonExpr.Tree.Outline
import CommonExpr.Tree.Same

/-! The outline of a tree that the parser returns tells the tree. Whether bytes or a string was written
is not in the outline of the value but in the name of the kind beside it, and an operator may share its
symbol with one of another arity, but not with one of its own. -/

namespace CommonExpr

namespace Outline

mutual

/-- Whether two outlines are the same data: scalars of one type and one value, lists item by item, and
records with the same members, in whatever order. -/
def agrees : Outline → Outline → Bool
  | .null, .null => true
  | .bool value, .bool other => value == other
  | .int value, .int other => value == other
  | .double value, .double other => value == other
  | .text content, .text other => content == other
  | .list items, .list others => itemsAgree items others
  | .record members, .record others => members.length == others.length && membersWithin members others
  | _, _ => false

def itemsAgree : List Outline → List Outline → Bool
  | [], [] => true
  | item :: rest, other :: others => item.agrees other && itemsAgree rest others
  | _, _ => false

/-- Whether every member agrees with the one of its name among others. -/
def membersWithin : List (String × Outline) → List (String × Outline) → Bool
  | [], _ => true
  | (name, part) :: rest, others =>
    (match others.lookup name with
      | some other => part.agrees other
      | none => false) && membersWithin rest others

end

end Outline

namespace Proofs.TreeOutlines
open Tokenization WellFormedTree Spelling NumberPlaces DoubleLiterals ParserImage

section Literals

/-- The values that the literals of a kind can have. -/
inductive Fits : LiteralKind → Value → Prop where
  | null : Fits .null .null
  | bool (value : Bool) : Fits .bool (.bool value)
  | int (value : Int) : Fits .int (.int value)
  | uint (value : Int) : Fits .uint (.int value)
  | double {value : Double} (plain : Plain value) : Fits .double (.double value)
  | string (content : String) : Fits .string (.string content)
  | bytes (content : String) : Fits .bytes (.bytes content)

private theorem plain_of_double? {lexeme : List Char} {value : Double} (read : Literal.double? lexeme = some value) :
    Plain value := by
  obtain ⟨decimal, _, rfl⟩ := Option.map_eq_some_iff.mp read
  exact plain_toDouble decimal

private theorem fits_of_lexeme {kind : LiteralKind} {value : Value} (lexeme : HasLexeme kind value) :
    Fits kind value := by
  obtain ⟨text, token, _, _, denotes⟩ := lexeme
  have form := form_of_token denotes
  generalize found : token.kind = made at form
  cases form with
  | null => exact .null
  | truth | falsity => exact .bool _
  | int number => exact .int number
  | uint number => exact .uint number
  | double value =>
    simp only [Literal.ofToken?, found, Option.some.injEq] at denotes
    obtain ⟨_, read, same⟩ := Option.map_eq_some_iff.mp denotes
    cases same
    exact .double (plain_of_double? read)
  | string text => exact .string text
  | bytes text => exact .bytes text

private theorem kind_of_name {kind other : LiteralKind} : kind.name = other.name ↔ kind = other := by
  cases kind <;> cases other <;> decide

variable {kind : LiteralKind} {first second : Value}

private theorem value_outline_iff (fits : Fits kind first) (also : Fits kind second) :
    first.outline.agrees second.outline = true ↔ first = second := by
  cases fits <;> cases also <;> simp [Value.outline, Outline.agrees]

private theorem value_equals_iff (fits : Fits kind first) (also : Fits kind second) :
    first.deepEquals second = true ↔ first = second := by
  cases fits <;> cases also
  case double plain _ also =>
    rw [Value.deepEquals, plain_equals_iff plain also]
    simp
  all_goals simp [Value.deepEquals, int_equals]

end Literals

section Outlines
open Outline CommonExpr.Expr

/-- The outline tells the tree from every other one that can be read. -/
def Told (tree : Expr) : Prop :=
  ∀ other, WellFormed Fits other → (tree.outline.agrees other.outline = true ↔ tree = other)

private theorem node_agrees {name other : String} {members others : List (String × Outline)} :
    (node name members).agrees (node other others) = true ↔
      name = other ∧ members.length = others.length ∧ membersWithin members (("node", .text other) :: others) = true := by
  simp only [node, agrees, membersWithin, List.lookup_cons_self, List.length_cons, Bool.and_eq_true, beq_iff_eq,
    Nat.add_right_cancel_iff]
  exact and_left_comm

@[simp] theorem text_agrees {content other : String} :
    (Outline.text content).agrees (.text other) = true ↔ content = other := by
  rw [agrees, beq_iff_eq]

@[simp] theorem bool_agrees {value other : Bool} : (Outline.bool value).agrees (.bool other) = true ↔ value = other := by
  rw [agrees, beq_iff_eq]

@[simp] theorem list_agrees {items others : List Outline} :
    (Outline.list items).agrees (.list others) = true ↔ itemsAgree items others = true := by
  rw [agrees]

private theorem text_of_optional {content other : Option String} :
    (optionalText content).agrees (optionalText other) = true ↔ content = other := by
  cases content <;> cases other <;> simp [optionalText, agrees]

private theorem outline_eq_node (tree : Expr) : ∃ name members, tree.outline = node name members := by
  cases tree <;> exact ⟨_, _, rfl⟩

private theorem unary_of_symbol {operator other : UnaryOperator} :
    operator.symbol = other.symbol ↔ operator = other := by
  cases operator <;> cases other <;> decide

/-- No two binary operators have one symbol. -/
theorem binary_of_symbol {operator other : BinaryOperator} : operator.symbol = other.symbol ↔ operator = other := by
  rcases operator with (_ | _ | _ | _ | _) | (_ | _ | _ | _ | _ | _ | _) | (_ | _) <;>
    rcases other with (_ | _ | _ | _ | _) | (_ | _ | _ | _ | _ | _ | _) | (_ | _) <;> decide

private theorem operand_told {operand other : Option Expr} (told : ∀ tree ∈ operand, Told tree)
    (formed : ∀ tree ∈ other, WellFormed Fits tree) :
    (optionalOutline operand).agrees (optionalOutline other) = true ↔ operand = other := by
  cases operand with
  | none =>
    cases other with
    | none => simp [optionalOutline, agrees]
    | some tree =>
      obtain ⟨name, members, shape⟩ := outline_eq_node tree
      simp [optionalOutline, shape, node, agrees]
  | some tree =>
    cases other with
    | none =>
      obtain ⟨name, members, shape⟩ := outline_eq_node tree
      simp [optionalOutline, shape, node, agrees]
    | some another => simpa [optionalOutline] using told tree rfl another (formed another rfl)

private theorem elements_told {trees others : List Expr} (told : ∀ tree ∈ trees, Told tree)
    (formed : ∀ tree ∈ others, WellFormed Fits tree) :
    itemsAgree (outlines trees) (outlines others) = true ↔ trees = others := by
  induction trees generalizing others with
  | nil => cases others <;> simp [outlines, itemsAgree]
  | cons tree rest ih =>
    cases others with
    | nil => simp [outlines, itemsAgree]
    | cons other more =>
      obtain ⟨first, others⟩ := List.forall_mem_cons.mp told
      obtain ⟨here, there⟩ := List.forall_mem_cons.mp formed
      simp only [outlines, itemsAgree, Bool.and_eq_true, List.cons.injEq]
      rw [first other here, ih others there]

private theorem entries_told {pairs others : List (Expr × Expr)} (keys : ∀ pair ∈ pairs, Told pair.1)
    (values : ∀ pair ∈ pairs, Told pair.2) (formedKeys : ∀ pair ∈ others, WellFormed Fits pair.1)
    (formedValues : ∀ pair ∈ others, WellFormed Fits pair.2) :
    itemsAgree (entryOutlines pairs) (entryOutlines others) = true ↔ pairs = others := by
  induction pairs generalizing others with
  | nil => cases others <;> simp [entryOutlines, itemsAgree]
  | cons pair rest ih =>
    cases others with
    | nil => simp [entryOutlines, itemsAgree]
    | cons other more =>
      obtain ⟨key, keys⟩ := List.forall_mem_cons.mp keys
      obtain ⟨value, values⟩ := List.forall_mem_cons.mp values
      obtain ⟨formedKey, formedKeys⟩ := List.forall_mem_cons.mp formedKeys
      obtain ⟨formedValue, formedValues⟩ := List.forall_mem_cons.mp formedValues
      simp only [entryOutlines, itemsAgree, Bool.and_eq_true, List.cons.injEq, node_agrees, membersWithin, List.lookup_cons]
      simp [key _ formedKey, value _ formedValue, ih keys values formedKeys formedValues, Prod.ext_iff]

private theorem fields_told {members others : List (String × Expr)} (values : ∀ member ∈ members, Told member.2)
    (formed : ∀ member ∈ others, WellFormed Fits member.2) :
    itemsAgree (fieldOutlines members) (fieldOutlines others) = true ↔ members = others := by
  induction members generalizing others with
  | nil => cases others <;> simp [fieldOutlines, itemsAgree]
  | cons member rest ih =>
    cases others with
    | nil => simp [fieldOutlines, itemsAgree]
    | cons other more =>
      obtain ⟨value, values⟩ := List.forall_mem_cons.mp values
      obtain ⟨formedValue, formed⟩ := List.forall_mem_cons.mp formed
      simp only [fieldOutlines, itemsAgree, Bool.and_eq_true, List.cons.injEq, node_agrees, membersWithin, List.lookup_cons]
      simp [value _ formedValue, ih values formed, Prod.ext_iff]

private theorem told_of_wellFormed {tree : Expr} (formed : WellFormed Fits tree) : Told tree := by
  induction formed with
  | @literal kind value fits =>
    intro other formed
    cases formed with
    | @literal kind' value' also =>
      have told (same : kind = kind') : value.outline.agrees value'.outline = true ↔ value = value' := by
        subst same
        exact value_outline_iff fits also
      simpa [outline, node_agrees, membersWithin, List.lookup_cons, kind_of_name, and_comm] using told
    | _ => simp [outline, node_agrees]
  | identifier =>
    intro other formed
    cases formed with
    | identifier => simp [outline, node_agrees, membersWithin, List.lookup_cons]
    | _ => simp [outline, node_agrees]
  | select _ _ inner =>
    intro other formed
    cases formed with
    | select _ formed => simp [outline, node_agrees, membersWithin, List.lookup_cons, operand_told inner formed]
    | _ => simp [outline, node_agrees]
  | index _ _ inner place =>
    intro other formed
    cases formed with
    | index formed behind =>
      simp [outline, node_agrees, membersWithin, List.lookup_cons, inner _ formed, place _ behind]
    | _ => simp [outline, node_agrees]
  | call _ _ _ inner given =>
    intro other formed
    cases formed with
    | call _ formed others =>
      simp [outline, node_agrees, membersWithin, List.lookup_cons, operand_told inner formed, elements_told given others]
    | _ => simp [outline, node_agrees]
  | list _ inner =>
    intro other formed
    cases formed with
    | list formed => simp [outline, node_agrees, membersWithin, List.lookup_cons, elements_told inner formed]
    | _ => simp [outline, node_agrees]
  | map _ _ keys values =>
    intro other formed
    cases formed with
    | map formed others =>
      simp [outline, node_agrees, membersWithin, List.lookup_cons, entries_told keys values formed others]
    | _ => simp [outline, node_agrees]
  | typed _ _ _ _ values | untyped _ _ _ values =>
    intro other formed
    cases formed with
    | typed _ _ _ formed | untyped _ _ formed =>
      simp [outline, node_agrees, membersWithin, List.lookup_cons, text_of_optional, fields_told values formed]
    | _ => simp [outline, node_agrees]
  | unary _ inner =>
    intro other formed
    cases formed with
    | unary formed => simp [outline, node_agrees, membersWithin, List.lookup_cons, unary_of_symbol, inner _ formed]
    | _ => simp [outline, node_agrees]
  | binary _ _ before behind =>
    intro other formed
    cases formed with
    | binary formed others =>
      simp [outline, node_agrees, membersWithin, List.lookup_cons, binary_of_symbol, before _ formed, behind _ others]
    | _ => simp [outline, node_agrees]
  | conditional _ _ _ tested chosen other =>
    intro tree formed
    cases formed with
    | conditional condition whenTrue otherwise =>
      simp [outline, node_agrees, membersWithin, List.lookup_cons, tested _ condition, chosen _ whenTrue, other _ otherwise]
    | _ => simp [outline, node_agrees]

end Outlines

section Equality
open CommonExpr.Expr

/-- Equality in structure tells the tree from every other one that can be read. -/
def Known (tree : Expr) : Prop :=
  ∀ other, WellFormed Fits other → (tree.same other = true ↔ tree = other)

private theorem operand_known {operand other : Option Expr} (known : ∀ tree ∈ operand, Known tree)
    (formed : ∀ tree ∈ other, WellFormed Fits tree) : sameOptional operand other = true ↔ operand = other := by
  cases operand <;> cases other
  case some.some tree another => simpa [sameOptional] using known tree rfl another (formed another rfl)
  all_goals simp [sameOptional]

private theorem elements_known {trees others : List Expr} (known : ∀ tree ∈ trees, Known tree)
    (formed : ∀ tree ∈ others, WellFormed Fits tree) : sameList trees others = true ↔ trees = others := by
  induction trees generalizing others with
  | nil => cases others <;> simp [sameList]
  | cons tree rest ih =>
    cases others with
    | nil => simp [sameList]
    | cons other more =>
      obtain ⟨first, others⟩ := List.forall_mem_cons.mp known
      obtain ⟨here, there⟩ := List.forall_mem_cons.mp formed
      simp [sameList, first other here, ih others there]

private theorem entries_known {pairs others : List (Expr × Expr)} (keys : ∀ pair ∈ pairs, Known pair.1)
    (values : ∀ pair ∈ pairs, Known pair.2) (formedKeys : ∀ pair ∈ others, WellFormed Fits pair.1)
    (formedValues : ∀ pair ∈ others, WellFormed Fits pair.2) : sameEntries pairs others = true ↔ pairs = others := by
  induction pairs generalizing others with
  | nil => cases others <;> simp [sameEntries]
  | cons pair rest ih =>
    cases others with
    | nil => simp [sameEntries]
    | cons other more =>
      obtain ⟨firstKey, firstValue⟩ := pair
      obtain ⟨otherKey, otherValue⟩ := other
      obtain ⟨key, keys⟩ := List.forall_mem_cons.mp keys
      obtain ⟨value, values⟩ := List.forall_mem_cons.mp values
      obtain ⟨formedKey, formedKeys⟩ := List.forall_mem_cons.mp formedKeys
      obtain ⟨formedValue, formedValues⟩ := List.forall_mem_cons.mp formedValues
      simp only [sameEntries, Bool.and_eq_true, List.cons.injEq, Prod.mk.injEq]
      rw [key _ formedKey, value _ formedValue, ih keys values formedKeys formedValues]

private theorem fields_known {members others : List (String × Expr)} (values : ∀ member ∈ members, Known member.2)
    (formed : ∀ member ∈ others, WellFormed Fits member.2) : sameFields members others = true ↔ members = others := by
  induction members generalizing others with
  | nil => cases others <;> simp [sameFields]
  | cons member rest ih =>
    cases others with
    | nil => simp [sameFields]
    | cons other more =>
      obtain ⟨field, first⟩ := member
      obtain ⟨otherField, second⟩ := other
      obtain ⟨value, values⟩ := List.forall_mem_cons.mp values
      obtain ⟨formedValue, formed⟩ := List.forall_mem_cons.mp formed
      simp only [sameFields, Bool.and_eq_true, beq_iff_eq, List.cons.injEq, Prod.mk.injEq]
      rw [value _ formedValue, ih values formed]

private theorem known_of_wellFormed {tree : Expr} (formed : WellFormed Fits tree) : Known tree := by
  induction formed with
  | @literal kind value fits =>
    intro other formed
    cases formed with
    | @literal kind' value' also =>
      have known (same : kind = kind') : value.deepEquals value' = true ↔ value = value' := by
        subst same
        exact value_equals_iff fits also
      simp [same, and_congr_right known]
    | _ => simp [same]
  | identifier =>
    intro other formed
    cases formed <;> simp [same]
  | select _ _ inner =>
    intro other formed
    cases formed with
    | select _ formed => simp [same, operand_known inner formed, and_assoc]
    | _ => simp [same]
  | index _ _ inner place =>
    intro other formed
    cases formed with
    | index formed behind => simp [same, inner _ formed, place _ behind]
    | _ => simp [same]
  | call _ _ _ inner given =>
    intro other formed
    cases formed with
    | call _ formed others => simp [same, operand_known inner formed, elements_known given others, and_assoc]
    | _ => simp [same]
  | list _ inner =>
    intro other formed
    cases formed with
    | list formed => simp [same, elements_known inner formed]
    | _ => simp [same]
  | map _ _ keys values =>
    intro other formed
    cases formed with
    | map formed others => simp [same, entries_known keys values formed others]
    | _ => simp [same]
  | typed _ _ _ _ values | untyped _ _ _ values =>
    intro other formed
    cases formed with
    | typed _ _ _ formed | untyped _ _ formed => simp [same, fields_known values formed]
    | _ => simp [same]
  | unary _ inner =>
    intro other formed
    cases formed with
    | unary formed => simp [same, inner _ formed]
    | _ => simp [same]
  | binary _ _ before behind =>
    intro other formed
    cases formed with
    | binary formed others => simp [same, before _ formed, behind _ others, and_assoc]
    | _ => simp [same]
  | conditional _ _ _ tested chosen other =>
    intro tree formed
    cases formed with
    | conditional condition whenTrue otherwise =>
      simp [same, tested _ condition, chosen _ whenTrue, other _ otherwise, and_assoc]
    | _ => simp [same]

end Equality

section Parsed
variable {source other : String} {limits bounds : Limits} {first second : Expr}

private theorem fits_of_parse (read : Expr.parse source limits = .ok first) : WellFormed Fits first :=
  (wellFormed_of_parse read).mono fun _ _ => fits_of_lexeme

/-- Which tree is read can be found out by comparing the trees in structure. -/
theorem parse_of_same (formed : WellFormed Fits second)
    (same : (match Expr.parse source limits with
      | .ok read => read.same second
      | .error _ => false) = true) : Expr.parse source limits = .ok second := by
  cases parsed : Expr.parse source limits with
  | error failure =>
    rw [parsed] at same
    cases same
  | ok read =>
    rw [parsed] at same
    rw [(known_of_wellFormed (fits_of_parse parsed) second formed).mp same]

/-- Of any two trees that are read, the outlines are the same data if and only if the trees are equal in
structure, and then they are one tree. -/
theorem outline_determines_tree (read : Expr.parse source limits = .ok first)
    (also : Expr.parse other bounds = .ok second) :
    (first.outline.agrees second.outline = true ↔ first.same second = true) ∧
      (first.same second = true ↔ first = second) := by
  have told := told_of_wellFormed (fits_of_parse read) second (fits_of_parse also)
  have known := known_of_wellFormed (fits_of_parse read) second (fits_of_parse also)
  exact ⟨told.trans known.symm, known⟩

/-- A string and bytes of one text differ in the name of their kind only. -/
theorem text_and_bytes_told_apart :
    Expr.parse "'a'" {} = .ok (.literal .string (.string "a")) ∧ Expr.parse "b'a'" {} = .ok (.literal .bytes (.bytes "a")) ∧
      (Expr.literal .string (.string "a")).outline.agrees (Expr.literal .bytes (.bytes "a")).outline = false := by
  have text : Expr.parse "'a'" {} = .ok (.literal .string (.string "a")) := by rfl
  have bytes : Expr.parse "b'a'" {} = .ok (.literal .bytes (.bytes "a")) := by rfl
  refine ⟨text, bytes, Bool.eq_false_iff.mpr fun agree => ?_⟩
  have determined := outline_determines_tree text bytes
  cases determined.2.mp (determined.1.mp agree)

end Parsed

end Proofs.TreeOutlines
end CommonExpr

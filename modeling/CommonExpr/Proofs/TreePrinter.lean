import CommonExpr.Proofs.Spelling

/-! Trees printed as words. Every operand and every element stands in parentheses, so the
words are read back as the tree they were printed from. -/

namespace CommonExpr.Proofs.TreePrinter
open Grammar WellFormedTree Spelling

section Printing

/-- Pieces with a sign between them. -/
def joined (between : TokenKind) : List (List Word) → List Word
  | [] => []
  | [piece] => piece
  | piece :: others => piece ++ sign between :: joined between others

def enclosed (opening closing : TokenKind) (words : List Word) : List Word :=
  sign opening :: (words ++ [sign closing])

def grouped (words : List Word) : List Word :=
  enclosed .leftParen .rightParen words

/-- What is given to a call, a list, a map or a struct. -/
def given (opening closing : TokenKind) (pieces : List (List Word)) : List Word :=
  enclosed opening closing (joined .comma pieces)

def operatorKind : BinaryOperator → TokenKind
  | .arithmetic .add => .plus
  | .arithmetic .subtract => .minus
  | .arithmetic .multiply => .star
  | .arithmetic .divide => .slash
  | .arithmetic .modulo => .percent
  | .relational .equal => .eq
  | .relational .notEqual => .ne
  | .relational .less => .lt
  | .relational .lessEqual => .le
  | .relational .greater => .gt
  | .relational .greaterEqual => .ge
  | .relational .member => .member
  | .logical .and => .and
  | .logical .or => .or

/-- The parts of a dotted name. -/
def nameParts (typeName : String) : List String :=
  (typeName.toList.splitOn '.').map String.ofList

def typeWords : Option String → List Word
  | none => []
  | some typeName => joined .dot ((nameParts typeName).map fun part => [name part])

mutual

/-- A call without a target has a dot before its name, so a call of `has` stays a call. -/
def words (spell : Value → String) : Expr → List Word
  | .literal kind value => [literal spell kind value]
  | .identifier text => [name text]
  | .select operand field false => targetWords spell operand ++ [sign .dot, name field]
  | .select operand field true =>
    name "has" :: given .leftParen .rightParen [grouped (targetWords spell operand ++ [sign .dot, name field])]
  | .index operand position =>
    grouped (words spell operand) ++ enclosed .leftBracket .rightBracket (grouped (words spell position))
  | .call target function arguments _ =>
    targetWords spell target ++ sign .dot :: name function :: given .leftParen .rightParen (elementWords spell arguments)
  | .list elements => given .leftBracket .rightBracket (elementWords spell elements)
  | .map entries => given .leftBrace .rightBrace (entryWords spell entries)
  | .struct typeName fields => typeWords typeName ++ given .leftBrace .rightBrace (fieldWords spell fields)
  | .unary operator operand => sign (mark operator) :: grouped (words spell operand)
  | .binary operator left right =>
    grouped (words spell left) ++ sign (operatorKind operator) :: grouped (words spell right)
  | .conditional condition whenTrue otherwise =>
    grouped (words spell condition) ++ sign .question ::
      (grouped (words spell whenTrue) ++ sign .colon :: grouped (words spell otherwise))
  | .comprehension .. | .loneEntry .. | .loneField .. => []

def targetWords (spell : Value → String) : Option Expr → List Word
  | none => []
  | some tree => grouped (words spell tree)

def elementWords (spell : Value → String) : List Expr → List (List Word)
  | [] => []
  | tree :: rest => grouped (words spell tree) :: elementWords spell rest

def entryWords (spell : Value → String) : List (Expr × Expr) → List (List Word)
  | [] => []
  | (key, value) :: rest =>
    (grouped (words spell key) ++ sign .colon :: grouped (words spell value)) :: entryWords spell rest

def fieldWords (spell : Value → String) : List (String × Expr) → List (List Word)
  | [] => []
  | (field, value) :: rest => (name field :: sign .colon :: grouped (words spell value)) :: fieldWords spell rest

end

/-- A blank stands before each word. -/
def layout (words : List Word) : List Char :=
  words.flatMap fun word => ' ' :: word.text.toList

def print (spell : Value → String) (tree : Expr) : String :=
  String.ofList (layout (words spell tree))

end Printing

section Levels
variable {tokens : List Token} {tree : Expr}

theorem chain_of_unary (derived : Derives tokens (.unary tree)) (level : Level) : Derives tokens (.chain level tree) := by
  have product : Derives tokens (.chain .product tree) := .operand .product derived
  have sum : Derives tokens (.chain .sum tree) := .operand .sum product
  have relation : Derives tokens (.chain .relation tree) := .operand .relation sum
  have conjunction : Derives tokens (.chain .conjunction tree) := .operand .conjunction relation
  cases level with
  | product => exact product
  | sum => exact sum
  | relation => exact relation
  | conjunction => exact conjunction
  | disjunction => exact .operand .disjunction conjunction

theorem operand_of_unary (derived : Derives tokens (.unary tree)) (level : Level) :
    Derives tokens (level.operand tree) := by
  cases level with
  | product => exact derived
  | sum => exact chain_of_unary derived .product
  | relation => exact chain_of_unary derived .sum
  | conjunction => exact chain_of_unary derived .relation
  | disjunction => exact chain_of_unary derived .conjunction

theorem expression_of_chain {level : Level} (derived : Derives tokens (.chain level tree)) :
    Derives tokens (.expression tree) := by
  have disjunction (inner : Derives tokens (.chain .conjunction tree)) : Derives tokens (.expression tree) :=
    .plain (.operand .disjunction inner)
  have conjunction (inner : Derives tokens (.chain .relation tree)) := disjunction (.operand .conjunction inner)
  have relation (inner : Derives tokens (.chain .sum tree)) := conjunction (.operand .relation inner)
  cases level with
  | product => exact relation (.operand .sum derived)
  | sum => exact relation derived
  | relation => exact conjunction derived
  | conjunction => exact disjunction derived
  | disjunction => exact .plain derived

theorem chain_of_primary (derived : Derives tokens (.primary tree)) (level : Level) : Derives tokens (.chain level tree) :=
  chain_of_unary (.bare (.start derived)) level

theorem expression_of_member (derived : Derives tokens (.member tree)) : Derives tokens (.expression tree) :=
  .plain (chain_of_unary (.bare derived) .disjunction)

theorem expression_of_primary (derived : Derives tokens (.primary tree)) : Derives tokens (.expression tree) :=
  expression_of_member (.start derived)

private theorem operatorKind_sign (operator : BinaryOperator) :
    ∃ level : Level, level.Sign (operatorKind operator) operator := by
  cases operator with
  | arithmetic operator =>
    cases operator with
    | add => exact ⟨_, .add⟩
    | subtract => exact ⟨_, .subtract⟩
    | multiply => exact ⟨_, .multiply⟩
    | divide => exact ⟨_, .divide⟩
    | modulo => exact ⟨_, .modulo⟩
  | relational operator =>
    cases operator with
    | equal => exact ⟨_, .equal⟩
    | notEqual => exact ⟨_, .notEqual⟩
    | less => exact ⟨_, .less⟩
    | lessEqual => exact ⟨_, .lessEqual⟩
    | greater => exact ⟨_, .greater⟩
    | greaterEqual => exact ⟨_, .greaterEqual⟩
    | member => exact ⟨_, .member⟩
  | logical operator =>
    cases operator with
    | and => exact ⟨_, .and⟩
    | or => exact ⟨_, .or⟩

end Levels

/-- The words are lexemes, and whatever tokens have these words are as claimed. -/
structure Says (words : List Word) (Claim : List Token → Prop) : Prop where
  lexemes : ∀ word ∈ words, word.IsLexeme
  holds : ∀ tokens, tokens.map inscription = words → Claim tokens

namespace Says
variable {front back : List Word} {First Second : List Token → Prop} {text : String}

theorem mono (said : Says front First)
    (weaker : ∀ tokens, tokens.map inscription = front → First tokens → Second tokens) : Says front Second :=
  ⟨said.lexemes, fun tokens written => weaker tokens written (said.holds tokens written)⟩

theorem nothing : Says [] (· = []) :=
  ⟨nofun, fun _ written => List.map_eq_nil_iff.mp written⟩

theorem append (one : Says front First) (two : Says back Second) :
    Says (front ++ back) fun tokens => ∃ before behind, tokens = before ++ behind ∧ First before ∧ Second behind where
  lexemes := List.forall_mem_append.mpr ⟨one.lexemes, two.lexemes⟩
  holds tokens written := by
    obtain ⟨before, behind, rfl, first, second⟩ := List.map_eq_append_iff.mp written
    exact ⟨before, behind, rfl, one.holds before first, two.holds behind second⟩

theorem cons {word : Word} (lexeme : word.IsLexeme) (rest : Says back Second) :
    Says (word :: back) fun tokens =>
      ∃ token others, tokens = token :: others ∧ inscription token = word ∧ Second others where
  lexemes := List.forall_mem_cons.mpr ⟨lexeme, rest.lexemes⟩
  holds tokens written := by
    obtain ⟨token, others, rfl, first, second⟩ := List.map_eq_cons_iff.mp written
    exact ⟨token, others, rfl, first, rest.holds others second⟩

theorem sign_cons (kind : TokenKind) (written : signText kind ≠ "") (rest : Says back Second) :
    Says (sign kind :: back) fun tokens =>
      ∃ token others, tokens = token :: others ∧ token.kind = kind ∧ Second others := by
  refine (cons (sign_isLexeme written) rest).mono ?_
  rintro _ _ ⟨token, others, rfl, same, holds⟩
  exact ⟨token, others, rfl, congrArg Word.kind same, holds⟩

theorem name_cons (named : IsName text) (rest : Says back Second) :
    Says (name text :: back) fun tokens =>
      ∃ token others, tokens = token :: others ∧ token.kind = .identifier ∧ token.text = text ∧ Second others := by
  refine (cons (name_isLexeme named) rest).mono ?_
  rintro _ _ ⟨token, others, rfl, same, holds⟩
  exact ⟨token, others, rfl, congrArg Word.kind same, congrArg Word.text same, holds⟩

theorem enclosed (opening closing : TokenKind) (opens : signText opening ≠ "") (closes : signText closing ≠ "")
    (inner : Says front First) :
    Says (enclosed opening closing front) fun tokens => ∃ first between last,
      tokens = first :: (between ++ [last]) ∧ first.kind = opening ∧ First between ∧ last.kind = closing := by
  refine (sign_cons opening opens (inner.append (sign_cons closing closes nothing))).mono ?_
  rintro _ _ ⟨first, _, rfl, kind, between, _, rfl, holds, last, _, rfl, ends, rfl⟩
  exact ⟨first, between, last, rfl, kind, holds, ends⟩

end Says

section Parts

private theorem grouped_said {inner : List Word} {tree : Expr} (said : Says inner (Derives · (.expression tree))) :
    Says (grouped inner) (Derives · (.primary tree)) := by
  refine (Says.enclosed .leftParen .rightParen (by decide) (by decide) said).mono ?_
  rintro _ _ ⟨first, between, last, rfl, opens, derived, closes⟩
  exact .group opens derived closes

private theorem grouped_said_expression {inner : List Word} {tree : Expr}
    (said : Says inner (Derives · (.expression tree))) :
    Says (grouped inner) (Derives · (.expression tree)) :=
  (grouped_said said).mono fun _ _ => expression_of_primary

variable {α : Type} {writes : α → List Word} {means : α → Item} {subjects : List α}

private theorem items_said (filled : subjects ≠ [])
    (each : ∀ subject ∈ subjects, Says (writes subject) (Derives · (.item (means subject)))) :
    Says (joined .comma (subjects.map writes)) (Derives · (.items (subjects.map means))) := by
  induction subjects with
  | nil => exact absurd rfl filled
  | cons subject others ih =>
    obtain ⟨head, tail⟩ := List.forall_mem_cons.mp each
    cases others with
    | nil => exact head.mono fun _ _ => .single
    | cons next others =>
      refine (head.append (.sign_cons .comma (by decide) (ih (List.cons_ne_nil _ _) tail))).mono ?_
      rintro _ _ ⟨first, _, rfl, item, comma, rest, rfl, kind, behind⟩
      exact .several item kind behind

private theorem sequence_said (each : ∀ subject ∈ subjects, Says (writes subject) (Derives · (.item (means subject)))) :
    Says (joined .comma (subjects.map writes)) (Derives · (.sequence (subjects.map means))) := by
  by_cases filled : subjects = []
  · subst filled
    exact Says.nothing.mono fun _ _ empty => empty ▸ .none
  · exact (items_said filled each).mono fun _ _ => .some

private theorem typeName_said {parts : List String} (filled : parts ≠ []) (type : ∀ part ∈ parts, IsName part) :
    Says (joined .dot (parts.map fun part => [name part])) (Derives · (.typeName parts)) := by
  induction parts with
  | nil => exact absurd rfl filled
  | cons part others ih =>
    obtain ⟨named, rest⟩ := List.forall_mem_cons.mp type
    cases others with
    | nil =>
      refine (Says.name_cons named .nothing).mono ?_
      rintro _ _ ⟨token, _, rfl, kind, rfl, rfl⟩
      exact .simpleName kind
    | cons next others =>
      refine (Says.name_cons named (.sign_cons .dot (by decide) (ih (List.cons_ne_nil _ _) rest))).mono ?_
      rintro _ _ ⟨token, _, rfl, kind, rfl, dot, behind, rfl, dots, derived⟩
      exact .dottedName kind dots derived

private theorem dot_not_in_name {text : String} (named : IsName text) : '.' ∉ text.toList := by
  intro member
  cases named.parts '.' member

private theorem nameParts_intercalate {parts : List String} (filled : parts ≠ []) (type : ∀ part ∈ parts, IsName part) :
    nameParts (".".intercalate parts) = parts := by
  have undotted : ∀ word ∈ parts.map String.toList, '.' ∉ word := by
    simpa using fun part member => dot_not_in_name (type part member)
  have split := List.splitOn_intercalate '.' undotted (by simpa using filled)
  rw [nameParts, String.toList_intercalate]
  change (List.splitOn '.' (['.'].intercalate (parts.map String.toList))).map String.ofList = parts
  rw [split, List.map_map]
  simp [Function.comp_def]

variable {spell : Value → String}

private theorem elementWords_eq (trees : List Expr) :
    elementWords spell trees = trees.map fun tree => grouped (words spell tree) := by
  induction trees with
  | nil => rw [elementWords, List.map_nil]
  | cons tree rest ih => rw [elementWords, ih, List.map_cons]

private theorem entryWords_eq (pairs : List (Expr × Expr)) : entryWords spell pairs =
    pairs.map fun (key, value) => grouped (words spell key) ++ sign .colon :: grouped (words spell value) := by
  induction pairs with
  | nil => rw [entryWords, List.map_nil]
  | cons pair rest ih => rw [entryWords, ih, List.map_cons]

private theorem fieldWords_eq (members : List (String × Expr)) : fieldWords spell members =
    members.map fun (field, value) => name field :: sign .colon :: grouped (words spell value) := by
  induction members with
  | nil => rw [fieldWords, List.map_nil]
  | cons member rest ih => rw [fieldWords, ih, List.map_cons]

private theorem elements_said {trees : List Expr}
    (each : ∀ tree ∈ trees, Says (words spell tree) (Derives · (.expression tree))) :
    Says (joined .comma (elementWords spell trees)) (Derives · (.sequence (elements trees))) := by
  rw [elementWords_eq]
  exact sequence_said fun tree member => (grouped_said_expression (each tree member)).mono fun _ _ => .element

private theorem fields_said {members : List (String × Expr)} (names : ∀ field ∈ members, IsName field.1)
    (values : ∀ field ∈ members, Says (words spell field.2) (Derives · (.expression field.2))) :
    Says (joined .comma (fieldWords spell members)) (Derives · (.sequence (fields members))) := by
  rw [fieldWords_eq]
  refine sequence_said fun (field, _) inside => ?_
  have value := grouped_said_expression (values _ inside)
  refine (Says.name_cons (names _ inside) (.sign_cons .colon (by decide) value)).mono ?_
  rintro _ _ ⟨token, _, rfl, kind, same, colon, rest, rfl, parts, derived⟩
  subst same
  exact .field kind parts derived

private theorem entries_said {pairs : List (Expr × Expr)}
    (keys : ∀ entry ∈ pairs, Says (words spell entry.1) (Derives · (.expression entry.1)))
    (values : ∀ entry ∈ pairs, Says (words spell entry.2) (Derives · (.expression entry.2))) :
    Says (joined .comma (entryWords spell pairs)) (Derives · (.sequence (entries pairs))) := by
  rw [entryWords_eq]
  refine sequence_said fun pair inside => ?_
  have key := grouped_said_expression (keys pair inside)
  have value := grouped_said_expression (values pair inside)
  refine (key.append (.sign_cons .colon (by decide) value)).mono ?_
  rintro _ _ ⟨before, _, rfl, first, colon, behind, rfl, parts, second⟩
  exact .entry first parts second

private theorem joined_cons {between : TokenKind} (piece : List Word) (others : List (List Word)) :
    ∃ tail, joined between (piece :: others) = piece ++ tail := by
  cases others with
  | nil => exact ⟨[], by rw [joined, List.append_nil]⟩
  | cons next others => exact ⟨_, rfl⟩

/-- Fields start with a name and a colon. -/
theorem startsField_of_fields {members : List (String × Expr)} {tokens : List Token} (filled : members ≠ [])
    (written : tokens.map inscription = joined .comma (fieldWords spell members)) : StartsField tokens := by
  cases members with
  | nil => exact absurd rfl filled
  | cons member others =>
    rw [fieldWords] at written
    obtain ⟨tail, same⟩ : ∃ tail, joined .comma _ = _ ++ tail := joined_cons _ (fieldWords spell others)
    rw [same] at written
    obtain ⟨first, _, rfl, names, rest⟩ := List.map_eq_cons_iff.mp written
    obtain ⟨second, behind, rfl, parts, _⟩ := List.map_eq_cons_iff.mp rest
    exact ⟨first, second, behind, rfl, congrArg Word.kind names, congrArg Word.kind parts⟩

/-- Entries start with a parenthesis, also where the first key is a name. -/
theorem not_startsField_of_entries {pairs : List (Expr × Expr)} {tokens : List Token}
    (written : tokens.map inscription = joined .comma (entryWords spell pairs)) : ¬ StartsField tokens := by
  rintro ⟨first, second, rest, rfl, names, _⟩
  cases pairs with
  | nil => cases written
  | cons pair others =>
    rw [entryWords] at written
    obtain ⟨tail, same⟩ : ∃ tail, joined .comma _ = _ ++ tail := joined_cons _ (entryWords spell others)
    rw [same] at written
    have opens : inscription first = sign .leftParen := (List.cons.inj written).1
    have kind := (congrArg Word.kind opens).symm.trans names
    cases kind

end Parts

section Trees
variable {spell : Value → String}

private theorem selection_said {operand : Option Expr} {field : String} (named : IsName field)
    (inner : ∀ tree ∈ operand, Says (words spell tree) (Derives · (.expression tree))) :
    Says (targetWords spell operand ++ [sign .dot, name field])
      (Derives · (.expression (.select operand field false))) := by
  have selects : Says [sign .dot, name field] _ := .sign_cons .dot (by decide) (.name_cons named .nothing)
  cases operand with
  | none =>
    refine selects.mono ?_
    rintro _ _ ⟨dot, _, rfl, dots, token, _, rfl, names, rfl, rfl⟩
    exact expression_of_primary (.leadingSelection dots names)
  | some tree =>
    refine ((grouped_said (inner tree rfl)).append selects).mono ?_
    rintro _ _ ⟨before, _, rfl, operand, dot, _, rfl, dots, token, _, rfl, names, rfl, rfl⟩
    exact expression_of_member (.selection (.start operand) dots names)

theorem isName_has : IsName "has" :=
  ⟨⟨'h', ['a', 's'], rfl, rfl, List.all_eq_true.mp rfl⟩, by decide⟩

private theorem presence_said {inner : List Word} {operand : Option Expr} {field : String}
    (plain : Says inner (Derives · (.expression (.select operand field false)))) :
    Says (name "has" :: given .leftParen .rightParen [grouped inner])
      (Derives · (.expression (.select operand field true))) := by
  have argument := (grouped_said_expression plain).enclosed .leftParen .rightParen (by decide) (by decide)
  refine (Says.name_cons isName_has argument).mono ?_
  rintro _ _ ⟨token, _, rfl, names, has, opening, between, closing, rfl, opens, derived, closes⟩
  exact expression_of_primary (.presence names has opens (.some (.single (.element derived))) closes)

private theorem call_said {target : Option Expr} {function : String} {arguments : List Expr} (named : IsName function)
    (inner : ∀ tree ∈ target, Says (words spell tree) (Derives · (.expression tree)))
    (each : ∀ tree ∈ arguments, Says (words spell tree) (Derives · (.expression tree))) :
    Says (targetWords spell target ++
        sign .dot :: name function :: given .leftParen .rightParen (elementWords spell arguments))
      (Derives · (.expression (.call target function arguments (target.isSome && (Loop.ofName? function).isSome)))) := by
  have inside := (elements_said each).enclosed .leftParen .rightParen (by decide) (by decide)
  have call : Says (sign .dot :: name function :: given .leftParen .rightParen (elementWords spell arguments)) _ :=
    .sign_cons .dot (by decide) (.name_cons named inside)
  cases target with
  | none =>
    refine call.mono ?_
    rintro _ _ ⟨dot, _, rfl, dots, token, _, rfl, names, rfl, opening, between, closing, rfl, opens, given, closes⟩
    exact expression_of_primary (.leadingCall dots names opens given closes)
  | some tree =>
    refine ((grouped_said (inner tree rfl)).append call).mono ?_
    rintro _ _ ⟨before, _, rfl, operand, dot, _, rfl, dots, token, _, rfl, names, rfl,
      opening, between, closing, rfl, opens, given, closes⟩
    exact expression_of_member (.method (.start operand) dots names opens given closes)

/-- The words for a tree are read as the tree. -/
theorem words_said {tree : Expr} (formed : WellFormed (Spelled spell) tree) :
    Says (words spell tree) (Derives · (.expression tree)) := by
  induction formed with
  | @literal kind value allowed =>
    obtain ⟨lexeme, denotes⟩ := literal_spelled allowed
    rw [words]
    refine (Says.cons lexeme .nothing).mono ?_
    rintro _ _ ⟨token, _, rfl, same, rfl⟩
    exact expression_of_primary (.literal (denotes token same))
  | identifier named =>
    rw [words]
    refine (Says.name_cons named .nothing).mono ?_
    rintro _ _ ⟨token, _, rfl, names, rfl, rfl⟩
    exact expression_of_primary (.identifier names)
  | @select operand field test named _ inner =>
    have plain := selection_said named inner
    cases test with
    | false => rwa [words]
    | true =>
      rw [words]
      exact presence_said plain
  | index _ _ inner place =>
    rw [words]
    have inside := (grouped_said_expression place).enclosed .leftBracket .rightBracket (by decide) (by decide)
    refine ((grouped_said inner).append inside).mono ?_
    rintro _ _ ⟨before, _, rfl, operand, opening, between, closing, rfl, opens, position, closes⟩
    exact expression_of_member (.index (.start operand) opens position closes)
  | call named _ _ inner each =>
    rw [words]
    exact call_said named inner each
  | list _ each =>
    rw [words]
    refine (Says.enclosed .leftBracket .rightBracket (by decide) (by decide) (elements_said each)).mono ?_
    rintro _ _ ⟨opening, between, closing, rfl, opens, elements, closes⟩
    exact expression_of_primary (.list opens elements closes)
  | map _ _ keys values =>
    rw [words]
    have inner : Says _ fun tokens => Derives tokens (.sequence (entries _)) ∧ ¬ StartsField tokens :=
      (entries_said keys values).mono fun _ written derived => ⟨derived, not_startsField_of_entries written⟩
    refine (Says.enclosed .leftBrace .rightBrace (by decide) (by decide) inner).mono ?_
    rintro _ _ ⟨opening, between, closing, rfl, opens, ⟨derived, apart⟩, closes⟩
    exact expression_of_primary (.map opens derived closes apart)
  | typed filled type names _ values =>
    rw [words, typeWords, nameParts_intercalate filled type]
    have inner := Says.enclosed .leftBrace .rightBrace (by decide) (by decide) (fields_said names values)
    refine ((typeName_said filled type).append inner).mono ?_
    rintro _ _ ⟨before, _, rfl, parts, opening, between, closing, rfl, opens, derived, closes⟩
    exact expression_of_primary (.typed parts opens derived closes)
  | untyped filled names _ values =>
    rw [words, typeWords, List.nil_append]
    have inner : Says _ fun tokens => Derives tokens (.sequence (fields _)) ∧ StartsField tokens :=
      (fields_said names values).mono fun _ written derived => ⟨derived, startsField_of_fields filled written⟩
    refine (Says.enclosed .leftBrace .rightBrace (by decide) (by decide) inner).mono ?_
    rintro _ _ ⟨opening, between, closing, rfl, opens, ⟨derived, starts⟩, closes⟩
    exact expression_of_primary (.untyped opens derived closes starts)
  | @unary operator operand _ inner =>
    rw [words]
    have written : signText (mark operator) ≠ "" := by cases operator <;> decide
    refine (Says.sign_cons _ written (grouped_said inner)).mono ?_
    rintro _ _ ⟨sign, operand, rfl, marks, derived⟩
    exact .plain (chain_of_unary (.signed marks (.bare (.start derived))) .disjunction)
  | @binary operator left right _ _ before behind =>
    rw [words]
    obtain ⟨level, joins⟩ := operatorKind_sign operator
    have written : signText (operatorKind operator) ≠ "" := by
      generalize operatorKind operator = kind at joins
      cases joins <;> decide
    refine ((grouped_said before).append (.sign_cons _ written (grouped_said behind))).mono ?_
    rintro _ _ ⟨first, _, rfl, left, sign, second, rfl, kind, right⟩
    rw [← kind] at joins
    exact expression_of_chain (.operation (chain_of_primary left level) joins
      (operand_of_unary (.bare (.start right)) level))
  | conditional _ _ _ tested chosen other =>
    rw [words]
    have last := Says.sign_cons .colon (by decide) (grouped_said_expression other)
    have middle := Says.sign_cons .question (by decide) ((grouped_said chosen).append last)
    refine ((grouped_said tested).append middle).mono ?_
    rintro _ _ ⟨first, _, rfl, condition, question, _, rfl, asks, second, _, rfl, whenTrue,
      colon, third, rfl, parts, otherwise⟩
    exact .conditional (chain_of_primary condition .disjunction) asks
      (chain_of_primary whenTrue .disjunction) parts otherwise

end Trees

end CommonExpr.Proofs.TreePrinter

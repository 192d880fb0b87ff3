import CommonExpr.Proofs.EnclosedSources
import CommonExpr.Proofs.FreeNames

/-! Five ways to ask for a field of an expression. Three of them ask whether it is there, by the
operator, by a test that the parser makes of a call, and by a call of a standard function. Two ask
for its value, by selection and by index. All of them evaluate the expression first as it is, and
they agree about every map that it comes to. -/

namespace CommonExpr.Proofs.FieldQuestions
open LexemeStops CutTexts Grammar TokenReader WellFormedTree Spelling TreePrinter EnclosedSources EvaluationClosure
open OverlayScopes ScopeRefinement PairedRuns FreeNames

section Questions

inductive Question where
  | member
  | presence
  | call
  | selection
  | index

namespace Question

/-- The source of the question, with that of the expression in parentheses. -/
def source (expression field : String) : Question → String
  | .member => "'" ++ field ++ "' in (" ++ expression ++ ")"
  | .presence => "has((" ++ expression ++ ")." ++ field ++ ")"
  | .call => "has((" ++ expression ++ "), '" ++ field ++ "')"
  | .selection => "(" ++ expression ++ ")." ++ field
  | .index => "(" ++ expression ++ ")['" ++ field ++ "']"

def text (field : String) : Expr :=
  .literal .string (.string field)

def tree (expression : Expr) (field : String) : Question → Expr
  | .member => .binary (.relational .member) (text field) expression
  | .presence => .select (some expression) field true
  | .call => .call none "has" [expression, text field] false
  | .selection => .select (some expression) field false
  | .index => .index expression (text field)

/-- What the question makes of the value of the expression. -/
def answer (question : Question) (field : String) (target : Value) : Except Failure Value :=
  match question with
  | .member => (Value.memberOf (.string field) target).map .bool
  | .presence => target.select field true
  | .call => .ok (.bool (target.hasField (.string field)))
  | .selection => target.select field false
  | .index => target.index (.string field)

end Question

end Questions

section Sources
variable {expression field : String} {tree : Expr} {inner tail : List Char} {Second : List Token → Prop}

private theorem stops_of_blank : Stops ' ' :=
  stops_of_space rfl

private theorem stops_of_leftParen : Stops '(' :=
  Apart.leftParen.stops (by decide)

private theorem stops_of_rightBracket : Stops ']' :=
  Apart.rightBracket.stops (by decide)

/-- A selection from an expression in parentheses, before something that does not go on with the name. -/
theorem selection_means (expression : Means inner (Derives · (.expression tree))) (named : IsName field)
    (stopped : Stopped tail) (means : Means tail Second) :
    Means ('(' :: (inner ++ ')' :: '.' :: (field.toList ++ tail))) fun tokens => ∃ before behind,
      tokens = before ++ behind ∧ Derives before (.expression (.select (some tree) field false)) ∧ Second behind := by
  refine (expression.grouped ((means.name named stopped).sign .dot)).mono fun tokens claim => ?_
  obtain ⟨operand, _, rfl, derived, dot, _, rfl, dots, token, behind, rfl, names, rfl, holds⟩ := claim
  exact ⟨operand ++ [dot, token], behind, by simp, expression_of_member (.selection (.start derived) dots names), holds⟩

/-- What stands between the parentheses of a call of `has`. -/
theorem given_to_has {Claim : List Token → Prop} (given : Means inner Claim) :
    Means ('h' :: 'a' :: 's' :: '(' :: (inner ++ [')'])) fun tokens => ∃ name opening between closing,
      tokens = name :: opening :: (between ++ [closing]) ∧ name.kind = .identifier ∧ name.text = "has" ∧
        opening.kind = .leftParen ∧ Claim between ∧ closing.kind = .rightParen := by
  have closed := given.append (.cons stops_of_rightParen []) (Means.nothing.sign .rightParen)
  refine ((closed.sign .leftParen).name isName_has (.cons stops_of_leftParen _)).mono fun tokens claim => ?_
  obtain ⟨name, _, rfl, names, has, opening, _, rfl, opens, between, _, rfl, holds, closing, _, rfl, closes, rfl⟩ := claim
  exact ⟨name, opening, between, closing, rfl, names, has, opens, holds, closes⟩

private theorem in_written : signText .member ≠ "" := by
  decide

private theorem member_means (means : Means inner (Derives · (.expression tree))) (named : IsName field) :
    Means ('\'' :: (field.toList ++ '\'' :: ' ' :: ((sign .member).text.toList ++ ' ' :: '(' :: (inner ++ [')']))))
      (Derives · (.expression (Question.member.tree tree field))) := by
  have joined := (means.grouped .nothing).blank.word (sign_isLexeme in_written) (.cons stops_of_blank _)
  refine (joined.blank.quoted named (.cons stops_of_blank _)).mono fun tokens claim => ?_
  obtain ⟨text, _, rfl, denotes, token, _, rfl, same, operand, _, rfl, derived, rfl⟩ := claim
  have kind : token.kind = .member := congrArg Word.kind same
  have before : Derives [text] (.chain .relation (Question.text field)) := chain_of_primary (.literal denotes) .relation
  rw [List.append_nil]
  exact expression_of_chain (.operation before (kind ▸ .member) (operand_of_unary (.bare (.start derived)) .relation))

private theorem presence_means (means : Means inner (Derives · (.expression tree))) (named : IsName field) :
    Means ('h' :: 'a' :: 's' :: '(' :: ('(' :: (inner ++ ')' :: '.' :: (field.toList ++ [])) ++ [')']))
      (Derives · (.expression (Question.presence.tree tree field))) := by
  refine (given_to_has (selection_means means named .nil .nothing)).mono fun tokens claim => ?_
  obtain ⟨name, opening, _, closing, rfl, names, has, opens, ⟨between, _, rfl, derived, rfl⟩, closes⟩ := claim
  rw [List.append_nil]
  exact expression_of_primary (.presence names has opens (.some (.single (.element derived))) closes)

private theorem call_means (means : Means inner (Derives · (.expression tree))) (named : IsName field) :
    Means ('h' :: 'a' :: 's' :: '(' :: ('(' :: (inner ++ ')' :: ',' :: ' ' :: '\'' :: (field.toList ++ ['\''])) ++ [')']))
      (Derives · (.expression (Question.call.tree tree field))) := by
  have text := (Means.nothing.quoted named .nil).blank
  refine (given_to_has (means.grouped (text.sign .comma))).mono fun tokens claim => ?_
  obtain ⟨name, opening, _, closing, rfl, names, has, opens, given, closes⟩ := claim
  obtain ⟨operand, _, rfl, derived, comma, _, rfl, separates, token, _, rfl, denotes, rfl⟩ := given
  have first : Derives operand (.item (.element tree)) := .element (expression_of_primary derived)
  have second : Derives [token] (.item (.element (Question.text field))) :=
    .element (expression_of_primary (.literal denotes))
  -- With a second argument the call is none that the parser takes for a test.
  have ordinary : ¬ AsksPresence name.text [tree, Question.text field] := fun ⟨_, _, _, same⟩ => nomatch same
  have called := Derives.call names opens (.some (.several first separates (.single second))) closes ordinary
  rw [has] at called
  exact expression_of_primary called

private theorem index_means (means : Means inner (Derives · (.expression tree))) (named : IsName field) :
    Means ('(' :: (inner ++ ')' :: '[' :: '\'' :: (field.toList ++ ['\'', ']'])))
      (Derives · (.expression (Question.index.tree tree field))) := by
  have text := (Means.nothing.sign .rightBracket).quoted named (.cons stops_of_rightBracket [])
  refine (means.grouped (text.sign .leftBracket)).mono fun tokens claim => ?_
  obtain ⟨operand, _, rfl, derived, opening, _, rfl, opens, token, _, rfl, denotes, closing, _, rfl, closes, rfl⟩ := claim
  have place : Derives [token] (.expression (Question.text field)) := expression_of_primary (.literal denotes)
  exact expression_of_member (.index (.start derived) opens place closes)

private theorem selected_means (means : Means inner (Derives · (.expression tree))) (named : IsName field) :
    Means ('(' :: (inner ++ ')' :: '.' :: (field.toList ++ [])))
      (Derives · (.expression (Question.selection.tree tree field))) := by
  refine (selection_means means named .nil .nothing).mono fun tokens claim => ?_
  obtain ⟨_, _, rfl, derived, rfl⟩ := claim
  rwa [List.append_nil]

private theorem question_means (means : Means expression.toList (Derives · (.expression tree))) (named : IsName field)
    (question : Question) :
    Means (question.source expression field).toList (Derives · (.expression (question.tree tree field))) := by
  cases question with
  | member => simpa [Question.source, sign, signText] using member_means means named
  | presence => simpa [Question.source] using presence_means means named
  | call => simpa [Question.source] using call_means means named
  | selection => simpa [Question.source] using selected_means means named
  | index => simpa [Question.source] using index_means means named

end Sources

section Evaluation
variable {field : String} {expression : Expr} {scope after : Scope} {outcome : Except Failure Value} {left : Nat}

set_option maxRecDepth 4000 in
private theorem callFunction_has (target : Value) (field : String) :
    standardFunctions.callFunction "has" [target, .string field] = .ok (.bool (target.hasField (.string field))) := by
  change Registries.standard.callFunction 0 "has" _ = _
  -- The search through the parents is unfolded once; what is left computes on the closed table.
  rw [Registries.callFunction, Registries.resolve]
  rfl

private theorem text_run (field : String) (scope : Scope) :
    ((Question.text field).evaluate standardFunctions (some (left + 1))).run scope = (.ok (.string field), scope) := by
  rw [Question.text, Expr.evaluate]
  rfl

private theorem arguments_run {value : Value}
    (came : (expression.evaluate standardFunctions (some (left + 1))).run scope = (.ok value, after)) :
    (Expr.evaluateAll standardFunctions [expression, Question.text field] (some (left + 1))).run scope =
      (.ok [value, .string field], after) := by
  rw [Expr.evaluateAll, run_bind_of_ok came, Expr.evaluateAll, bind_assoc, run_bind_of_ok (text_run field after)]
  rfl

/-- A question evaluates the expression one step further down, and then looks at its value only. -/
theorem question_run (question : Question)
    (came : (expression.evaluate standardFunctions (some (left + 1))).run scope = (outcome, after)) :
    (((question.tree expression field).evaluate standardFunctions (some (left + 2))).run scope).1 =
      outcome.bind (question.answer field) := by
  cases outcome with
  | error failure =>
    cases question with
    | member =>
      rw [Question.tree, Expr.evaluate, Evaluation.within, run_bind_of_ok (text_run field scope), run_bind_of_error came]
      rfl
    | call =>
      rw [Question.tree, Expr.evaluate, Evaluation.within, Expr.evaluateAll, run_bind_of_error (run_bind_of_error came)]
      rfl
    | _ =>
      rw [Question.tree, Expr.evaluate, Evaluation.within, run_bind_of_error came]
      rfl
  | ok value =>
    cases question with
    | member =>
      rw [Question.tree, Expr.evaluate, Evaluation.within, run_bind_of_ok (text_run field scope), run_bind_of_ok came]
      have settled : (Evaluation.settle (Value.relate .member (.string field) value)).run after =
          (Value.memberOf (.string field) value, after) := rfl
      change _ = (Value.memberOf (.string field) value).map Value.bool
      generalize Value.memberOf (.string field) value = answer at settled ⊢
      cases answer with
      | ok answer => rw [run_bind_of_ok settled]; rfl
      | error failure => rw [run_bind_of_error settled]; rfl
    | call =>
      rw [Question.tree, Expr.evaluate, Evaluation.within, run_bind_of_ok (arguments_run came), callFunction_has]
      rfl
    | index =>
      rw [Question.tree, Expr.evaluate, Evaluation.within, run_bind_of_ok came, run_bind_of_ok (text_run field after)]
      rfl
    | _ =>
      rw [Question.tree, Expr.evaluate, Evaluation.within, run_bind_of_ok came]
      rfl

end Evaluation

section Agreement
variable {field : String} {tree : Expr} {bindings : Bindings}

/-- What is answered about a field that is there or is missing. -/
structure Agree (answer : Question → Except ProgramFailure Value) (there : Bool) : Prop where
  member : answer .member = .ok (.bool there)
  presence : answer .presence = .ok (.bool there)
  call : answer .call = .ok (.bool there)
  given : there = true → ∃ value, answer .selection = .ok value ∧ answer .index = .ok value
  refused : there = false → ∃ failure other, answer .selection = .error (.evaluation failure) ∧
    answer .index = .error (.evaluation other) ∧ failure.name = "EvaluationError" ∧ other.name = "EvaluationError"

private theorem agree_about_map {answer : Question → Except ProgramFailure Value} {kind : MapKind}
    {entries : List (Value × Value)} (answers : ∀ question : Question, answer question =
      ((question.answer field (.map kind entries)).mapError Failure.overNesting).mapError .evaluation) :
    Agree answer (Entries.hasKey (.string field) entries) := by
  have selected := answers .selection
  have indexed := answers .index
  simp only [Question.answer, Value.select, Value.index] at selected indexed
  refine ⟨answers .member, answers .presence, answers .call, fun there => ?_, fun missing => ?_⟩
  · obtain ⟨value, found⟩ := Option.isSome_iff_exists.mp there
    rw [found] at selected indexed
    exact ⟨value, selected, indexed⟩
  · have absent : Entries.lookup? (.string field) entries = none := by simpa [Entries.hasKey] using missing
    rw [absent] at selected indexed
    exact ⟨_, _, selected, indexed, rfl, rfl⟩

/-- What the tree comes to where one other tree stands around it. -/
def inside (tree : Expr) (bindings : Bindings) : Except Failure Value :=
  ((tree.evaluate standardFunctions (some (Expr.nestingAllowance - 1))).run ⟨bindings, 0⟩).1

/-- The tree takes up all the nesting that is allowed, so that none may stand around it. -/
def Fills (tree : Expr) (bindings : Bindings) : Prop :=
  inside tree bindings = .error (.fault .nestedTooDeeply)

/-- Otherwise it comes to the same alone. -/
theorem run_inside (spare : ¬ Fills tree bindings) :
    (tree.run standardFunctions bindings).1 = (inside tree bindings).mapError Failure.overNesting := by
  have allowances : Allowances (terms standardFunctions (fun _ => False) True)
      (some (Expr.nestingAllowance - 1)) (some Expr.nestingAllowance) := .raised trivial (Nat.sub_le _ _)
  rw [Fills, inside, run_eq_reference] at spare
  rw [run_eq_answer, Reference.answer, inside, run_eq_reference]
  rcases evaluate_allowed standardFunctions tree (.base bindings) allowances 0 with stopped | same
  · exact absurd stopped spare
  · rw [same]
    rfl

theorem evaluate_of_parse {source : String} {limits : Limits} (parsed : Expr.parse source limits = .ok tree)
    (functions : Functions) :
    CommonExpr.evaluate source bindings functions limits = (tree.run functions bindings).1.mapError .evaluation := by
  rw [CommonExpr.evaluate, Program.compile, parsed]
  rfl

/-- A question is answered from what the expression comes to inside of it. -/
theorem question_answered {source : String} {limits : Limits} {question : Question}
    (read : Expr.parse source limits = .ok (question.tree tree field)) :
    CommonExpr.evaluate source bindings standardFunctions limits =
      (((inside tree bindings).bind (question.answer field)).mapError Failure.overNesting).mapError .evaluation := by
  have asked : (((question.tree tree field).evaluate standardFunctions (some Expr.nestingAllowance)).run ⟨bindings, 0⟩).1 =
      (inside tree bindings).bind (question.answer field) := question_run question rfl
  rw [evaluate_of_parse read, ← asked]
  rfl

/-- Five ways to ask for a field agree. Under limits that admit them all, the five sources that have
the source of an expression in parentheses are read as the questions about its tree. If the expression
comes to a map, then the operator, the test of its selection and the call answer alike whether the
field is there, and selection and index give one value or fail, as that says. If it fails, all five
fail as it does. One tree more around it may exceed the limit on nesting, and then all five do. -/
theorem five_questions_agree {expression field : String} {own limits : Limits}
    (parsed : Expr.parse expression own = .ok tree) (named : IsName field)
    (admits : ∀ question : Question, Admits limits (question.source expression field)) (bindings : Bindings) :
    let alone := (tree.run standardFunctions bindings).1
    let answer (question : Question) :=
      CommonExpr.evaluate (question.source expression field) bindings standardFunctions limits
    (∀ question : Question, Expr.parse (question.source expression field) limits = .ok (question.tree tree field)) ∧
      (¬ Fills tree bindings →
        (∀ kind entries, alone = .ok (.map kind entries) → Agree answer (Entries.hasKey (.string field) entries)) ∧
        ∀ failure, alone = .error failure → ∀ question, answer question = .error (.evaluation failure)) ∧
      (Fills tree bindings → ∀ question, answer question = .error (.evaluation (.fault .nestedTooDeeply))) := by
  intro alone answer
  have read (question : Question) :
      Expr.parse (question.source expression field) limits = .ok (question.tree tree field) :=
    parse_of_means (question_means (means_of_parse parsed) named question) (admits question)
  have answers (question : Question) : answer question = _ := question_answered (read question)
  refine ⟨read, fun spare => ?_, fun stopped question => ?_⟩
  · have came : alone = (inside tree bindings).mapError Failure.overNesting := run_inside spare
    rw [came]
    cases outcome : inside tree bindings with
    | error failure =>
      rw [outcome] at answers
      refine ⟨nofun, fun failure same question => ?_⟩
      cases same
      exact answers question
    | ok value =>
      rw [outcome] at answers
      refine ⟨fun kind entries same => ?_, nofun⟩
      cases same
      exact agree_about_map answers
  · rw [answers, stopped]
    rfl

/-- The expression is a conditional that asks for presence itself. What it comes to has one of the fields. -/
theorem nested_presence_asked :
    let bindings : Bindings := ⟨[("m", .map .plain [(.string "g", .map .plain [(.string "f", .null)])])]⟩
    let answer (field : String) (question : Question) :=
      CommonExpr.evaluate (question.source "has(m.g) ? m.g : m" field) bindings standardFunctions {}
    Agree (answer "f") true ∧ Agree (answer "g") false := by
  intro bindings answer
  let tree : Expr :=
    .conditional (.select (some (.identifier "m")) "g" true) (.select (some (.identifier "m")) "g" false) (.identifier "m")
  have parsed : Expr.parse "has(m.g) ? m.g : m" {} = .ok tree := by rfl
  have spare : ¬ Fills tree bindings := fun stopped => by cases stopped
  have nameF : IsName "f" := ⟨⟨'f', [], rfl, rfl, List.all_eq_true.mp rfl⟩, by decide⟩
  have nameG : IsName "g" := ⟨⟨'g', [], rfl, rfl, List.all_eq_true.mp rfl⟩, by decide⟩
  have admitted {field : String} (named : IsName field) (question : Question)
      (few : (question.source "has(m.g) ? m.g : m" field).length ≤ 48) :
      Admits {} (question.source "has(m.g) ? m.g : m" field) := by
    have deep : ({} : Limits).maxDepth = 48 := rfl
    have long : ({} : Limits).maxSourceLength = 100000 := rfl
    exact admits_of_length (question_means (means_of_parse parsed) named question) (by omega) (by omega)
  have first (question : Question) := admitted nameF question (by cases question <;> decide)
  have second (question : Question) := admitted nameG question (by cases question <;> decide)
  exact ⟨((five_questions_agree parsed nameF first bindings).2.1 spare).1 .plain _ rfl,
    ((five_questions_agree parsed nameG second bindings).2.1 spare).1 .plain _ rfl⟩

end Agreement
end CommonExpr.Proofs.FieldQuestions

import CommonExpr.Proofs.DocumentValues
import CommonExpr.Proofs.JsonMembers
import CommonExpr.Proofs.TreeOutlines

/-! What the evaluating command prints as a document. Every value that it comes to is well keyed, so that the
document shows all its entries unless a map in it has two keys with one text. -/

namespace CommonExpr.Proofs.PrintedDocuments
open Command DocumentValues EvaluationClosure IntegerTexts JsonMembers KeyTexts MapKeys ParserImage TreeOutlines
  WellFormedTree WellKeyedRuns

section Output
variable {expression : String} {program : Program} {bindings : Bindings} {value : Value}

private theorem evaluated_wellKeyed (compiled : Program.compile expression = .ok program) (bound : WellBound bindings)
    (evaluated : program.evaluate bindings = .ok value) : WellKeyed value := by
  obtain ⟨tree, parsed, made⟩ := bind_eq_ok.mp compiled
  cases made
  obtain ⟨outcome, scope, _, ran, _, _, keeps⟩ :=
    run_sound (wellFormed_of_parse parsed) bound (some Expr.nestingAllowance) 0
  rw [Program.evaluate, Expr.run, ran] at evaluated
  cases keeps with
  | returned reached =>
    cases evaluated
    exact reached
  | failed => cases evaluated

private theorem orSyntaxError_comes {α : Type} {name? : Option String} {outcome : Except ParseFailure α} {result : α}
    (comes : Comes (orSyntaxError name? outcome) result) : outcome = .ok result := by
  cases outcome with
  | ok found => rw [comes_pure comes]
  | error failure => cases failure <;> cases comes

private theorem orBreakdown_comes {α : Type} {outcome : Except Failure α} {result : α}
    (comes : Comes (orBreakdown outcome) result) :
    outcome = .ok result := by
  cases outcome with
  | ok found => rw [comes_pure comes]
  | error failure => cases failure <;> cases comes

/-- A report of what went wrong stays one when more is logged in it. -/
theorem comes_of_logged {α : Type} {body : Outcome α} {result : α} {logged : Report → Report}
    (comes : Comes (tryCatchThe Report body (throw ∘ logged)) result) : Comes body result := by
  obtain ⟨outcome, ended, rest⟩ := bind_eq_ok.mp comes
  cases outcome with
  | error report => cases rest
  | ok value =>
    cases rest
    exact ended

/-- What a run of the evaluating command prints as a document. -/
theorem runEvaluate_comes {verbose : Bool} {report : Report}
    (printed : Comes (runEvaluate verbose expression bindings true) report) :
    ∃ program value json text, Program.compile expression = .ok program ∧ program.evaluate bindings = .ok value ∧
      value.toJson = .ok json ∧ json.render = .ok text ∧ report.output = plainText (text ++ "\n") := by
  obtain ⟨program, compiled, printed⟩ := comes_bind printed
  obtain ⟨value, evaluated, printed⟩ := comes_bind (comes_of_logged printed)
  obtain ⟨text, shown, printed⟩ := comes_bind printed
  obtain ⟨json, converted, rendered⟩ := bind_eq_ok.mp (orBreakdown_comes shown)
  refine ⟨program, value, json, text, orSyntaxError_comes compiled, orBreakdown_comes evaluated, converted, rendered, ?_⟩
  rw [comes_pure printed]
  rfl

end Output

section Runs
variable {expression : String} {tree : Expr} {value : Value}

private theorem comes_of_bind {α β : Type} {program : Outcome α} {next : α → Outcome β} {middle : α} {result : β}
    (first : Comes program middle) (rest : Comes (next middle) result) : Comes (program >>= next) result := by
  rw [Comes, ExceptT.run_bind, first]
  exact rest

private theorem comes_of_body {α : Type} {body : Outcome α} {handler : Report → Outcome α} {result : α}
    (comes : Comes body result) : Comes (tryCatchThe Report body handler) result := by
  have ended : body.run = .ok (.ok result) := comes
  change (body.run >>= _) = _
  rw [ended]
  rfl

private theorem run_of_evaluate {functions : Functions} {bindings : Bindings} {scope : Scope}
    (came : (tree.evaluate functions (some Expr.nestingAllowance)).run ⟨bindings, 0⟩ = (.ok value, scope)) :
    (tree.run functions bindings).1 = .ok value := by
  rw [Expr.run, came]
  rfl

private theorem compile_of_parse (parsed : Expr.parse expression {} = .ok tree) :
    Program.compile expression = .ok ⟨expression, tree, standardFunctions⟩ := by
  rw [Program.compile, parsed]
  rfl

/-- An expression whose value has a document prints that document. -/
theorem runRequest_of_ok {json : Json} {text : String}
    (parsed : Expr.parse expression {} = .ok tree) (evaluated : (tree.run standardFunctions .empty).1 = .ok value)
    (converted : value.toJson = .ok json) (rendered : json.render = .ok text) :
    Comes (runRequest (fun _ => none) false (.evaluate expression [] none true)) (.success (text ++ "\n")) := by
  have shown : (value.toJson >>= Json.render) = .ok text := bind_eq_ok.mpr ⟨json, converted, rendered⟩
  have program : Comes (orSyntaxError none (Program.compile expression)) ⟨expression, tree, standardFunctions⟩ := by
    rw [compile_of_parse parsed]
    rfl
  have result : Comes (orBreakdown (Program.evaluate ⟨expression, tree, standardFunctions⟩ (.ofList []))) value := by
    have ran : Program.evaluate ⟨expression, tree, standardFunctions⟩ (.ofList []) = .ok value := evaluated
    rw [ran]
    rfl
  have document : Comes (orBreakdown (if true then value.toJson >>= Json.render else value.format)) text := by
    rw [if_pos rfl, shown]
    rfl
  have bindings : Comes (loadBindings none []) (.ofList []) := rfl
  apply comes_of_bind bindings
  apply comes_of_bind program
  apply comes_of_body
  apply comes_of_bind result
  apply comes_of_bind document
  rfl

end Runs

section Results

/-- Whatever reads the documents, if only it reads values that are well keyed: the printed document shows all
entries of all maps in the value if and only if none of these maps has two keys that are not told apart by
their texts. -/
theorem document_of_reader_keeps_entries_iff {readDocument : DocumentReader} (keyed : ReadsWellKeyed readDocument)
    {readFile : String → Option String} {verbose : Bool} {expression : String} {assignments : List String}
    {file : Option String} {report : Report}
    (printed : Comes (runRequestWith readDocument readFile verbose (.evaluate expression assignments file true)) report) :
    ∃ bindings program value json text,
      Comes (loadBindingsWith readDocument (file.bind fun name => (readFile name).map (name, ·)) assignments) bindings ∧
      Program.compile expression = .ok program ∧ program.evaluate bindings = .ok value ∧
      value.toJson = .ok json ∧ json.render = .ok text ∧ report.output = plainText (text ++ "\n") ∧
      (Shows value json ↔ Unconfused value) := by
  obtain ⟨bindings, loaded, printed⟩ := comes_bind printed
  obtain ⟨program, value, json, text, compiled, evaluated, converted, rendered, output⟩ := runEvaluate_comes printed
  have valueKeyed := evaluated_wellKeyed compiled (loadBindingsWith_wellBound keyed loaded) evaluated
  exact ⟨bindings, program, value, json, text, loaded, compiled, evaluated, converted, rendered, output,
    shows_iff_unconfused valueKeyed converted⟩

/-- For every value that is printed as a document, the document shows all entries of all maps in it if and
only if none of these maps has two keys that are not told apart by their texts. -/
theorem printed_document_keeps_entries_iff {readFile : String → Option String} {verbose : Bool}
    {expression : String} {assignments : List String} {file : Option String} {report : Report}
    (printed : Comes (runRequest readFile verbose (.evaluate expression assignments file true)) report) :
    ∃ bindings program value json text,
      Comes (loadBindings (file.bind fun name => (readFile name).map (name, ·)) assignments) bindings ∧
      Program.compile expression = .ok program ∧ program.evaluate bindings = .ok value ∧
      value.toJson = .ok json ∧ json.render = .ok text ∧ report.output = plainText (text ++ "\n") ∧
      (Shows value json ↔ Unconfused value) :=
  document_of_reader_keeps_entries_iff read_wellKeyed printed

/-- Null, a bool, a number and a text are keys whose entries are all shown. -/
theorem keys_of_four_kinds_kept :
    let source := "\x7bnull: 'a', true: 'b', 3: 'c', 'k': 'd'\x7d"
    let value : Value := .map .plain [(.null, .string "a"), (.bool true, .string "b"), (.int 3, .string "c"),
      (.string "k", .string "d")]
    let json : Json := .object [("null", .text "a"), ("true", .text "b"), ("3", .text "c"), ("k", .text "d")]
    Comes (runRequest (fun _ => none) false (.evaluate source [] none true))
        ⟨0, "\x7b\"null\": \"a\", \"true\": \"b\", \"3\": \"c\", \"k\": \"d\"\x7d\n", ""⟩ ∧
      value.toJson = .ok json ∧ Shows value json := by
  let letter (content : String) : Expr := .literal .string (.string content)
  let tree : Expr := .map [(.literal .null .null, letter "a"), (.literal .bool (.bool true), letter "b"),
    (.literal .int (.int 3), letter "c"), (letter "k", letter "d")]
  let entries : List (Value × Value) := [(.null, .string "a"), (.bool true, .string "b"), (.int 3, .string "c"),
    (.string "k", .string "d")]
  let members : List (String × Json) := [("null", .text "a"), ("true", .text "b"), ("3", .text "c"), ("k", .text "d")]
  intro source value json
  have formed : WellFormed Fits tree := by
    apply WellFormed.map
    · simp only [List.forall_mem_cons]
      exact ⟨.literal .null, .literal (.bool true), .literal (.int 3), .literal (.string "k"), nofun⟩
    · simp only [List.forall_mem_cons]
      exact ⟨.literal (.string "a"), .literal (.string "b"), .literal (.string "c"), .literal (.string "d"), nofun⟩
  have parsed : Expr.parse source {} = .ok tree := parse_of_same formed (by decide +kernel)
  have came : (tree.evaluate standardFunctions (some Expr.nestingAllowance)).run ⟨.empty, 0⟩ = (.ok value, ⟨.empty, 0⟩) := by
    rfl
  have evaluated : (tree.run standardFunctions .empty).1 = .ok value := run_of_evaluate came
  have three : (Value.int 3).format = .ok "3" := format_eq_ok_iff.mpr ⟨by unfold HasFewDigits; decide, by rfl⟩
  have names : List.Forall₂ (fun entry member => entry.1.format = .ok member.1) entries members :=
    .cons rfl (.cons rfl (.cons three (.cons rfl .nil)))
  have contents : List.Forall₂ (fun value json => value.toJson = .ok json) (entries.map Prod.snd) (members.map Prod.snd) :=
    .cons rfl (.cons rfl (.cons rfl (.cons rfl .nil)))
  have converted : value.toJson = .ok json := toJson_map .plain names contents
  have rendered : json.render =
      .ok "\x7b\"null\": \"a\", \"true\": \"b\", \"3\": \"c\", \"k\": \"d\"\x7d" := by
    decide +kernel
  have report : Report.success ("\x7b\"null\": \"a\", \"true\": \"b\", \"3\": \"c\", \"k\": \"d\"\x7d" ++ "\n") =
      ⟨0, "\x7b\"null\": \"a\", \"true\": \"b\", \"3\": \"c\", \"k\": \"d\"\x7d\n", ""⟩ := by
    decide +kernel
  have printed := runRequest_of_ok parsed evaluated converted rendered
  rw [report] at printed
  refine ⟨printed, converted, ?_⟩
  obtain ⟨bindings, program, result, found, text, loaded, compiled, ran, shown, _, _, told⟩ :=
    printed_document_keeps_entries_iff printed
  have sameBindings : bindings = .empty := comes_pure loaded
  have sameProgram : program = ⟨source, tree, standardFunctions⟩ :=
    Except.ok.inj (compiled.symm.trans (compile_of_parse parsed))
  subst sameBindings sameProgram
  have sameValue : result = value := Except.ok.inj (ran.symm.trans evaluated)
  subst sameValue
  have sameJson : found = json := Except.ok.inj (shown.symm.trans converted)
  subst sameJson
  have keyed : Keyed entries := by decide +kernel
  apply told.mpr
  apply Unconfused.map
  · exact (nodup_names_iff keyed names).mp (by decide)
  · have scalars : ∀ content ∈ entries.map Prod.snd, content.isScalar := by decide
    intro content member
    exact .scalar (scalars content member)

/-- The keys `1` and `'1'` are two keys with one text, and the entry of the first is lost. -/
theorem entry_of_number_lost_to_text :
    let tree : Expr := .map [(.literal .int (.int 1), .literal .string (.string "a")),
      (.literal .string (.string "1"), .literal .string (.string "b"))]
    let value : Value := .map .plain [(.int 1, .string "a"), (.string "1", .string "b")]
    let json : Json := .object [("1", .text "b")]
    Expr.parse "\x7b1: 'a', '1': 'b'\x7d" {} = .ok tree ∧ (tree.run standardFunctions .empty).1 = .ok value ∧
      value.toJson = .ok json ∧ ¬ Shows value json ∧
      Comes (runRequest (fun _ => none) false (.evaluate "\x7b1: 'a', '1': 'b'\x7d" [] none true))
        ⟨0, "\x7b\"1\": \"b\"\x7d\n", ""⟩ := by
  intro tree value json
  have formed : WellFormed Fits tree := .map
    (List.forall_mem_cons.mpr ⟨.literal (.int 1), List.forall_mem_singleton.mpr (.literal (.string "1"))⟩)
    (List.forall_mem_cons.mpr ⟨.literal (.string "a"), List.forall_mem_singleton.mpr (.literal (.string "b"))⟩)
  have parsed : Expr.parse "\x7b1: 'a', '1': 'b'\x7d" {} = .ok tree := parse_of_same formed (by decide +kernel)
  have came : (tree.evaluate standardFunctions (some Expr.nestingAllowance)).run ⟨.empty, 0⟩ = (.ok value, ⟨.empty, 0⟩) := by
    rfl
  have evaluated : (tree.run standardFunctions .empty).1 = .ok value := run_of_evaluate came
  have one : (Value.int 1).format = .ok "1" := format_eq_ok_iff.mpr ⟨by unfold HasFewDigits; decide, by rfl⟩
  have names : List.Forall₂ (fun (entry : Value × Value) (member : String × Json) => entry.1.format = .ok member.1)
      [(.int 1, .string "a"), (.string "1", .string "b")] [("1", .text "a"), ("1", .text "b")] :=
    .cons one (.cons rfl .nil)
  have converted : value.toJson = .ok json := toJson_map .plain names (.cons rfl (.cons rfl .nil))
  have rendered : json.render = .ok "\x7b\"1\": \"b\"\x7d" := by decide +kernel
  have report : Report.success ("\x7b\"1\": \"b\"\x7d" ++ "\n") = ⟨0, "\x7b\"1\": \"b\"\x7d\n", ""⟩ := by
    decide +kernel
  have printed := runRequest_of_ok parsed evaluated converted rendered
  rw [report] at printed
  exact ⟨parsed, evaluated, converted, not_shows_of_fewer (by decide), printed⟩

end Results

end CommonExpr.Proofs.PrintedDocuments

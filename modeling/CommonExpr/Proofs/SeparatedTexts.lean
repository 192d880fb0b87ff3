import CommonExpr.Program
import CommonExpr.Proofs.EvaluationClosure
import CommonExpr.Proofs.TokenReader
import Mathlib.Data.List.Infix

/-! Texts cut at the occurrences of a separator. The occurrences are taken from the left, and none
begins inside of another that was taken. So joining the pieces gives back the text, no piece has an
occurrence left in it, and more than one piece there is only where the text has an occurrence. -/

namespace CommonExpr.Proofs.SeparatedTexts
open EvaluationClosure TokenReader

section Occurrences
variable {separator text rest : List Char} {count : Nat}

private theorem occurs_iff (sought text : List Char) : Text.occurs sought text = true ↔ sought <:+: text := by
  induction text with
  | nil => simp [Text.occurs]
  | cons c rest ih => simp [Text.occurs, ih, List.infix_cons_iff]

/-- No occurrence of the separator begins among the first characters of a text. -/
def Clear (separator : List Char) (count : Nat) (text : List Char) : Prop :=
  ∀ skipped < count, ¬ separator <+: text.drop skipped

theorem Clear.zero : Clear separator 0 text := by
  intro skipped few
  exact absurd few (Nat.not_lt_zero skipped)

theorem Clear.tail {c : Char} (clear : Clear separator (count + 1) (c :: rest)) : Clear separator count rest := by
  intro skipped few
  exact clear (skipped + 1) (Nat.succ_lt_succ few)

/-- An occurrence that is not empty begins at one of the characters. -/
theorem clear_iff (some : separator ≠ []) : Clear separator text.length text ↔ ¬ separator <:+: text := by
  constructor
  · rintro clear ⟨before, behind, rfl⟩
    have filled := List.length_pos_iff.mpr some
    apply clear before.length
    · simp only [List.length_append]
      omega
    · rw [List.append_assoc, List.drop_left]
      exact List.prefix_append separator behind
  · intro absent skipped _ begins
    exact absent (begins.isInfix.trans (List.drop_suffix skipped text).isInfix)

/-- What begins inside of the first part of a text also begins in the whole. -/
theorem Clear.left {behind : List Char} (clear : Clear separator text.length (text ++ behind)) :
    Clear separator text.length text := by
  intro skipped few begins
  apply clear skipped few
  rw [List.drop_append_of_le_length few.le]
  exact begins.trans (List.prefix_append _ behind)

end Occurrences

section Pieces
variable {separator text : List Char} {pieces : List (List Char)}

/-- The pieces of a text before, between and behind the leftmost occurrences of a separator. -/
inductive Separated (separator : List Char) : List Char → List (List Char) → Prop where
  | last {piece : List Char} (clear : Clear separator piece.length piece) : Separated separator piece [piece]
  | next {piece rest : List Char} {pieces : List (List Char)}
      (clear : Clear separator piece.length (piece ++ (separator ++ rest))) (others : Separated separator rest pieces) :
      Separated separator (piece ++ (separator ++ rest)) (piece :: pieces)

/-- A text in which the leftmost occurrences of one text are replaced by another. -/
inductive Replaced (old new : List Char) : List Char → List Char → Prop where
  | done : Replaced old new [] []
  | found {rest result : List Char} (behind : Replaced old new rest result) :
      Replaced old new (old ++ rest) (new ++ result)
  | kept {c : Char} {rest result : List Char} (absent : ¬ old <+: c :: rest) (behind : Replaced old new rest result) :
      Replaced old new (c :: rest) (c :: result)

private theorem piecesFrom_skip (separator piece text : List Char) (skip : Nat) :
    Text.piecesFrom separator skip piece text = Text.piecesFrom separator 0 piece (text.drop skip) := by
  induction text generalizing skip with
  | nil => cases skip <;> rfl
  | cons c rest ih =>
    cases skip with
    | zero => rfl
    | succ skip => exact ih skip

/-- The piece under way stands before the text that is still to be cut. -/
theorem piecesFrom_separated (some : separator ≠ []) (text piece : List Char)
    (clear : Clear separator piece.length (piece.reverse ++ text)) :
    Separated separator (piece.reverse ++ text) (Text.piecesFrom separator 0 piece text) := by
  induction length : text.length using Nat.strongRecOn generalizing text piece with
  | ind length ih =>
    subst length
    cases text with
    | nil =>
      rw [List.append_nil] at clear ⊢
      rw [← List.length_reverse] at clear
      exact .last clear
    | cons c rest =>
      rw [Text.piecesFrom]
      split
      next begins =>
        obtain ⟨behind, shape⟩ := List.isPrefixOf_iff_prefix.mp begins
        have passed : rest.drop (separator.length - 1) = behind := by
          obtain ⟨first, others, rfl⟩ := List.exists_cons_of_ne_nil some
          cases shape
          exact List.drop_left
        have shorter : behind.length < (c :: rest).length := by
          have filled := List.length_pos_iff.mpr some
          rw [← shape, List.length_append]
          omega
        rw [piecesFrom_skip, passed, ← shape]
        rw [← shape, ← List.length_reverse] at clear
        exact .next clear (ih _ shorter behind [] .zero rfl)
      next other =>
        have here : ¬ separator <+: c :: rest := fun begins => other (List.isPrefixOf_iff_prefix.mpr begins)
        have shape : piece.reverse ++ c :: rest = (c :: piece).reverse ++ rest := by simp
        rw [shape]
        apply ih rest.length (by simp) rest (c :: piece) _ rfl
        intro skipped few
        rw [← shape]
        rcases Nat.lt_succ_iff_lt_or_eq.mp few with before | rfl
        · exact clear skipped before
        · rw [← List.length_reverse, List.drop_left]
          exact here

private theorem pieces_separated (some : separator ≠ []) (text : List Char) :
    Separated separator text (Text.pieces separator text) :=
  piecesFrom_separated some text [] .zero

theorem Separated.filled (separated : Separated separator text pieces) : pieces ≠ [] := by
  cases separated <;> exact List.cons_ne_nil _ _

private theorem intercalate_cons {α : Type} (between first : List α) {others : List (List α)} (some : others ≠ []) :
    between.intercalate (first :: others) = first ++ (between ++ between.intercalate others) := by
  obtain ⟨second, rest, rfl⟩ := List.exists_cons_of_ne_nil some
  rw [List.intercalate_cons_cons, List.append_assoc]

theorem Separated.joined (separated : Separated separator text pieces) : separator.intercalate pieces = text := by
  induction separated with
  | last _ => exact List.intercalate_singleton
  | next _ others ih => rw [intercalate_cons _ _ others.filled, ih]

theorem Separated.absent (some : separator ≠ []) (separated : Separated separator text pieces) :
    ∀ piece ∈ pieces, ¬ separator <:+: piece := by
  induction separated with
  | last clear =>
    intro piece member
    cases List.mem_singleton.mp member
    exact (clear_iff some).mp clear
  | next clear _ ih =>
    intro piece member
    rcases List.mem_cons.mp member with rfl | later
    · exact (clear_iff some).mp clear.left
    · exact ih piece later

theorem Separated.several_iff (some : separator ≠ []) (separated : Separated separator text pieces) :
    1 < pieces.length ↔ separator <:+: text := by
  cases separated with
  | last clear => simpa using (clear_iff some).mp clear
  | @next piece rest others _ separated =>
    have more := List.length_pos_iff.mpr separated.filled
    refine ⟨fun _ => ⟨piece, rest, List.append_assoc ..⟩, fun _ => ?_⟩
    rw [List.length_cons]
    omega

/-- Where no occurrence begins, every character stays. -/
theorem Replaced.keep {old new rest result : List Char} (piece : List Char)
    (clear : Clear old piece.length (piece ++ rest)) (behind : Replaced old new rest result) :
    Replaced old new (piece ++ rest) (piece ++ result) := by
  induction piece with
  | nil => exact behind
  | cons c piece ih =>
    apply Replaced.kept
    · exact clear 0 (Nat.succ_pos _)
    · exact ih clear.tail

theorem Separated.replaced (separated : Separated separator text pieces) (new : List Char) :
    Replaced separator new text (new.intercalate pieces) := by
  induction separated with
  | @last piece clear =>
    rw [List.intercalate_singleton]
    rw [← List.append_nil piece] at clear ⊢
    exact .keep piece (by simpa using clear) .done
  | next clear others ih =>
    rw [intercalate_cons _ _ others.filled]
    exact .keep _ clear (.found ih)

end Pieces

section Runs
variable {scope : Scope} {left : Nat} {tree other : Expr} {value second : Value}

/-- With the standard functions the tree comes to the value, and leaves the scope as it was. -/
def Yields (scope : Scope) (left : Nat) (tree : Expr) (value : Value) : Prop :=
  (tree.evaluate standardFunctions (some left)).run scope = (.ok value, scope)

theorem Yields.name {name : String} (found : scope.bindings.get? name = some value) :
    Yields scope (left + 1) (.identifier name) value := by
  have looked : (Evaluation.lookup? name).run scope = (.ok (some value), scope) := by
    rw [← found]
    rfl
  rw [Yields, Expr.evaluate]
  exact run_bind_of_ok looked

theorem Yields.literal (kind : LiteralKind) (value : Value) : Yields scope (left + 1) (.literal kind value) value := by
  rw [Yields, Expr.evaluate]
  rfl

private theorem yields_all {trees : List Expr} {values : List Value}
    (each : List.Forall₂ (Yields scope left) trees values) :
    (Expr.evaluateAll standardFunctions trees (some left)).run scope = (.ok values, scope) := by
  induction each with
  | nil =>
    rw [Expr.evaluateAll]
    rfl
  | cons first _ ih =>
    rw [Expr.evaluateAll, run_bind_of_ok first, run_bind_of_ok ih]
    rfl

private theorem produce_of_ok {result : Value} (number : result ≠ .double (.nan none)) (scope : Scope) :
    (Evaluation.produce (.ok result)).run scope = (.ok result, scope) := by
  rw [Evaluation.produce, ExceptT.run_mk]
  split
  next same => exact absurd (Except.ok.inj same) number
  next => rfl

theorem Yields.method {function : String} {arguments : List Expr} {values : List Value} {result : Value}
    (target : Yields scope left tree value) (given : List.Forall₂ (Yields scope left) arguments values)
    (answered : standardFunctions.callMethod value function values = .ok result) (number : result ≠ .double (.nan none)) :
    Yields scope (left + 1) (.call (some tree) function arguments false) result := by
  rw [Yields, Expr.evaluate]
  change (Expr.evaluateAll standardFunctions arguments (some left) >>= _).run scope = _
  rw [run_bind_of_ok (yields_all given), run_bind_of_ok target, answered]
  exact produce_of_ok number scope

theorem Yields.relation {operator : RelationalOperator} {answer : Bool} (before : Yields scope left tree value)
    (behind : Yields scope left other second) (related : Value.relate operator value second = .ok answer) :
    Yields scope (left + 1) (.binary (.relational operator) tree other) (.bool answer) := by
  rw [Yields, Expr.evaluate]
  change (Expr.evaluate standardFunctions tree (some left) >>= _).run scope = _
  rw [run_bind_of_ok before, run_bind_of_ok behind, related]
  rfl

theorem Yields.evaluate {source : String} {bindings : Bindings} (parsed : Expr.parse source {} = .ok tree)
    (yields : Yields ⟨bindings, 0⟩ Expr.nestingAllowance tree value) : CommonExpr.evaluate source bindings = .ok value := by
  rw [CommonExpr.evaluate, Program.compile, parsed]
  change ((tree.run standardFunctions bindings).1).mapError _ = _
  rw [Expr.run, yields]
  rfl

end Runs

section Methods
variable (text separator new : String)

/-- A method in the table of the standard functions answers with what its implementation comes to. -/
theorem callMethod_found {target result : Value} {name : String} {arguments : List Value} {definition : Definition}
    (found : Registries.standard.get? 0 true name = some definition) (accepts : definition.accepts arguments.length)
    (present : target ≠ .null) (came : definition.implementation (target :: arguments) = .ok result) :
    standardFunctions.callMethod target name arguments = .ok result := by
  have resolved : Registries.standard.resolve true name 0 = .definition definition := by
    obtain ⟨registry, first, listed⟩ := Option.bind_eq_some_iff.mp found
    rw [Registries.resolve, first]
    simp only [listed]
  change Registries.standard.callMethod 0 target name arguments = .ok result
  rw [Registries.callMethod, resolved]
  cases target with
  | null => exact absurd rfl present
  | _ => simp only [Definition.invoke, accepts, if_true, came, Except.mapError]

-- The table is closed, and so a method is found in it by computing.
set_option maxRecDepth 4000

private theorem callMethod_split : standardFunctions.callMethod (.string text) "split" [.string separator] =
    .ok (.list ((Text.split text separator).map .string)) :=
  callMethod_found rfl rfl nofun rfl

private theorem callMethod_replace :
    standardFunctions.callMethod (.string text) "replace" [.string separator, .string new] =
    .ok (.string (Text.replace text separator new)) :=
  callMethod_found rfl rfl nofun rfl

private theorem callMethod_contains : standardFunctions.callMethod (.string text) "contains" [.string separator] =
    .ok (.bool (Text.contains text separator)) :=
  callMethod_found rfl rfl nofun rfl

private theorem callMethod_size (elements : List Value) : standardFunctions.callMethod (.list elements) "size" [] =
    .ok (.int elements.length) :=
  callMethod_found rfl rfl nofun rfl

end Methods

section Laws
variable {text separator : String}

private theorem greater_integer (left right : Int) :
    Value.relate .greater (.int left) (.int right) = .ok (right < left) := by
  have ordered : (compareRat left right == .gt) = decide (right < left) := by
    unfold compareRat
    rcases Int.lt_trichotomy left right with less | rfl | more
    · rw [if_pos (Rat.intCast_lt_intCast.mpr less)]
      simp [Int.le_of_lt less]
    · simp
    · have ordered := Int.le_of_lt more
      rw [if_neg (mt Rat.intCast_lt_intCast.mp (Int.not_lt.mpr ordered)), if_pos (Rat.intCast_lt_intCast.mpr more)]
      simp [more]
  rw [← ordered, Value.relate, Value.compare]
  simp only [Number.compare?, Number.extent?, Extent.compare]
  rfl

private theorem contains_eq (text sought : String) :
    Text.contains text sought = decide (sought.toList <:+: text.toList) := by
  rw [Bool.eq_iff_iff, decide_eq_true_iff]
  exact occurs_iff sought.toList text.toList

private theorem toList_ne_nil (some : separator ≠ "") : separator.toList ≠ [] := by
  intro none
  exact some (String.toList_eq_nil_iff.mp none)

private theorem split_eq (some : separator ≠ "") (text : String) :
    Text.split text separator = (Text.pieces separator.toList text.toList).map String.ofList := by
  rw [Text.split, if_neg (by simpa using some)]

private theorem split_separated (some : separator ≠ "") (text : String) :
    Separated separator.toList text.toList ((Text.split text separator).map String.toList) := by
  have same : (Text.split text separator).map String.toList = Text.pieces separator.toList text.toList := by
    simp [split_eq some, List.map_map, Function.comp_def]
  rw [same]
  exact pieces_separated (toList_ne_nil some) text.toList

private theorem replace_eq (some : separator ≠ "") (text new : String) :
    Text.replace text separator new = new.intercalate (Text.split text separator) := by
  rw [Text.replace, if_neg (by simpa using some), split_eq some, ← String.toList_inj]
  simp [List.map_map, Function.comp_def]

private theorem several_iff (some : separator ≠ "") (text : String) :
    1 < (Text.split text separator).length ↔ separator.toList <:+: text.toList := by
  rw [← (split_separated some text).several_iff (toList_ne_nil some), List.length_map]

end Laws

section Sources
variable (text separator new : String)

/-- The texts under the names that the sources use. -/
def bound : Bindings :=
  ⟨[("t", .string text), ("sep", .string separator), ("n", .string new)]⟩

private theorem named (left : Nat) : Yields ⟨bound text separator new, 0⟩ (left + 1) (.identifier "t") (.string text) ∧
    Yields ⟨bound text separator new, 0⟩ (left + 1) (.identifier "sep") (.string separator) ∧
      Yields ⟨bound text separator new, 0⟩ (left + 1) (.identifier "n") (.string new) :=
  ⟨.name rfl, .name rfl, .name rfl⟩

private theorem split_yields (left : Nat) : Yields ⟨bound text separator new, 0⟩ (left + 2)
    (.call (some (.identifier "t")) "split" [.identifier "sep"] false)
      (.list ((Text.split text separator).map .string)) := by
  obtain ⟨whole, between, -⟩ := named text separator new left
  exact .method whole (.cons between .nil) (callMethod_split text separator) nofun

private theorem split_evaluated : evaluate "t.split(sep)" (bound text separator new) =
    .ok (.list ((Text.split text separator).map .string)) :=
  (split_yields text separator new 488).evaluate rfl

private theorem replace_evaluated : evaluate "t.replace(sep, n)" (bound text separator new) =
    .ok (.string (Text.replace text separator new)) := by
  obtain ⟨whole, old, other⟩ := named text separator new 488
  have replaced := Yields.method whole (.cons old (.cons other .nil)) (callMethod_replace text separator new) nofun
  exact replaced.evaluate rfl

private theorem contains_evaluated : evaluate "t.contains(sep)" (bound text separator new) =
    .ok (.bool (Text.contains text separator)) := by
  obtain ⟨whole, sought, -⟩ := named text separator new 488
  exact (Yields.method whole (.cons sought .nil) (callMethod_contains text separator) nofun).evaluate rfl

private theorem member_evaluated : evaluate "sep in t" (bound text separator new) =
    .ok (.bool (Text.contains text separator)) := by
  obtain ⟨whole, sought, -⟩ := named text separator new 488
  exact (sought.relation whole rfl).evaluate rfl

private theorem count_evaluated : evaluate "t.split(sep).size() > 1" (bound text separator new) =
    .ok (.bool (1 < (Text.split text separator).length)) := by
  have counted := (split_yields text separator new 487).method .nil (callMethod_size _) nofun
  have compared := greater_integer ((Text.split text separator).map Value.string).length 1
  have more : ((1 : Int) < ((Text.split text separator).map Value.string).length) =
      (1 < (Text.split text separator).length) := by
    rw [List.length_map]
    exact propext Int.ofNat_lt
  simp only [more] at compared
  exact (counted.relation (.literal .int (.int 1)) compared).evaluate rfl

/-- The tokens are found first, as what is between the quotes would be computed over and over. -/
theorem empty_split_parsed : Expr.parse "t.split('')" {} =
    .ok (.call (some (.identifier "t")) "split" [.literal .string (.string "")] false) := by
  have stream : TokenStream.ofSource "t.split('')" = streamOf ⟨1, 12, 11⟩
      [⟨.identifier, "t", ⟨1, 1, 0⟩⟩, ⟨.dot, ".", ⟨1, 2, 1⟩⟩, ⟨.identifier, "split", ⟨1, 3, 2⟩⟩,
        ⟨.leftParen, "(", ⟨1, 8, 7⟩⟩, ⟨.string, "''", ⟨1, 9, 8⟩⟩, ⟨.rightParen, ")", ⟨1, 11, 10⟩⟩] := by rfl
  rw [Expr.parse, stream]
  rfl

private theorem empty_split_evaluated : evaluate "t.split('')" (bound text separator new) =
    .ok (.list (text.toList.map fun c => .string (String.singleton c))) := by
  obtain ⟨whole, -, -⟩ := named text separator new 488
  have cut := callMethod_split text ""
  have characters : (Text.split text "").map Value.string = text.toList.map fun c => .string (String.singleton c) := by
    simp [Text.split]
  rw [characters] at cut
  exact (Yields.method whole (.cons (.literal .string (.string "")) .nil) cut nofun).evaluate empty_split_parsed

end Sources

/-- Splitting, replacing and the tests for a part agree. A text is cut into its pieces at the leftmost
occurrences of a separator; none of them has one left in it, joined with the separator they are the
text, and joined with another text they are what replacing gives. Containment, membership and more than
one piece are the same. An empty separator cuts between all characters. -/
theorem split_replace_contains_agree (text separator new : String) :
    let answer (source : String) := evaluate source (bound text separator new)
    (separator ≠ "" → ∃ pieces : List String,
      answer "t.split(sep)" = .ok (.list (pieces.map .string)) ∧
      Separated separator.toList text.toList (pieces.map String.toList) ∧
      separator.intercalate pieces = text ∧
      (∀ piece ∈ pieces, ¬ separator.toList <:+: piece.toList) ∧
      answer "t.replace(sep, n)" = .ok (.string (new.intercalate pieces)) ∧
      Replaced separator.toList new.toList text.toList (new.intercalate pieces).toList ∧
      ∀ source ∈ ["t.contains(sep)", "sep in t", "t.split(sep).size() > 1"],
        answer source = .ok (.bool (separator.toList <:+: text.toList))) ∧
    answer "t.split('')" = .ok (.list (text.toList.map fun c => .string (String.singleton c))) := by
  intro answer
  refine ⟨fun some => ?_, empty_split_evaluated text separator new⟩
  have separated := split_separated some text
  refine ⟨Text.split text separator, split_evaluated text separator new, separated, ?_, ?_, ?_, ?_, ?_⟩
  · rw [← String.toList_inj, String.toList_intercalate]
    exact separated.joined
  · intro piece member
    exact separated.absent (toList_ne_nil some) _ (List.mem_map_of_mem member)
  · rw [← replace_eq some]
    exact replace_evaluated text separator new
  · rw [String.toList_intercalate]
    exact separated.replaced new.toList
  · have contained := contains_evaluated text separator new
    have member := member_evaluated text separator new
    have several := count_evaluated text separator new
    simp only [several_iff some] at several
    rw [contains_eq] at contained member
    simpa using ⟨contained, member, several⟩

/-- Of the two places where the separator begins only the first one counts. -/
theorem overlapping_separator_taken_once :
    let answer (source : String) := evaluate source (bound "xaaay" "aa" "-")
    "aa" ≠ "" ∧ answer "t.split(sep)" = .ok (.list [.string "x", .string "ay"]) ∧
      answer "t.replace(sep, n)" = .ok (.string "x-ay") ∧ answer "sep in t" = .ok (.bool true) ∧
      answer "t.split('')" = .ok (.list [.string "x", .string "a", .string "a", .string "a", .string "y"]) := by
  intro answer
  have some : "aa" ≠ "" := by decide
  obtain ⟨laws, characters⟩ := split_replace_contains_agree "xaaay" "aa" "-"
  obtain ⟨pieces, split, -, -, -, replaced, -, tests⟩ := laws some
  obtain rfl : pieces = ["x", "ay"] := by
    have cut : Text.split "xaaay" "aa" = ["x", "ay"] := by rfl
    have same := (split_evaluated "xaaay" "aa" "-").symm.trans split
    rw [cut] at same
    have different : Function.Injective Value.string := fun _ _ equal => (Value.text.inj equal).2
    exact (List.map_injective_iff.mpr different (Value.list.inj (Except.ok.inj same))).symm
  exact ⟨some, split, replaced, tests _ (by simp), characters⟩

end CommonExpr.Proofs.SeparatedTexts

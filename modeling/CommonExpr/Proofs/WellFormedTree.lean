import CommonExpr.Proofs.ParserCompleteness
import CommonExpr.Proofs.Tokenization

/-! The trees that the grammar can produce: names are names, literals have lexemes, and
the parts that only a host can build are missing. -/

namespace CommonExpr.Proofs.WellFormedTree
open Grammar Lexeme LexemeExtent TokenReader Tokenization ParserCompleteness

/-- A letter or an underscore and then letters, digits and underscores, but no reserved word. -/
structure IsName (name : String) : Prop where
  pattern : ∃ first rest, name.toList = first :: rest ∧ isNameStart first ∧ ∀ c ∈ rest, isNamePart c
  free : name ≠ "null" ∧ name ≠ "true" ∧ name ≠ "false" ∧ name ≠ "in"

/-- The text is a lexeme of a literal, and the literal has this kind and value. -/
def Denotes (text : String) (kind : LiteralKind) (value : Value) : Prop :=
  ∃ token, Genuine token ∧ token.text = text ∧ Literal.ofToken? token = some (some (.literal kind value))

def HasLexeme (kind : LiteralKind) (value : Value) : Prop :=
  ∃ text, Denotes text kind value

/-- A tree whose literals are among the allowed ones. -/
inductive WellFormed (Allowed : LiteralKind → Value → Prop) : Expr → Prop where
  | literal {kind : LiteralKind} {value : Value} (allowed : Allowed kind value) : WellFormed Allowed (.literal kind value)
  | identifier {name : String} (named : IsName name) : WellFormed Allowed (.identifier name)
  | select {operand : Option Expr} {field : String} {test : Bool} (named : IsName field)
      (inner : ∀ tree ∈ operand, WellFormed Allowed tree) : WellFormed Allowed (.select operand field test)
  | index {operand position : Expr} (inner : WellFormed Allowed operand) (place : WellFormed Allowed position) :
      WellFormed Allowed (.index operand position)
  | call {target : Option Expr} {function : String} {arguments : List Expr} (named : IsName function)
      (inner : ∀ tree ∈ target, WellFormed Allowed tree) (given : ∀ tree ∈ arguments, WellFormed Allowed tree) :
      WellFormed Allowed (.call target function arguments (target.isSome && (Loop.ofName? function).isSome))
  | list {elements : List Expr} (inner : ∀ tree ∈ elements, WellFormed Allowed tree) : WellFormed Allowed (.list elements)
  | map {entries : List (Expr × Expr)} (keys : ∀ entry ∈ entries, WellFormed Allowed entry.1)
      (values : ∀ entry ∈ entries, WellFormed Allowed entry.2) : WellFormed Allowed (.map entries)
  | typed {parts : List String} {fields : List (String × Expr)} (filled : parts ≠ []) (type : ∀ part ∈ parts, IsName part)
      (names : ∀ field ∈ fields, IsName field.1) (values : ∀ field ∈ fields, WellFormed Allowed field.2) :
      WellFormed Allowed (.struct (some (".".intercalate parts)) fields)
  | untyped {fields : List (String × Expr)} (filled : fields ≠ []) (names : ∀ field ∈ fields, IsName field.1)
      (values : ∀ field ∈ fields, WellFormed Allowed field.2) : WellFormed Allowed (.struct none fields)
  | unary {operator : UnaryOperator} {operand : Expr} (inner : WellFormed Allowed operand) :
      WellFormed Allowed (.unary operator operand)
  | binary {operator : BinaryOperator} {left right : Expr} (before : WellFormed Allowed left)
      (behind : WellFormed Allowed right) : WellFormed Allowed (.binary operator left right)
  | conditional {condition whenTrue otherwise : Expr} (tested : WellFormed Allowed condition)
      (chosen : WellFormed Allowed whenTrue) (other : WellFormed Allowed otherwise) :
      WellFormed Allowed (.conditional condition whenTrue otherwise)

theorem WellFormed.mono {Allowed Permitted : LiteralKind → Value → Prop} {tree : Expr} (formed : WellFormed Allowed tree)
    (wider : ∀ kind value, Allowed kind value → Permitted kind value) : WellFormed Permitted tree := by
  induction formed with
  | literal allowed => exact .literal (wider _ _ allowed)
  | identifier named => exact .identifier named
  | select named _ inner => exact .select named inner
  | index _ _ inner place => exact .index inner place
  | call named _ _ inner given => exact .call named inner given
  | list _ inner => exact .list inner
  | map _ _ keys values => exact .map keys values
  | typed filled type names _ values => exact .typed filled type names values
  | untyped filled names _ values => exact .untyped filled names values
  | unary _ inner => exact .unary inner
  | binary _ _ before behind => exact .binary before behind
  | conditional _ _ _ tested chosen other => exact .conditional tested chosen other

section Names

theorem IsName.parts {name : String} (named : IsName name) : ∀ c ∈ name.toList, isNamePart c := by
  obtain ⟨first, rest, shape, starts, parts⟩ := named.pattern
  rw [shape]
  exact List.forall_mem_cons.mpr ⟨namePart_of_start starts, parts⟩

private theorem wordKind_eq_identifier {word : List Char} (kind : wordKind word = .identifier) :
    String.ofList word ≠ "null" ∧ String.ofList word ≠ "true" ∧ String.ofList word ≠ "false" ∧ String.ofList word ≠ "in" := by
  unfold wordKind at kind
  split at kind
  all_goals first | contradiction | skip
  next notNull notTrue notFalse notIn => exact ⟨notNull, notTrue, notFalse, notIn⟩

/-- A lexeme that is an identifier is a word from its first character to its last one. -/
theorem isName_of_genuine {token : Token} (genuine : Genuine token) (names : token.kind = .identifier) : IsName token.text := by
  rw [Genuine, names] at genuine
  cases shape : token.text.toList with
  | nil => rw [shape] at genuine; cases genuine
  | cons first rest =>
    rw [shape] at genuine
    obtain ⟨starts, whole⟩ := read_identifier genuine
    unfold word at whole
    obtain ⟨kind, all⟩ := Lexeme.token.inj whole
    have same : (first :: rest).takeWhile isNamePart = first :: rest :=
      (List.takeWhile_prefix isNamePart).eq_of_length all
    rw [same, ← shape] at kind
    have free := wordKind_eq_identifier kind
    rw [String.ofList_toList] at free
    refine ⟨⟨first, rest, shape, starts, fun c member => ?_⟩, free⟩
    have parts := List.all_takeWhile (p := isNamePart) (l := first :: rest)
    rw [same] at parts
    exact List.all_eq_true.mp parts c (List.mem_cons_of_mem _ member)

end Names

section Derivations

private theorem literal_of_token {token : Token} {tree : Expr} (genuine : Genuine token)
    (denotes : Literal.ofToken? token = some (some tree)) : WellFormed HasLexeme tree := by
  obtain ⟨kind, value, rfl⟩ : ∃ kind value, tree = .literal kind value := by
    unfold Literal.ofToken? at denotes
    dsimp only at denotes
    split at denotes
    all_goals simp only [Option.some.injEq, Option.map_eq_some_iff, reduceCtorEq] at denotes
    all_goals first | exact ⟨_, _, denotes.symm⟩ | exact ⟨_, _, denotes.choose_spec.2.symm⟩
  exact .literal ⟨token.text, token, genuine, rfl, denotes⟩

def ShapedItem : Item → Prop
  | .element tree => WellFormed HasLexeme tree
  | .field name value => IsName name ∧ WellFormed HasLexeme value
  | .entry key value => WellFormed HasLexeme key ∧ WellFormed HasLexeme value

def Shaped : Phrase → Prop
  | .source tree | .expression tree | .chain _ tree | .unary tree | .member tree | .primary tree => WellFormed HasLexeme tree
  | .typeName parts => parts ≠ [] ∧ ∀ part ∈ parts, IsName part
  | .item item => ShapedItem item
  | .items all | .sequence all => ∀ item ∈ all, ShapedItem item

/-- Every token but the end one is a lexeme. -/
def Lexical (tokens : List Token) : Prop :=
  ∀ token ∈ tokens, token.kind ≠ .endOfInput → Genuine token

variable {first second : List Token} {token : Token}

@[simp] theorem lexical_append : Lexical (first ++ second) ↔ Lexical first ∧ Lexical second := by
  simp only [Lexical, List.mem_append, or_imp, forall_and]

@[simp] theorem lexical_cons : Lexical (token :: first) ↔ (token.kind ≠ .endOfInput → Genuine token) ∧ Lexical first := by
  simp only [Lexical, List.mem_cons, or_imp, forall_and, forall_eq]

private theorem isName_of_kind (genuine : token.kind ≠ .endOfInput → Genuine token) (names : token.kind = .identifier) :
    IsName token.text :=
  isName_of_genuine (genuine (by simp [names])) names

private theorem shaped_elements {trees : List Expr} (shaped : ∀ item ∈ elements trees, ShapedItem item) :
    ∀ tree ∈ trees, WellFormed HasLexeme tree :=
  fun _ member => shaped _ (List.mem_map_of_mem member)

private theorem shaped_fields {members : List (String × Expr)} (shaped : ∀ item ∈ fields members, ShapedItem item) :
    (∀ field ∈ members, IsName field.1) ∧ ∀ field ∈ members, WellFormed HasLexeme field.2 :=
  ⟨fun _ member => (shaped _ (List.mem_map_of_mem member)).1, fun _ member => (shaped _ (List.mem_map_of_mem member)).2⟩

private theorem shaped_entries {pairs : List (Expr × Expr)} (shaped : ∀ item ∈ entries pairs, ShapedItem item) :
    (∀ entry ∈ pairs, WellFormed HasLexeme entry.1) ∧ ∀ entry ∈ pairs, WellFormed HasLexeme entry.2 :=
  ⟨fun _ member => (shaped _ (List.mem_map_of_mem member)).1, fun _ member => (shaped _ (List.mem_map_of_mem member)).2⟩

private theorem empty_sequence {tokens : List Token} (derived : Derives tokens (.sequence [])) : tokens = [] := by
  cases derived with
  | none => rfl
  | some all => cases all
  | trailing all _ => cases all

theorem derives_shaped {tokens : List Token} {phrase : Phrase} (derived : Derives tokens phrase) (lexical : Lexical tokens) :
    Shaped phrase := by
  induction derived with
  | source _ _ ih => exact ih (lexical_append.mp lexical).1
  | plain _ ih | bare _ ih | start _ ih | element _ ih => exact ih lexical
  | operand level _ ih => cases level <;> exact ih lexical
  | conditional _ _ _ _ _ tested chosen other =>
    simp only [lexical_append, lexical_cons] at lexical
    exact .conditional (tested lexical.1) (chosen lexical.2.2.1) (other lexical.2.2.2.2)
  | @operation _ _ _ _ level _ _ _ _ _ before behind =>
    simp only [lexical_append, lexical_cons] at lexical
    have right := behind lexical.2.2
    cases level <;> exact .binary (before lexical.1) right
  | signed _ _ ih => exact .unary (ih (lexical_cons.mp lexical).2)
  | selection _ _ names ih =>
    simp only [lexical_append, lexical_cons] at lexical
    exact .select (isName_of_kind lexical.2.2.1 names) (by rintro _ ⟨⟩; exact ih lexical.1)
  | method _ _ names _ _ _ ih given =>
    simp only [lexical_append, lexical_cons] at lexical
    have arguments := given lexical.2.2.2.2.1
    exact .call (isName_of_kind lexical.2.2.1 names) (by rintro _ ⟨⟩; exact ih lexical.1) (shaped_elements arguments)
  | index _ _ _ _ ih place =>
    simp only [lexical_append, lexical_cons] at lexical
    exact .index (ih lexical.1) (place lexical.2.2.1)
  | literal denotes =>
    have kind : _ ≠ TokenKind.endOfInput := (kind_of_literal denotes).1.2.2.2
    exact literal_of_token ((lexical_cons.mp lexical).1 kind) denotes
  | group _ _ _ ih =>
    simp only [lexical_append, lexical_cons] at lexical
    exact ih lexical.2.1
  | list _ _ _ ih =>
    simp only [lexical_append, lexical_cons] at lexical
    exact .list (shaped_elements (ih lexical.2.1))
  | leadingSelection _ names =>
    simp only [lexical_cons] at lexical
    exact .select (isName_of_kind lexical.2.1 names) (by simp)
  | leadingCall _ names _ _ _ given =>
    simp only [lexical_append, lexical_cons] at lexical
    exact .call (isName_of_kind lexical.2.1 names) (by simp) (shaped_elements (given lexical.2.2.2.1))
  | presence _ _ _ _ _ given =>
    simp only [lexical_append, lexical_cons] at lexical
    have plain := shaped_elements (given lexical.2.2.1) _ (List.mem_singleton.mpr rfl)
    cases plain with
    | select named inner => exact .select named inner
  | call names _ _ _ _ given =>
    simp only [lexical_append, lexical_cons] at lexical
    exact .call (isName_of_kind lexical.1 names) (by simp) (shaped_elements (given lexical.2.2.1))
  | identifier names => exact .identifier (isName_of_kind (lexical_cons.mp lexical).1 names)
  | typed _ _ _ _ type inner =>
    simp only [lexical_append, lexical_cons] at lexical
    have parts := type lexical.1
    have members := shaped_fields (inner lexical.2.2.1)
    exact .typed parts.1 parts.2 members.1 members.2
  | untyped _ derived _ starts inner =>
    simp only [lexical_append, lexical_cons] at lexical
    have members := shaped_fields (inner lexical.2.1)
    refine .untyped ?_ members.1 members.2
    rintro rfl
    obtain rfl := empty_sequence derived
    simp [StartsField] at starts
  | map _ _ _ _ inner =>
    simp only [lexical_append, lexical_cons] at lexical
    have pairs := shaped_entries (inner lexical.2.1)
    exact .map pairs.1 pairs.2
  | simpleName names =>
    exact ⟨by simp, by simpa using isName_of_kind (lexical_cons.mp lexical).1 names⟩
  | dottedName names _ _ ih =>
    simp only [lexical_cons] at lexical
    have behind := ih lexical.2.2
    exact ⟨by simp, by simpa using ⟨isName_of_kind lexical.1 names, behind.2⟩⟩
  | field names _ _ ih =>
    simp only [lexical_cons] at lexical
    exact ⟨isName_of_kind lexical.1 names, ih lexical.2.2⟩
  | entry _ _ _ before behind =>
    simp only [lexical_append, lexical_cons] at lexical
    exact ⟨before lexical.1, behind lexical.2.2⟩
  | single _ ih => simpa [Shaped] using ih lexical
  | several _ _ _ ih others =>
    simp only [lexical_append, lexical_cons] at lexical
    have head := ih lexical.1
    have tail := others lexical.2.2
    simpa [Shaped] using ⟨head, tail⟩
  | none => simp [Shaped]
  | some _ ih => exact ih lexical
  | trailing _ _ ih => exact ih (lexical_append.mp lexical).1

end Derivations

end CommonExpr.Proofs.WellFormedTree

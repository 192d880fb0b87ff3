import CommonExpr.Proofs.IntegerLiterals
import CommonExpr.Proofs.WellFormedTree

/-! A lexeme for every literal and every name: integers in hexadecimal digits, strings and
bytes with their quotes and backslashes escaped. Doubles have no lexeme of their own here. -/

namespace CommonExpr.Proofs.Spelling
open IntegerLiterals Lexeme LexemeExtent Tokenization WellFormedTree

section Hexadecimal
variable {value : Nat}

def hexadecimal (value : Nat) : List Char :=
  '0' :: 'x' :: Nat.toDigits 16 value

private theorem hexDigit?_digitChar {digit : Nat} (small : digit < 16) :
    Text.hexDigit? digit.digitChar = some digit := by
  revert digit
  decide

private theorem hexDigit?_toDigits (number : Nat) : ∀ c ∈ Nat.toDigits 16 number, (Text.hexDigit? c).isSome := by
  induction number using Nat.strongRecOn with
  | ind number ih =>
    rw [Nat.toDigits_eq_if (by decide)]
    split
    next small => simp [hexDigit?_digitChar small]
    next large =>
      have last := hexDigit?_digitChar (Nat.mod_lt number (show 0 < 16 by decide))
      simpa [or_imp, forall_and, last] using ih (number / 16) (by omega)

private theorem ofDigits_toDigits (number : Nat) :
    Text.ofDigits 16 ((Nat.toDigits 16 number).filterMap Text.hexDigit?) = number := by
  induction number using Nat.strongRecOn with
  | ind number ih =>
    rw [Nat.toDigits_eq_if (by decide)]
    split
    next small => simp [hexDigit?_digitChar small, Text.ofDigits]
    next large =>
      have last := hexDigit?_digitChar (Nat.mod_lt number (show 0 < 16 by decide))
      have front := ih (number / 16) (by omega)
      unfold Text.ofDigits at front ⊢
      rw [List.filterMap_append, List.foldl_append, front]
      simp only [List.filterMap_cons, last, List.filterMap_nil, List.foldl_cons, List.foldl_nil]
      omega

private theorem takeWhile_toDigits {tail : List Char} (ends : ∀ c ∈ tail.head?, (Text.hexDigit? c).isSome = false) :
    (Nat.toDigits 16 value ++ tail).takeWhile (fun c => (Text.hexDigit? c).isSome) = Nat.toDigits 16 value := by
  rw [List.takeWhile_append_of_pos (hexDigit?_toDigits value)]
  cases tail with
  | nil => simp
  | cons c tail => rw [List.takeWhile_cons_of_neg (by simpa using ends c rfl), List.append_nil]

private theorem read_hexadecimal {tail : List Char} (ends : ∀ c ∈ tail.head?, (Text.hexDigit? c).isSome = false) :
    Lexeme.read (hexadecimal value ++ tail) = integerEnd (hexadecimal value ++ tail) (hexadecimal value).length := by
  have filled := Nat.length_toDigits_pos (b := 16) (n := value)
  have hex : hexLength (hexadecimal value ++ tail) = (hexadecimal value).length := by
    simp only [hexadecimal, List.cons_append, hexLength, takeWhile_toDigits ends, List.length_cons]
    rw [if_pos ⟨.inl trivial, by omega⟩]
    omega
  have marked : hexLength (hexadecimal value ++ tail) ≠ 0 := by
    rw [hex]
    exact Nat.succ_ne_zero _
  have decided : Lexeme.read (hexadecimal value ++ tail) = number (hexadecimal value ++ tail) :=
    read_unquoted (c := '0') rfl (.inr ⟨rfl, rfl⟩)
  rw [decided, number, if_pos marked, hex]

private theorem read_int : Lexeme.read (hexadecimal value) = .token .int (hexadecimal value).length := by
  have signed : Lexeme.read (hexadecimal value ++ []) = _ := read_hexadecimal (by simp)
  rw [List.append_nil] at signed
  rw [signed, integerEnd, List.drop_length]

private theorem read_uint :
    Lexeme.read (hexadecimal value ++ ['u']) = .token .uint ((hexadecimal value) ++ ['u']).length := by
  have ends : ∀ c ∈ ['u'].head?, (Text.hexDigit? c).isSome = false := by
    rintro _ ⟨⟩
    rfl
  rw [read_hexadecimal ends, integerEnd, List.drop_left, List.length_append]
  rfl

private theorem integer?_hexadecimal : Literal.integer? (hexadecimal value) = some value := by
  have read : Literal.integer? (hexadecimal value) = Literal.readHexadecimal? (Nat.toDigits 16 value) := rfl
  rw [read, readHexadecimal?_eq Nat.toDigits_ne_nil (hexDigit?_toDigits value), ofDigits_toDigits]

end Hexadecimal

section Quoting

/-- A quote and a backslash stand behind a backslash. -/
def escape (c : Char) : List Char :=
  if c = '\\' ∨ c = '"' then ['\\', c] else [c]

def escaped (text : String) : List Char :=
  text.toList.flatMap escape

def quoted (text : String) : List Char :=
  '"' :: (escaped text ++ ['"'])

private theorem closingEnd?_escaped (passed : Nat) (text : List Char) :
    closingEnd? ['"'] false passed (text.flatMap escape ++ ['"']) = some (passed + (text.flatMap escape).length + 1) := by
  induction text generalizing passed with
  | nil => rfl
  | cons c text ih =>
    rw [List.flatMap_cons, List.append_assoc, List.length_append, escape]
    split
    next special =>
      have further := ih (passed + 2)
      rw [List.cons_append, closingEnd?_cons]
      simp only [List.isPrefixOf, stride]
      simpa [Nat.add_assoc, Nat.add_comm, Nat.add_left_comm] using further
    next plain =>
      obtain ⟨notSlash, notQuote⟩ := not_or.mp plain
      have further := ih (passed + 1)
      rw [List.cons_append, closingEnd?_cons]
      simpa [stride, notSlash, Ne.symm notQuote, Nat.add_assoc, Nat.add_comm, Nat.add_left_comm] using further

private theorem decodeFrom_escaped (text : List Char) : Escape.decodeFrom 0 (text.flatMap escape) = text := by
  induction text with
  | nil => rfl
  | cons c text ih =>
    rw [List.flatMap_cons, escape]
    split
    next special =>
      rcases special with rfl | rfl
      · simp [Escape.decodeFrom, Escape.read?, Escape.simple?, ih]
      · simp [Escape.decodeFrom, Escape.read?, Escape.simple?, ih]
    next plain =>
      rw [List.singleton_append, Escape.decodeFrom, ih]
      exact fun slash => plain (.inl slash)

private theorem decode_escaped (text : String) : Escape.decode (String.ofList (escaped text)) = text := by
  rw [Escape.decode, String.toList_ofList, escaped, decodeFrom_escaped, String.ofList_toList]

/-- The text between the quotes starts with no quote, so they do not open the long form. -/
theorem escaped_cases (text : String) : escaped text = [] ∨ ∃ c rest, escaped text = c :: rest ∧ c ≠ '"' := by
  unfold escaped
  cases text.toList with
  | nil => exact .inl rfl
  | cons c others =>
    rw [List.flatMap_cons, escape]
    split
    next => exact .inr ⟨_, _, rfl, by decide⟩
    next plain => exact .inr ⟨_, _, rfl, (not_or.mp plain).2⟩

private theorem content_quoted (text : String) : Literal.content (quoted text) = escaped text := by
  rw [quoted]
  rcases escaped_cases text with none | ⟨c, rest, some, other⟩
  · rw [none]
    rfl
  · rw [some, List.cons_append, Literal.content]
    · rw [← List.cons_append, List.dropLast_concat]
    · simp [other]
    · simp

private theorem delimited_escaped (kind : TokenKind) (form : Delimited) (opening : List Char) (text : String) :
    delimited kind form ['"'] false opening.length (opening ++ (escaped text ++ ['"'])) =
      .token kind (opening ++ (escaped text ++ ['"'])).length := by
  rw [delimited, List.drop_left, escaped, closingEnd?_escaped]
  simp [Nat.add_assoc]

private theorem read_quoted (text : String) : Lexeme.read (quoted text) = .token .string (quoted text).length := by
  have short : ¬ ['"', '"', '"'].isPrefixOf (quoted text) = true := by
    rw [quoted]
    rcases escaped_cases text with none | ⟨c, rest, some, other⟩
    · rw [none]
      decide
    · simp [some, List.isPrefixOf, Ne.symm other]
  rw [quoted] at short ⊢
  rw [read_quote _ rfl, stringLiteral, List.drop_zero, if_neg short]
  exact delimited_escaped .string .string ['"'] text

private theorem read_bytesQuoted (text : String) :
    Lexeme.read ('b' :: quoted text) = .token .bytes ('b' :: quoted text).length := by
  rw [quoted, read_bytes _ rfl rfl]
  exact delimited_escaped .bytes .bytes ['b', '"'] text

private theorem string_quoted (text : String) : Literal.string (quoted text) = text := by
  have first : Literal.string (quoted text) = Escape.decode (String.ofList (Literal.content (quoted text))) := by
    rw [quoted, Literal.string] <;> simp
  rw [first, content_quoted, decode_escaped]

private theorem bytes_quoted (text : String) : Literal.bytes ('b' :: quoted text) = text := by
  rw [Literal.bytes, quoted, List.drop_succ_cons, List.drop_succ_cons, List.drop_zero, List.dropLast_concat, decode_escaped]

end Quoting

section Words

/-- A token without its place. -/
structure Word where
  kind : TokenKind
  text : String

def inscription (token : Token) : Word :=
  ⟨token.kind, token.text⟩

def Word.IsLexeme (word : Word) : Prop :=
  Lexeme.read word.text.toList = .token word.kind word.text.toList.length

theorem lexemes_of_genuine {tokens : List Token} (genuine : ∀ token ∈ tokens, Genuine token) :
    ∀ word ∈ tokens.map inscription, word.IsLexeme := by
  intro word member
  obtain ⟨token, given, rfl⟩ := List.mem_map.mp member
  exact genuine token given

/-- The text of the kinds that are written in one way only. -/
def signText : TokenKind → String
  | .null => "null"
  | .truth => "true"
  | .falsity => "false"
  | .member => "in"
  | .plus => "+"
  | .minus => "-"
  | .star => "*"
  | .slash => "/"
  | .percent => "%"
  | .eq => "=="
  | .ne => "!="
  | .lt => "<"
  | .le => "<="
  | .gt => ">"
  | .ge => ">="
  | .and => "&&"
  | .or => "||"
  | .bang => "!"
  | .leftParen => "("
  | .rightParen => ")"
  | .leftBracket => "["
  | .rightBracket => "]"
  | .leftBrace => "\x7b"
  | .rightBrace => "\x7d"
  | .dot => "."
  | .comma => ","
  | .colon => ":"
  | .question => "?"
  | .int | .uint | .double | .string | .bytes | .identifier | .endOfInput => ""

def sign (kind : TokenKind) : Word :=
  ⟨kind, signText kind⟩

def name (text : String) : Word :=
  ⟨.identifier, text⟩

/-- A double is written as it is spelled. -/
def literal (spell : Value → String) : LiteralKind → Value → Word
  | .null, _ => sign .null
  | .bool, .bool true => sign .truth
  | .bool, _ => sign .falsity
  | .int, .int value => ⟨.int, String.ofList (hexadecimal value.toNat)⟩
  | .uint, .int value => ⟨.uint, String.ofList (hexadecimal value.toNat ++ ['u'])⟩
  | .string, .string text => ⟨.string, String.ofList (quoted text)⟩
  | .bytes, .bytes text => ⟨.bytes, String.ofList ('b' :: quoted text)⟩
  | _, value => ⟨.double, spell value⟩

theorem sign_isLexeme {kind : TokenKind} (written : signText kind ≠ "") : (sign kind).IsLexeme := by
  cases kind
  all_goals first | rfl | exact absurd rfl written

private theorem nameStart_not_digit {c : Char} (starts : isNameStart c) : c.isDigit = false := by
  rw [Bool.eq_false_iff]
  intro digit
  obtain ⟨low, high⟩ := Char.isDigit_iff_toNat.mp digit
  have digits : ∀ code < 58, 48 ≤ code → isNameStart (Char.ofNat code) = false := by decide
  rw [← Char.ofNat_toNat c, digits c.toNat (Nat.lt_succ_of_le high) low] at starts
  cases starts

private theorem namePart_not_quote {c : Char} (part : isNamePart c) : isQuote c = false := by
  rw [Bool.eq_false_iff]
  intro quote
  rcases (by simpa [isQuote] using quote) with rfl | rfl
  · cases part
  · cases part

private theorem wordKind_of_free {text : String} (free : text ≠ "null" ∧ text ≠ "true" ∧ text ≠ "false" ∧ text ≠ "in") :
    wordKind text.toList = .identifier := by
  unfold wordKind
  rw [String.ofList_toList]
  split
  all_goals first | rfl | simp at free

theorem name_isLexeme {text : String} (named : IsName text) : (name text).IsLexeme := by
  obtain ⟨first, rest, shape, starts, parts⟩ := named.pattern
  have unmarked : rest.head?.filter isQuote = none := by
    cases rest with
    | nil => rfl
    | cons c others => simp [Option.filter_some, namePart_not_quote (parts c List.mem_cons_self)]
  have whole : text.toList.takeWhile isNamePart = text.toList := by
    have run : (text.toList ++ []).takeWhile isNamePart = _ := List.takeWhile_append_of_pos named.parts
    simpa using run
  have decided : Lexeme.read text.toList = word text.toList := by
    rw [shape, read_unquoted (namePart_not_quote (namePart_of_start starts)) (.inl unmarked), unquoted,
      nameStart_not_digit starts, if_neg Bool.false_ne_true, if_pos starts]
  rw [Word.IsLexeme, name, decided, word]
  simp only [whole, wordKind_of_free named.free]

/-- What the lexemes of a token kind denote. -/
inductive Form : TokenKind → LiteralKind → Value → Prop where
  | null : Form .null .null .null
  | truth : Form .truth .bool (.bool true)
  | falsity : Form .falsity .bool (.bool false)
  | int (value : Nat) : Form .int .int (.int value)
  | uint (value : Nat) : Form .uint .uint (.int value)
  | double (value : Double) : Form .double .double (.double value)
  | string (text : String) : Form .string .string (.string text)
  | bytes (text : String) : Form .bytes .bytes (.bytes text)

theorem form_of_token {token : Token} {kind : LiteralKind} {value : Value}
    (denotes : Literal.ofToken? token = some (some (.literal kind value))) : Form token.kind kind value := by
  unfold Literal.ofToken? at denotes
  dsimp only at denotes
  split at denotes
  all_goals simp only [Option.some.injEq, Option.map_eq_some_iff, Option.bind_eq_bind, Option.bind_eq_some_iff,
    Option.pure_def, reduceCtorEq, Expr.literal.injEq] at denotes
  next found => obtain ⟨rfl, rfl⟩ := denotes; rw [found]; exact .null
  next found => obtain ⟨rfl, rfl⟩ := denotes; rw [found]; exact .truth
  next found => obtain ⟨rfl, rfl⟩ := denotes; rw [found]; exact .falsity
  next found => obtain ⟨_, ⟨number, _, rfl⟩, rfl, rfl⟩ := denotes; rw [found]; exact .int number
  next found => obtain ⟨_, ⟨number, _, rfl⟩, rfl, rfl⟩ := denotes; rw [found]; exact .uint number
  next found => obtain ⟨number, _, rfl, rfl⟩ := denotes; rw [found]; exact .double number
  next found => obtain ⟨rfl, rfl⟩ := denotes; rw [found]; exact .string _
  next found => obtain ⟨rfl, rfl⟩ := denotes; rw [found]; exact .bytes _

/-- A literal that has a lexeme, which is the spelling of it if it is a double. -/
def Spelled (spell : Value → String) (kind : LiteralKind) (value : Value) : Prop :=
  HasLexeme kind value ∧ (kind = .double → Denotes (spell value) kind value)

/-- The word for a literal is a lexeme that denotes it. -/
theorem literal_spelled {spell : Value → String} {kind : LiteralKind} {value : Value} (spelled : Spelled spell kind value) :
    (literal spell kind value).IsLexeme ∧ ∀ token, inscription token = literal spell kind value →
      Literal.ofToken? token = some (some (.literal kind value)) := by
  have said (word : Word) (same : literal spell kind value = word) (lexeme : word.IsLexeme)
      (denotes : ∀ place, Literal.ofToken? ⟨word.kind, word.text, place⟩ = some (some (.literal kind value))) :
      (literal spell kind value).IsLexeme ∧ ∀ token, inscription token = literal spell kind value →
        Literal.ofToken? token = some (some (.literal kind value)) := by
    rw [same]
    refine ⟨lexeme, fun token written => ?_⟩
    rw [← written] at denotes
    exact denotes token.location
  obtain ⟨⟨_, token, _, _, known⟩, double⟩ := spelled
  have form := form_of_token known
  generalize token.kind = made at form
  cases form with
  | null => exact said (sign .null) rfl (by rfl) fun _ => rfl
  | truth => exact said (sign .truth) rfl (by rfl) fun _ => rfl
  | falsity => exact said (sign .falsity) rfl (by rfl) fun _ => rfl
  | int value =>
    refine said ⟨.int, String.ofList (hexadecimal value)⟩ rfl ?_ fun place => ?_
    · rw [Word.IsLexeme, String.toList_ofList, read_int]
    · simp only [Literal.ofToken?, String.toList_ofList, integer?_hexadecimal]
      rfl
  | uint value =>
    refine said ⟨.uint, String.ofList (hexadecimal value ++ ['u'])⟩ rfl ?_ fun place => ?_
    · rw [Word.IsLexeme, String.toList_ofList, read_uint]
    · simp only [Literal.ofToken?, String.toList_ofList, List.dropLast_concat, integer?_hexadecimal]
      rfl
  | double value =>
    obtain ⟨token, genuine, text, denotes⟩ := double rfl
    have form := form_of_token denotes
    generalize kind : token.kind = made at form
    cases form
    refine said ⟨.double, spell (.double value)⟩ rfl ?_ fun place => ?_
    · rw [Genuine, kind, text] at genuine
      exact genuine
    · simpa only [Literal.ofToken?, kind, text] using denotes
  | string text =>
    refine said ⟨.string, String.ofList (quoted text)⟩ rfl ?_ fun place => ?_
    · rw [Word.IsLexeme, String.toList_ofList, read_quoted]
    · simp only [Literal.ofToken?, String.toList_ofList, string_quoted]
  | bytes text =>
    refine said ⟨.bytes, String.ofList ('b' :: quoted text)⟩ rfl ?_ fun place => ?_
    · rw [Word.IsLexeme, String.toList_ofList, read_bytesQuoted]
    · simp only [Literal.ofToken?, String.toList_ofList, bytes_quoted]

end Words

end CommonExpr.Proofs.Spelling

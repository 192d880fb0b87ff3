import CommonExpr.Proofs.ParserImage
import Mathlib.Data.List.Forall2
import Mathlib.Data.Nat.Digits.Defs

/-! What is written between quotes is what the literal denotes, whichever way each
character is spelled: the lexer finds the closing quotes behind the last spelling, the
parser strips both, and every escape stands for its character. Raw literals denote
their text as it is. -/

namespace CommonExpr.Proofs.EscapedLiterals
open Lexeme LexemeExtent CutTexts TokenSequence Grammar TokenReader Tokenization Recognition ParserImage

section Spellings

/-- The letters of the escapes that have one, each with its character. -/
def simpleEscapes : List (Char × Char) :=
  [('\\', '\\'), ('"', '"'), ('\'', '\''), ('\x60', '\x60'), ('?', '?'), ('a', '\x07'), ('b', '\x08'),
   ('t', '\x09'), ('n', '\x0a'), ('v', '\x0b'), ('f', '\x0c'), ('r', '\x0d')]

/-- The marks of the hexadecimal escapes, each with its number of digits. -/
def hexadecimalMarks : List (Char × Nat) :=
  [('x', 2), ('u', 4), ('U', 8)]

def IsHexDigit (digit : Char) (value : Nat) : Prop :=
  value < 16 ∧ (digit = value.digitChar ∨ digit = value.digitChar.toUpper)

/-- What can stand behind the backslash of an escape for a character. -/
inductive Escapes : Char → List Char → Prop where
  | simple {c letter : Char} (listed : (letter, c) ∈ simpleEscapes) : Escapes c [letter]
  | hexadecimal {c mark : Char} {digits : List Char} {values : List Nat}
      (marks : (mark, digits.length) ∈ hexadecimalMarks) (digitwise : List.Forall₂ IsHexDigit digits values)
      (code : Nat.ofDigits 16 values.reverse = c.toNat) : Escapes c (mark :: digits)
  | octal {c : Char} {first second third : Nat} (small : first < 4 ∧ second < 8 ∧ third < 8)
      (code : 64 * first + 8 * second + third = c.toNat) :
      Escapes c [first.digitChar, second.digitChar, third.digitChar]

/-- The spellings of a character between quotes. -/
inductive Spells (quote : Char) : Char → List Char → Prop where
  | plain {c : Char} (visible : c ≠ '\\') (inside : c ≠ quote) : Spells quote c [c]
  | escape {c : Char} {behind : List Char} (escapes : Escapes c behind) : Spells quote c ('\\' :: behind)

/-- A text with a spelling chosen for each of its characters. -/
inductive Encodes (quote : Char) : List Char → List Char → Prop where
  | nil : Encodes quote [] []
  | cons {c : Char} {spelling text body : List Char} (spells : Spells quote c spelling)
      (rest : Encodes quote text body) : Encodes quote (c :: text) (spelling ++ body)

end Spellings

section Decoding
variable {quote c : Char} {behind text body : List Char}

private theorem hexDigit?_of_digit {digit : Char} {value : Nat} (reads : IsHexDigit digit value) :
    Text.hexDigit? digit = some value := by
  have table : ∀ value < 16, Text.hexDigit? value.digitChar = some value ∧
      Text.hexDigit? value.digitChar.toUpper = some value := by decide
  obtain ⟨small, rfl | rfl⟩ := reads
  · exact (table value small).1
  · exact (table value small).2

theorem mapM_hexDigit? {digits : List Char} {values : List Nat} (digitwise : List.Forall₂ IsHexDigit digits values) :
    digits.mapM Text.hexDigit? = some values := by
  induction digitwise with
  | nil => rfl
  | cons reads _ ih =>
    rw [List.mapM_cons, hexDigit?_of_digit reads, ih]
    rfl

theorem hexDigit?_isSome {digits : List Char} {values : List Nat} (digitwise : List.Forall₂ IsHexDigit digits values) :
    ∀ digit ∈ digits, (Text.hexDigit? digit).isSome := by
  induction digitwise with
  | nil => nofun
  | cons reads _ ih => exact List.forall_mem_cons.mpr ⟨Option.isSome_of_eq_some (hexDigit?_of_digit reads), ih⟩

theorem ofDigits_eq (base : Nat) (values : List Nat) : Text.ofDigits base values = Nat.ofDigits base values.reverse := by
  have scaled (start : Nat) : values.foldl (fun value digit => base * value + digit) start =
      Nat.ofDigits base values.reverse + base ^ values.length * start := by
    induction values generalizing start with
    | nil => simp
    | cons value others ih =>
      rw [List.foldl_cons, ih, List.reverse_cons, Nat.ofDigits_append, List.length_reverse, Nat.ofDigits_singleton,
        List.length_cons, pow_succ]
      ring
  rw [Text.ofDigits, scaled, Nat.mul_zero, Nat.add_zero]

private theorem hexadecimal?_spelled {digits : List Char} {values : List Nat}
    (digitwise : List.Forall₂ IsHexDigit digits values)
    (code : Nat.ofDigits 16 values.reverse = c.toNat) (rest : List Char) :
    Escape.hexadecimal? digits.length (digits ++ rest) = some c := by
  have whole : values.length = digits.length := digitwise.length_eq.symm
  have valid : c.toNat.isValidChar := c.valid
  rw [Escape.hexadecimal?, List.take_left, mapM_hexDigit? digitwise]
  simp only [Option.bind_eq_bind, Option.bind_some, if_pos whole, ofDigits_eq, code, Escape.character?, if_pos valid,
    Char.ofNat_toNat]

private theorem simple?_of_listed {letter : Char} (listed : (letter, c) ∈ simpleEscapes) :
    Escape.simple? letter = some c := by
  have table : ∀ entry ∈ simpleEscapes, Escape.simple? entry.1 = some entry.2 := by decide
  exact table (letter, c) listed

/-- The letter of a simple escape is none of the marks, so the whole escape is that letter. -/
theorem read?_simple {letter : Char} (listed : (letter, c) ∈ simpleEscapes) (rest : List Char) :
    Escape.read? (letter :: rest) = some (c, 1) := by
  have unmarked : ∀ entry ∈ simpleEscapes, entry.1 ≠ 'x' ∧ entry.1 ≠ 'u' ∧ entry.1 ≠ 'U' := by decide
  obtain ⟨notX, notU, notLong⟩ := unmarked _ listed
  rw [Escape.read?.eq_5 letter rest notX notU notLong, simple?_of_listed listed]

private theorem octalDigit?_digitChar {value : Nat} (small : value < 8) :
    Escape.octalDigit? value.digitChar = some value := by
  revert value
  decide

private theorem read?_octal {first second third : Nat} (small : first < 4 ∧ second < 8 ∧ third < 8)
    (code : 64 * first + 8 * second + third = c.toNat) (rest : List Char) :
    Escape.read? (first.digitChar :: second.digitChar :: third.digitChar :: rest) = some (c, 3) := by
  obtain ⟨lead, second_lt, third_lt⟩ := small
  have leading : ∀ value < 4, value.digitChar ≠ 'x' ∧ value.digitChar ≠ 'u' ∧ value.digitChar ≠ 'U' ∧
      Escape.simple? value.digitChar = none ∧ ¬ '3' < value.digitChar := by decide
  obtain ⟨notX, notU, notLong, noLetter, low⟩ := leading first lead
  have value : Text.ofDigits 8 [first, second, third] = c.toNat := by
    rw [← code]
    simp only [Text.ofDigits, List.foldl_cons, List.foldl_nil]
    omega
  rw [Escape.read?.eq_5 _ _ notX notU notLong, noLetter]
  simp only [List.take_succ_cons, List.take_zero, List.mapM_cons, List.mapM_nil,
    octalDigit?_digitChar (show first < 8 by omega), octalDigit?_digitChar second_lt, octalDigit?_digitChar third_lt,
    if_neg low, Option.bind_eq_bind, Option.bind_some, Option.pure_def, value, Char.ofNat_toNat]

private theorem read?_escape (escapes : Escapes c behind) (rest : List Char) :
    Escape.read? (behind ++ rest) = some (c, behind.length) := by
  cases escapes with
  | simple listed => exact read?_simple listed rest
  | octal small code => exact read?_octal small code rest
  | @hexadecimal mark digits values marks digitwise code =>
    have found := hexadecimal?_spelled digitwise code rest
    simp only [hexadecimalMarks, List.mem_cons, Prod.mk.injEq, List.not_mem_nil, or_false] at marks
    rcases marks with ⟨rfl, sized⟩ | ⟨rfl, sized⟩ | ⟨rfl, sized⟩
    all_goals
      rw [sized] at found
      rw [List.cons_append, Escape.read?, found, List.length_cons, sized]
      rfl

private theorem decodeFrom_skip (behind rest : List Char) :
    Escape.decodeFrom behind.length (behind ++ rest) = Escape.decodeFrom 0 rest := by
  induction behind with
  | nil => rfl
  | cons c others ih => rw [List.length_cons, List.cons_append, Escape.decodeFrom, ih]

private theorem decodeFrom_encoded (encodes : Encodes quote text body) : Escape.decodeFrom 0 body = text := by
  induction encodes with
  | nil => rfl
  | cons spells _ ih =>
    cases spells with
    | plain visible _ => rw [List.singleton_append, Escape.decodeFrom.eq_4 _ _ visible, ih]
    | escape escapes =>
      rw [List.cons_append, Escape.decodeFrom, read?_escape escapes]
      simp only [decodeFrom_skip, ih]

theorem decode_encoded {text : String} (encodes : Encodes quote text.toList body) :
    Escape.decode (String.ofList body) = text := by
  rw [Escape.decode, String.toList_ofList, decodeFrom_encoded encodes, String.ofList_toList]

end Decoding

section Scanning
variable {quote : Char} {more : List Char} {raw : Bool}

/-- A run without the quote, and without a backslash that would take a character with it, is passed. -/
theorem closingEnd?_run {run : List Char} (inside : ∀ c ∈ run, c ≠ quote) (visible : raw = true ∨ '\\' ∉ run)
    (passed : Nat) (rest : List Char) :
    closingEnd? (quote :: more) raw passed (run ++ rest) = closingEnd? (quote :: more) raw (passed + run.length) rest := by
  induction run generalizing passed with
  | nil => rfl
  | cons c others ih =>
    obtain ⟨other, insideRest⟩ := List.forall_mem_cons.mp inside
    have visibleRest : raw = true ∨ '\\' ∉ others := visible.imp_right List.not_mem_of_not_mem_cons
    have single : stride raw c = 1 := by
      rcases visible with rfl | free
      · rfl
      · simp [stride, Ne.symm (List.ne_of_not_mem_cons free)]
    have further : (quote :: more).isPrefixOf (c :: (others ++ rest)) = false := by
      simp [List.isPrefixOf, Ne.symm other]
    rw [List.cons_append, closingEnd?_cons, further, if_neg Bool.false_ne_true, single, List.drop_succ_cons, List.drop_zero,
      ih insideRest visibleRest, List.length_cons]
    congr 1
    omega

private theorem closingEnd?_backslash (visible : quote ≠ '\\') (c : Char) (passed : Nat) (rest : List Char) :
    closingEnd? (quote :: more) false passed ('\\' :: c :: rest) = closingEnd? (quote :: more) false (passed + 2) rest := by
  rw [closingEnd?_cons]
  simp [List.isPrefixOf, visible, stride]

private theorem closingEnd?_closes (passed : Nat) :
    closingEnd? (quote :: more) raw passed (quote :: more) = some (passed + (quote :: more).length) := by
  rw [closingEnd?_cons, if_pos (List.isPrefixOf_iff_prefix.mpr List.prefix_rfl)]

end Scanning

section Bodies
variable {quote : Char} {text body : List Char}

/-- What can stand between delimiters made of a quote. -/
structure Body (raw : Bool) (quote : Char) (body : List Char) : Prop where
  opens : body.head? ≠ some quote
  closes : ∀ more passed, closingEnd? (quote :: more) raw passed (body ++ quote :: more) =
    some (passed + (body ++ quote :: more).length)

private theorem quote_visible (quotes : isQuote quote) : quote ≠ '\\' := by
  rintro rfl
  cases quotes

theorem Body.raw (inside : quote ∉ text) : Body true quote text where
  opens head := inside (List.mem_of_mem_head? head)
  closes more passed := by
    have apart : ∀ c ∈ text, c ≠ quote := fun c member same => inside (same ▸ member)
    rw [closingEnd?_run apart (.inl rfl), closingEnd?_closes, List.length_append, Nat.add_assoc]

private theorem hexDigit_inside {digits : List Char} (quotes : isQuote quote)
    (digital : ∀ digit ∈ digits, (Text.hexDigit? digit).isSome) : (∀ digit ∈ digits, digit ≠ quote) ∧ '\\' ∉ digits := by
  constructor
  · rintro digit member rfl
    have reads := digital digit member
    rcases (by simpa [isQuote] using quotes) with rfl | rfl
    · cases reads
    · cases reads
  · intro member
    cases digital _ member

/-- Only the first character behind the backslash of an escape can be a quote or a backslash. -/
theorem escape_shape {c : Char} {behind : List Char} (quotes : isQuote quote) (escapes : Escapes c behind) :
    ∃ first digits, behind = first :: digits ∧ (∀ digit ∈ digits, digit ≠ quote) ∧ '\\' ∉ digits := by
  cases escapes with
  | simple => exact ⟨_, [], rfl, nofun, nofun⟩
  | hexadecimal _ digitwise _ => exact ⟨_, _, rfl, hexDigit_inside quotes (hexDigit?_isSome digitwise)⟩
  | octal small _ =>
    have reads {value : Nat} (octal : value < 8) : (Text.hexDigit? value.digitChar).isSome :=
      Option.isSome_of_eq_some (hexDigit?_of_digit ⟨by omega, .inl rfl⟩)
    refine ⟨_, _, rfl, hexDigit_inside quotes ?_⟩
    exact List.forall_mem_cons.mpr ⟨reads small.2.1, List.forall_mem_singleton.mpr (reads small.2.2)⟩

private theorem closingEnd?_spelled {c : Char} {spelling more : List Char} (quotes : isQuote quote)
    (spells : Spells quote c spelling) (passed : Nat) (rest : List Char) :
    closingEnd? (quote :: more) false passed (spelling ++ rest) =
      closingEnd? (quote :: more) false (passed + spelling.length) rest := by
  cases spells with
  | plain visible inside =>
    exact closingEnd?_run (List.forall_mem_singleton.mpr inside) (.inr (by simpa using Ne.symm visible)) passed rest
  | escape escapes =>
    obtain ⟨first, digits, rfl, inside, visible⟩ := escape_shape quotes escapes
    rw [List.cons_append, List.cons_append, closingEnd?_backslash (quote_visible quotes),
      closingEnd?_run inside (.inr visible), List.length_cons, List.length_cons]
    congr 1
    omega

theorem Body.encoded (quotes : isQuote quote) (encodes : Encodes quote text body) : Body false quote body where
  opens := by
    cases encodes with
    | nil => nofun
    | cons spells _ =>
      cases spells with
      | plain _ inside => simpa using inside
      | escape _ => simpa using Ne.symm (quote_visible quotes)
  closes more passed := by
    induction encodes generalizing passed with
    | nil => exact closingEnd?_closes passed
    | cons spells _ ih =>
      rw [List.append_assoc, closingEnd?_spelled quotes spells, ih]
      simp only [List.length_append, Nat.add_assoc]

end Bodies

section Forms
variable {quote : Char} {body : List Char} {raw : Bool}

/-- One quote or three of them on either side. -/
inductive Quoting where
  | single
  | triple

def Quoting.delimiter (quote : Char) : Quoting → List Char
  | .single => [quote]
  | .triple => [quote, quote, quote]

def enclosed (quoting : Quoting) (quote : Char) (body : List Char) : List Char :=
  quoting.delimiter quote ++ (body ++ quoting.delimiter quote)

/-- A quote and such a body do not open the triple form. -/
theorem Body.opens_single (shaped : Body raw quote body) :
    [quote, quote, quote].isPrefixOf (enclosed .single quote body) = false := by
  have other := shaped.opens
  cases body with
  | nil => simp [enclosed, Quoting.delimiter, List.isPrefixOf]
  | cons c others =>
    have apart : quote ≠ c := fun same => other (congrArg some same.symm)
    simp [enclosed, Quoting.delimiter, List.isPrefixOf, apart]

theorem Body.delimited_whole (shaped : Body raw quote body) (kind : TokenKind) (form : Delimited)
    (opening more : List Char) : delimited kind form (quote :: more) raw opening.length
      (opening ++ (body ++ quote :: more)) = .token kind (opening ++ (body ++ quote :: more)).length := by
  rw [delimited, List.drop_left, shaped.closes, ← List.length_append]

theorem Body.stringLiteral_whole (shaped : Body raw quote body) (mark : List Char) (quoting : Quoting) :
    stringLiteral raw mark.length quote (mark ++ enclosed quoting quote body) =
      .token .string (mark ++ enclosed quoting quote body).length := by
  rw [stringLiteral, List.drop_left]
  cases quoting with
  | single =>
    have ends := shaped.delimited_whole .string .string (mark ++ [quote]) []
    rw [List.length_append, List.append_assoc] at ends
    rw [shaped.opens_single, if_neg Bool.false_ne_true]
    exact ends
  | triple =>
    have ends := shaped.delimited_whole .string .tripleString (mark ++ [quote, quote, quote]) [quote, quote]
    rw [List.length_append, List.append_assoc] at ends
    have opens : [quote, quote, quote].isPrefixOf (enclosed .triple quote body) = true :=
      List.isPrefixOf_iff_prefix.mpr (List.prefix_append _ _)
    rw [if_pos opens]
    exact ends

theorem Body.read_string (shaped : Body false quote body) (quotes : isQuote quote) (quoting : Quoting) :
    Lexeme.read (enclosed quoting quote body) = .token .string (enclosed quoting quote body).length := by
  have whole := shaped.stringLiteral_whole [] quoting
  cases quoting with
  | single => exact (read_quote _ quotes).trans whole
  | triple => exact (read_quote _ quotes).trans whole

theorem Body.read_raw {mark : Char} (shaped : Body true quote body) (marks : isRawMark mark) (quotes : isQuote quote)
    (quoting : Quoting) :
    Lexeme.read (mark :: enclosed quoting quote body) = .token .string (mark :: enclosed quoting quote body).length := by
  have whole := shaped.stringLiteral_whole [mark] quoting
  cases quoting with
  | single => exact (LexemeExtent.read_raw _ marks quotes).trans whole
  | triple => exact (LexemeExtent.read_raw _ marks quotes).trans whole

theorem Body.read_bytes {mark : Char} (shaped : Body false quote body) (marks : isBytesMark mark)
    (quotes : isQuote quote) :
    Lexeme.read (mark :: enclosed .single quote body) = .token .bytes (mark :: enclosed .single quote body).length :=
  (LexemeExtent.read_bytes _ marks quotes).trans (shaped.delimited_whole .bytes .bytes [mark, quote] [])

private theorem content_single (apart : body.head? ≠ some quote) :
    Literal.content (enclosed .single quote body) = body := by
  have noTriple {second : Char} {others : List Char} : body ++ [quote] ≠ quote :: second :: others := by
    cases body with
    | nil => nofun
    | cons c rest =>
      intro same
      exact apart (congrArg some (List.cons.inj same).1)
  rw [enclosed, Quoting.delimiter, List.singleton_append]
  unfold Literal.content
  split
  next same =>
    obtain ⟨rfl, rest⟩ := List.cons.inj same
    exact absurd rest noTriple
  next same =>
    obtain ⟨rfl, rest⟩ := List.cons.inj same
    exact absurd rest noTriple
  next same =>
    cases same
    exact List.dropLast_concat
  next same => cases same

private theorem content_triple (quotes : isQuote quote) : Literal.content (enclosed .triple quote body) = body := by
  obtain ⟨first, second, third, rest, shape⟩ : ∃ first second third rest,
      body ++ [quote, quote, quote] = first :: second :: third :: rest := by
    match body with
    | [] => exact ⟨_, _, _, _, rfl⟩
    | [_] => exact ⟨_, _, _, _, rfl⟩
    | [_, _] => exact ⟨_, _, _, _, rfl⟩
    | _ :: _ :: _ :: _ => exact ⟨_, _, _, _, rfl⟩
  have inner : Literal.content (enclosed .triple quote body) =
      (body ++ [quote, quote, quote]).take ((body ++ [quote, quote, quote]).length - 3) := by
    rw [enclosed, Quoting.delimiter, shape]
    rcases (by simpa [isQuote] using quotes) with rfl | rfl
    · rfl
    · rfl
  have sized : (body ++ [quote, quote, quote]).length - 3 = body.length := by simp
  rw [inner, sized, List.take_left]

theorem Body.content_enclosed (shaped : Body raw quote body) (quotes : isQuote quote) (quoting : Quoting) :
    Literal.content (enclosed quoting quote body) = body := by
  cases quoting with
  | single => exact content_single shaped.opens
  | triple => exact content_triple quotes

theorem string_enclosed (shaped : Body false quote body) (quotes : isQuote quote) (quoting : Quoting) :
    Literal.string (enclosed quoting quote body) = Escape.decode (String.ofList body) := by
  have unmarked : Literal.string (enclosed quoting quote body) =
      Escape.decode (String.ofList (Literal.content (enclosed quoting quote body))) := by
    rcases (by simpa [isQuote] using quotes) with rfl | rfl
    · cases quoting <;> rfl
    · cases quoting <;> rfl
  rw [unmarked, shaped.content_enclosed quotes]

private theorem string_raw {mark : Char} (shaped : Body true quote body) (marks : isRawMark mark)
    (quotes : isQuote quote)
    (quoting : Quoting) : Literal.string (mark :: enclosed quoting quote body) = String.ofList body := by
  have marked : Literal.string (mark :: enclosed quoting quote body) =
      String.ofList (Literal.content (enclosed quoting quote body)) := by
    rcases (by simpa [isRawMark] using marks) with rfl | rfl
    · rfl
    · rfl
  rw [marked, shaped.content_enclosed quotes]

private theorem bytes_enclosed (mark : Char) :
    Literal.bytes (mark :: enclosed .single quote body) = Escape.decode (String.ofList body) := by
  rw [Literal.bytes, enclosed, Quoting.delimiter, List.singleton_append, List.drop_succ_cons, List.drop_succ_cons,
    List.drop_zero, List.dropLast_concat]

end Forms

section Reading

/-- The source is one token, and the parser returns the tree for it under every limit that admits it. -/
def ReadsAs (source : List Char) (kind : TokenKind) (tree : Expr) : Prop :=
  (Lexer.ofSource (String.ofList source)).tokenize.1 =
      .ok [⟨kind, String.ofList source, .start⟩, endToken (Location.start.after source)] ∧
    ∀ limits : Limits, 0 < limits.maxDepth → (String.ofList source).length ≤ limits.maxSourceLength →
      Expr.parse (String.ofList source) limits = .ok tree

private theorem derives_literal {token : Token} {tree : Expr} (place : Location)
    (denotes : Literal.ofToken? token = some (some tree)) : Derives [token, endToken place] (.source tree) := by
  have operand : Derives [token] (.unary tree) := .bare (.start (.literal denotes))
  have chain : Derives [token] (.chain .disjunction tree) :=
    .operand .disjunction (.operand .conjunction (.operand .relation (.operand .sum (.operand .product operand))))
  exact .source (.plain chain) rfl

private theorem scan_whole {source : List Char} {kind : TokenKind}
    (found : Lexeme.read source = .token kind source.length) :
    Cursor.scan ⟨source, .start⟩ =
      (.ok ⟨kind, String.ofList source, .start⟩, ⟨[], Location.start.after source⟩) := by
  have skipped : Cursor.skipSpace ⟨source, .start⟩ = ⟨source, .start⟩ := skipSpace_of_trimmed (trimmed_of_read found)
  rw [Cursor.scan, skipped]
  simp only [found, Cursor.advance, List.take_length, List.drop_length]

theorem ofSource_whole {source : List Char} {kind : TokenKind} (found : Lexeme.read source = .token kind source.length) :
    TokenStream.ofSource (String.ofList source) =
      streamOf (Location.start.after source) [⟨kind, String.ofList source, .start⟩] := by
  have bounds := read_bounds found
  obtain ⟨steps, enough⟩ : ∃ steps, source.length = steps + 1 := Nat.exists_eq_add_one.mpr bounds.1
  have start : Cursor.ofSource (String.ofList source) = ⟨source, .start⟩ := by
    rw [Cursor.ofSource, String.toList_ofList]
  rw [TokenStream.ofSource, start]
  simp only [enough, TokenStream.scanFrom, scan_whole found, if_neg bounds.2.2]
  rfl

theorem readsAs_of_read {source : List Char} {kind : TokenKind} {tree : Expr}
    (found : Lexeme.read source = .token kind source.length)
    (denotes : Literal.ofToken? ⟨kind, String.ofList source, .start⟩ = some (some tree)) : ReadsAs source kind tree := by
  have stream := ofSource_whole found
  refine ⟨?_, fun limits deep short => ?_⟩
  · have drained := drain_eq_listing (Nat.lt_succ_self (Cursor.ofSource (String.ofList source)).rest.length)
    have listed := listing_streamOf (Location.start.after source) [⟨kind, String.ofList source, .start⟩]
    rw [← stream] at listed
    rw [Lexer.tokenize, Lexer.ofSource, List.length_nil, Nat.zero_add, drained]
    exact listed
  · rcases parse_of_stream stream short (derives_literal _ denotes) with parsed | ⟨exceeded, _⟩
    · exact parsed
    · rw [List.length_singleton] at exceeded
      omega

end Reading

/-- For both quotes, every text and every choice of spellings between them; a raw literal only
has to be free of the quote. -/
theorem literals_denote_what_they_spell {quote : Char} (quotes : isQuote quote) (text : String) :
    (∀ body, Encodes quote text.toList body →
      (∀ quoting, ReadsAs (enclosed quoting quote body) .string (.literal .string (.string text))) ∧
        ∀ mark ∈ ['b', 'B'], ReadsAs (mark :: enclosed .single quote body) .bytes (.literal .bytes (.bytes text))) ∧
      (quote ∉ text.toList → ∀ mark ∈ ['r', 'R'], ∀ quoting,
        ReadsAs (mark :: enclosed quoting quote text.toList) .string (.literal .string (.string text))) := by
  refine ⟨fun body encodes => ?_, fun inside mark marked quoting => ?_⟩
  · have shaped := Body.encoded quotes encodes
    refine ⟨fun quoting => ?_, fun mark marked => ?_⟩
    · apply readsAs_of_read (shaped.read_string quotes quoting)
      simp only [Literal.ofToken?, String.toList_ofList, string_enclosed shaped quotes, decode_encoded encodes]
    · have marks : isBytesMark mark := by simpa [isBytesMark] using marked
      apply readsAs_of_read (shaped.read_bytes marks quotes)
      simp only [Literal.ofToken?, String.toList_ofList, bytes_enclosed, decode_encoded encodes]
  · have shaped := Body.raw inside
    have marks : isRawMark mark := by simpa [isRawMark] using marked
    apply readsAs_of_read (shaped.read_raw marks quotes quoting)
    simp only [Literal.ofToken?, String.toList_ofList, string_raw shaped marks quotes, String.ofList_toList]

/-- A letter, an escaped quote, a hexadecimal and an octal escape; then a backslash in a raw literal. -/
theorem mixed_spellings_read_back :
    isQuote '"' ∧ Encodes '"' "A\"\u00e9Z".toList "A\\\"\\u00E9\\132".toList ∧
      Expr.parse "\"A\\\"\\u00E9\\132\"" {} = .ok (.literal .string (.string "A\"\u00e9Z")) ∧
      '"' ∉ "\\n".toList ∧ Expr.parse "R\"\"\"\\n\"\"\"" {} = .ok (.literal .string (.string "\\n")) := by
  have quotes : isQuote '"' := rfl
  have digits : List.Forall₂ IsHexDigit ['0', '0', 'E', '9'] [0, 0, 14, 9] :=
    .cons ⟨by decide, .inl rfl⟩ (.cons ⟨by decide, .inl rfl⟩
      (.cons ⟨by decide, .inr (by decide)⟩ (.cons ⟨by decide, .inl rfl⟩ .nil)))
  have accent : Spells '"' '\u00e9' ['\\', 'u', '0', '0', 'E', '9'] :=
    .escape (.hexadecimal (by decide) digits (by decide))
  have octal : Spells '"' 'Z' ['\\', '1', '3', '2'] :=
    .escape (@Escapes.octal 'Z' 1 3 2 (by decide) (by decide))
  have encodes : Encodes '"' "A\"\u00e9Z".toList "A\\\"\\u00E9\\132".toList :=
    .cons (.plain (by decide) (by decide)) (.cons (.escape (.simple (by decide))) (.cons accent (.cons octal .nil)))
  have spelled := ((literals_denote_what_they_spell quotes "A\"\u00e9Z").1 _ encodes).1 .single
  have free : '"' ∉ "\\n".toList := by decide
  have unchanged := (literals_denote_what_they_spell quotes "\\n").2 free 'R' (by decide) .triple
  exact ⟨quotes, encodes, spelled.2 {} (by decide) (by decide), free, unchanged.2 {} (by decide) (by decide)⟩

end CommonExpr.Proofs.EscapedLiterals

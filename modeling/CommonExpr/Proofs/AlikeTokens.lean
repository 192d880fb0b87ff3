import CommonExpr.Proofs.ParserImage

/-! Where tokens stand does not matter to the grammar. So every list of lexemes that it
derives a tree from has a source that is accepted. -/

namespace CommonExpr.Proofs.AlikeTokens
open Grammar TokenReader Tokenization Recognition ParserProgress Spelling TreePrinter ParserImage

/-- The same tokens at other places. -/
def Alike (others tokens : List Token) : Prop :=
  others.map inscription = tokens.map inscription

section Derivations
variable {tokens others first second : List Token} {token other : Token}

theorem alike_cons (alike : Alike others (token :: tokens)) : ∃ other rest, others = other :: rest ∧
    other.kind = token.kind ∧ other.text = token.text ∧ Alike rest tokens := by
  obtain ⟨other, rest, rfl, same, behind⟩ := List.map_eq_cons_iff.mp alike
  exact ⟨other, rest, rfl, congrArg Word.kind same, congrArg Word.text same, behind⟩

theorem alike_nil (alike : Alike others []) : others = [] :=
  List.map_eq_nil_iff.mp alike

private theorem alike_append (alike : Alike others (first ++ second)) : ∃ before behind, others = before ++ behind ∧
    Alike before first ∧ Alike behind second := by
  rw [Alike, List.map_append] at alike
  exact List.map_eq_append_iff.mp alike

private theorem alike_single (alike : Alike others [token]) : ∃ other, others = [other] ∧ other.kind = token.kind ∧
    other.text = token.text := by
  obtain ⟨other, rest, rfl, kind, text, behind⟩ := alike_cons alike
  exact ⟨other, by rw [alike_nil behind], kind, text⟩

/-- Tokens between two others. -/
theorem alike_enclosed {opening closing : Token} (alike : Alike others (opening :: (tokens ++ [closing]))) :
    ∃ start held stop, others = start :: (held ++ [stop]) ∧ start.kind = opening.kind ∧ start.text = opening.text ∧
      Alike held tokens ∧ stop.kind = closing.kind := by
  obtain ⟨start, rest, rfl, kind, text, behind⟩ := alike_cons alike
  obtain ⟨held, last, rfl, inner, ends⟩ := alike_append behind
  obtain ⟨stop, rfl, closes, -⟩ := alike_single ends
  exact ⟨start, held, stop, rfl, kind, text, inner, closes⟩

private theorem literal_alike (kind : other.kind = token.kind) (text : other.text = token.text) :
    Literal.ofToken? other = Literal.ofToken? token := by
  simp only [Literal.ofToken?, kind, text]

private theorem startsField_alike (alike : Alike others tokens) (starts : StartsField others) : StartsField tokens := by
  obtain ⟨name, colon, rest, rfl, names, parts⟩ := starts
  obtain ⟨first, _, rfl, kind, -, behind⟩ := alike_cons (Eq.symm alike)
  obtain ⟨second, others, rfl, mark, -, -⟩ := alike_cons behind
  exact ⟨first, second, others, rfl, kind.trans names, mark.trans parts⟩

theorem derives_alike {phrase : Phrase} (derived : Derives tokens phrase) (alike : Alike others tokens) :
    Derives others phrase := by
  induction derived generalizing others with
  | source _ ends ih =>
    obtain ⟨front, last, rfl, inner, closes⟩ := alike_append alike
    obtain ⟨ending, rfl, kind, -⟩ := alike_single closes
    exact .source (ih inner) (kind.trans ends)
  | plain _ ih => exact .plain (ih alike)
  | conditional _ asks _ parts _ tested chosen other =>
    obtain ⟨first, rest, rfl, before, behind⟩ := alike_append alike
    obtain ⟨question, rest, rfl, kind, -, behind⟩ := alike_cons behind
    obtain ⟨second, rest, rfl, middle, behind⟩ := alike_append behind
    obtain ⟨colon, third, rfl, mark, -, behind⟩ := alike_cons behind
    exact .conditional (tested before) (kind.trans asks) (chosen middle) (mark.trans parts) (other behind)
  | operand level _ ih => exact .operand level (ih alike)
  | operation _ joins _ one two =>
    obtain ⟨first, rest, rfl, before, behind⟩ := alike_append alike
    obtain ⟨sign, second, rfl, kind, -, behind⟩ := alike_cons behind
    exact .operation (one before) (kind ▸ joins) (two behind)
  | signed marks _ ih =>
    obtain ⟨sign, rest, rfl, kind, -, behind⟩ := alike_cons alike
    exact .signed (kind.trans marks) (ih behind)
  | bare _ ih => exact .bare (ih alike)
  | start _ ih => exact .start (ih alike)
  | selection _ dots names ih =>
    obtain ⟨front, rest, rfl, before, behind⟩ := alike_append alike
    obtain ⟨dot, rest, rfl, kind, -, behind⟩ := alike_cons behind
    obtain ⟨name, rfl, named, text⟩ := alike_single behind
    exact text ▸ .selection (ih before) (kind.trans dots) (named.trans names)
  | method _ dots names opens _ closes operand arguments =>
    obtain ⟨front, rest, rfl, before, behind⟩ := alike_append alike
    obtain ⟨dot, rest, rfl, kind, -, behind⟩ := alike_cons behind
    obtain ⟨name, rest, rfl, named, text, behind⟩ := alike_cons behind
    obtain ⟨opening, held, closing, rfl, start, -, inner, stop⟩ := alike_enclosed behind
    exact text ▸ .method (operand before) (kind.trans dots) (named.trans names) (start.trans opens) (arguments inner)
      (stop.trans closes)
  | index _ opens _ closes operand place =>
    obtain ⟨front, rest, rfl, before, behind⟩ := alike_append alike
    obtain ⟨opening, held, closing, rfl, start, -, inner, stop⟩ := alike_enclosed behind
    exact .index (operand before) (start.trans opens) (place inner) (stop.trans closes)
  | literal denotes =>
    obtain ⟨token, rfl, kind, text⟩ := alike_single alike
    exact .literal ((literal_alike kind text).trans denotes)
  | group opens _ closes ih =>
    obtain ⟨opening, held, closing, rfl, start, -, inner, stop⟩ := alike_enclosed alike
    exact .group (start.trans opens) (ih inner) (stop.trans closes)
  | list opens _ closes ih =>
    obtain ⟨opening, held, closing, rfl, start, -, inner, stop⟩ := alike_enclosed alike
    exact .list (start.trans opens) (ih inner) (stop.trans closes)
  | leadingSelection dots names =>
    obtain ⟨dot, rest, rfl, kind, -, behind⟩ := alike_cons alike
    obtain ⟨name, rfl, named, text⟩ := alike_single behind
    exact text ▸ .leadingSelection (kind.trans dots) (named.trans names)
  | leadingCall dots names opens _ closes ih =>
    obtain ⟨dot, rest, rfl, kind, -, behind⟩ := alike_cons alike
    obtain ⟨name, rest, rfl, named, text, behind⟩ := alike_cons behind
    obtain ⟨opening, held, closing, rfl, start, -, inner, stop⟩ := alike_enclosed behind
    exact text ▸ .leadingCall (kind.trans dots) (named.trans names) (start.trans opens) (ih inner) (stop.trans closes)
  | presence names has opens _ closes ih =>
    obtain ⟨name, rest, rfl, named, text, behind⟩ := alike_cons alike
    obtain ⟨opening, held, closing, rfl, start, -, inner, stop⟩ := alike_enclosed behind
    exact .presence (named.trans names) (text.trans has) (start.trans opens) (ih inner) (stop.trans closes)
  | call names opens _ closes ordinary ih =>
    obtain ⟨name, rest, rfl, named, text, behind⟩ := alike_cons alike
    obtain ⟨opening, held, closing, rfl, start, -, inner, stop⟩ := alike_enclosed behind
    rw [← text] at ordinary ⊢
    exact .call (named.trans names) (start.trans opens) (ih inner) (stop.trans closes) ordinary
  | identifier names =>
    obtain ⟨name, rfl, named, text⟩ := alike_single alike
    exact text ▸ .identifier (named.trans names)
  | typed _ opens _ closes type members =>
    obtain ⟨front, rest, rfl, before, behind⟩ := alike_append alike
    obtain ⟨opening, held, closing, rfl, start, -, inner, stop⟩ := alike_enclosed behind
    exact .typed (type before) (start.trans opens) (members inner) (stop.trans closes)
  | untyped opens _ closes starts ih =>
    obtain ⟨opening, held, closing, rfl, start, -, inner, stop⟩ := alike_enclosed alike
    exact .untyped (start.trans opens) (ih inner) (stop.trans closes) (startsField_alike (Eq.symm inner) starts)
  | map opens _ closes apart ih =>
    obtain ⟨opening, held, closing, rfl, start, -, inner, stop⟩ := alike_enclosed alike
    exact .map (start.trans opens) (ih inner) (stop.trans closes) fun starts => apart (startsField_alike inner starts)
  | simpleName names =>
    obtain ⟨name, rfl, named, text⟩ := alike_single alike
    exact text ▸ .simpleName (named.trans names)
  | dottedName names dots _ ih =>
    obtain ⟨name, rest, rfl, named, text, behind⟩ := alike_cons alike
    obtain ⟨dot, rest, rfl, kind, -, behind⟩ := alike_cons behind
    exact text ▸ .dottedName (named.trans names) (kind.trans dots) (ih behind)
  | element _ ih => exact .element (ih alike)
  | field names parts _ ih =>
    obtain ⟨name, rest, rfl, named, text, behind⟩ := alike_cons alike
    obtain ⟨colon, rest, rfl, kind, -, behind⟩ := alike_cons behind
    exact text ▸ .field (named.trans names) (kind.trans parts) (ih behind)
  | entry _ parts _ key value =>
    obtain ⟨front, rest, rfl, before, behind⟩ := alike_append alike
    obtain ⟨colon, rest, rfl, kind, -, behind⟩ := alike_cons behind
    exact .entry (key before) (kind.trans parts) (value behind)
  | single _ ih => exact .single (ih alike)
  | several _ separates _ head tail =>
    obtain ⟨front, rest, rfl, before, behind⟩ := alike_append alike
    obtain ⟨comma, rest, rfl, kind, -, behind⟩ := alike_cons behind
    exact .several (head before) (kind.trans separates) (tail behind)
  | none => exact alike_nil alike ▸ .none
  | some _ ih => exact .some (ih alike)
  | trailing _ separates ih =>
    obtain ⟨front, last, rfl, before, behind⟩ := alike_append alike
    obtain ⟨comma, rfl, kind, -⟩ := alike_single behind
    exact .trailing (ih before) (kind.trans separates)

end Derivations

section Sources
variable {tokens : List Token} {tree : Expr}

/-- Lexemes are cut out of their layout again, and there the parser finds the same tree. -/
theorem source_of_expression (derived : Derives tokens (.expression tree)) (genuine : ∀ token ∈ tokens, Genuine token) :
    ∃ source limits place others, Expr.parse source limits = .ok tree ∧
      TokenStream.ofSource source = streamOf place others ∧ Alike others tokens := by
  obtain ⟨place, others, stream, written⟩ := ofSource_layout (lexemes_of_genuine genuine)
  have whole : Derives (others ++ [endToken place]) (.source tree) := .source (derives_alike derived written) rfl
  let source := String.ofList (layout (tokens.map inscription))
  let limits : Limits := ⟨others.length, source.length⟩
  have short : source.length ≤ limits.maxSourceLength := Int.le_refl _
  rcases parse_of_stream stream short whole with parsed | ⟨exceeded, _⟩
  · exact ⟨source, _, place, others, parsed, stream, written⟩
  · exact absurd exceeded (Int.lt_irrefl _)

/-- There is a source that is accepted under some limits and whose tokens, the end token
among them, begin with these words. -/
def Viable (words : List Word) : Prop :=
  ∃ source limits tree all, Expr.parse source limits = .ok tree ∧ (Lexer.ofSource source).tokenize.1 = .ok all ∧
    words <+: all.map inscription

theorem viable_of_expression {front back : List Token} (derived : Derives (front ++ back) (.expression tree))
    (genuine : ∀ token ∈ front ++ back, Genuine token) : Viable (front.map inscription) := by
  obtain ⟨source, limits, place, others, parsed, stream, alike⟩ := source_of_expression derived genuine
  refine ⟨source, limits, tree, others ++ [endToken place], parsed, ?_, ?_⟩
  · rw [tokenize_eq_listing, stream, listing_streamOf]
  · rw [List.map_append, alike, List.map_append, List.append_assoc]
    exact List.prefix_append ..

theorem Viable.derivation {words : List Word} (viable : Viable words) : ∃ place tokens tree,
    Derives (tokens ++ [endToken place]) (.source tree) ∧ (∀ token ∈ tokens, Genuine token) ∧
      words <+: (tokens ++ [endToken place]).map inscription := by
  obtain ⟨source, limits, tree, all, parsed, cut, begins⟩ := viable
  obtain ⟨short, place, tokens, stream, genuine⟩ := stream_of_parse parsed
  rw [tokenize_eq_listing, stream, listing_streamOf] at cut
  cases cut
  exact ⟨place, tokens, tree, derives_of_stream stream short genuine parsed, genuine, begins⟩

end Sources
end CommonExpr.Proofs.AlikeTokens

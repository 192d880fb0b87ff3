import CommonExpr.Proofs.IntegerLiterals
import CommonExpr.Proofs.ParserFootprint
import CommonExpr.Proofs.SourceTokens
import CommonExpr.Proofs.TokenPlaces
import CommonExpr.Proofs.ViablePrefix

/-! A source that cannot be read is blamed at its first impossible token: those before it
begin a source that is accepted, and together with it they begin none. What the lexer
cannot read counts as such a token. -/

namespace CommonExpr.Proofs.FirstImpossibleToken
open CommonExpr.Parser Grammar TokenReader ParserSoundness ParserCompleteness NestingAllowance Tokenization
open Recognition Spelling TreePrinter
open AlikeTokens TokenFootprint ParserFootprint SourceTokens ViablePrefix TokenSequence TokenPlaces IntegerLiterals

section Lists
variable {frame : Frame} {tokens used others rest front : List Token} {token : Token} {tree : Expr} {failure : ParseFailure}
  {allowance : Nat}

/-- The tokens stand in the order of their positions. -/
def Ascending (tokens : List Token) : Prop :=
  tokens.Pairwise fun first second => first.location.position < second.location.position

theorem Ascending.before_current (ascending : Ascending (front ++ token :: (others ++ rest) ++ [endToken frame.place])) :
    token.location.position < (frame.reader rest).current.location.position := by
  rw [Ascending, List.append_assoc, List.cons_append, List.append_assoc] at ascending
  have behind := (List.pairwise_cons.mp (List.pairwise_append.mp ascending).2.1).1
  refine behind _ (List.mem_append_right _ ?_)
  cases rest with
  | nil => exact List.mem_singleton_self _
  | cons first _ => exact List.mem_cons_self ..

/-- A place is that of one token only. -/
theorem Ascending.split_unique (ascending : Ascending (tokens ++ [endToken frame.place])) (one : tokens = used ++ rest)
    (two : tokens = front ++ others) (same : (frame.reader rest).current.location = (frame.reader others).current.location) :
    used = front := by
  subst one
  have place := congrArg Location.position same
  rcases List.append_eq_append_iff.mp two with ⟨between, rfl, rfl⟩ | ⟨between, rfl, rfl⟩
  · cases between with
    | nil => rw [List.append_nil]
    | cons token between => exact absurd place (Nat.ne_of_lt ascending.before_current)
  · cases between with
    | nil => rw [List.append_nil]
    | cons token between =>
      rw [List.append_assoc front] at ascending
      exact absurd place (Nat.ne_of_gt ascending.before_current)

end Lists

section Runs
variable {frame : Frame} {allowance : Nat} {tokens used rest : List Token} {token : Token} {tree : Expr} {failure : ParseFailure}

/-- A failure that has not come from the allowance being used up. -/
def Shallow (failure : ParseFailure) : Prop :=
  ∀ place, failure ≠ .invalid ⟨.nestedTooDeeply, place⟩

/-- No number has more digits than can be converted. -/
def Countable (tokens : List Token) : Prop :=
  ∀ token ∈ tokens, Literal.ofToken? token ≠ some none

private theorem blamed_at_token (short : tokens.length < frame.bound) (countable : Countable tokens)
    (shallow : Shallow failure)
    (failed : source allowance (frame.reader tokens) = .error failure) : ∃ used rest cause, tokens = used ++ rest ∧
      failure = .invalid ⟨cause, (frame.reader rest).current.location⟩ ∧ Opens (Is .expression) used := by
  rcases source_blames allowance tokens failure short failed with (⟨place, -⟩ | ⟨member, many⟩) | located
  · exact absurd rfl (shallow place)
  · exact absurd many (countable _ member)
  · obtain ⟨used, rest, cause, split, -, located, opens⟩ := located
    exact ⟨used, rest, cause, split, located, opens⟩

private theorem viable_of_opens (opens : Opens (Is .expression) used) (genuine : ∀ token ∈ used, Genuine token) :
    Viable (used.map inscription) := by
  obtain ⟨completion, lexemes, tree, derived⟩ := opens
  exact viable_of_expression derived fun token member => (List.mem_append.mp member).elim (genuine token) (lexemes token)

/-- An error is at a place, and the tokens before it can be completed. -/
theorem viable_before (frame : Frame) (used rest : List Token) (short : (used ++ rest).length < frame.bound) (genuine : ∀ token ∈ used, Genuine token)
    (countable : Countable (used ++ rest)) (ascending : Ascending (used ++ rest ++ [endToken frame.place]))
    (shallow : Shallow failure) (failed : source allowance (frame.reader (used ++ rest)) = .error failure)
    {stop after : Reader} (stands : StandsAt stop after (.error failure : Except ParseFailure Expr))
    (there : stop.current.location = (frame.reader rest).current.location) :
    Viable (used.map inscription) ∧ ∃ error, failure = .invalid error ∧ error.isLexical = false ∧
      error.location = (frame.reader rest).current.location := by
  obtain ⟨front, more, cause, split, rfl, opens⟩ := blamed_at_token short countable shallow failed
  obtain ⟨plain, located⟩ := stands
  have same : used = front := ascending.split_unique rfl split (there.symm.trans located.symm)
  exact ⟨viable_of_opens (same ▸ opens) genuine, _, rfl, plain, located.trans there⟩

/-- What has a derivation is read with enough allowance, and with less it is nested too deeply. -/
theorem derivable_of_failed (short : tokens.length < frame.bound) (shallow : Shallow failure)
    (failed : source allowance (frame.reader tokens) = .error failure) (ending : Token) :
    ¬ Derives (tokens ++ [ending]) (.source tree) := by
  intro derived
  have read := source_complete frame derived short (Nat.le_add_left tokens.length allowance)
  rcases source_within (Nat.le_add_right allowance tokens.length) (frame.reader tokens) with same | ⟨place, exceeded⟩
  · cases failed.symm.trans (same.trans read)
  · cases failed.symm.trans exceeded
    exact shallow place rfl

/-- No matter what stands behind a token, the parser fails at it. -/
theorem impossible_with (ordinary : token.kind ≠ .endOfInput) (shallow : Shallow failure)
    (repeats : ∀ (frame : Frame) others, (used ++ token :: others).length < frame.bound →
      source allowance (frame.reader (used ++ token :: others)) = .error failure) :
    ¬ Viable ((used ++ [token]).map inscription) := by
  intro viable
  obtain ⟨place, tokens, tree, derived, genuine, begins⟩ := viable.derivation
  rw [List.map_append, List.map_append] at begins
  rcases List.prefix_concat_iff.mp begins with whole | ⟨others, inside⟩
  · obtain ⟨-, last⟩ := List.append_inj' whole rfl
    exact ordinary (congrArg Word.kind (List.cons.inj last).1)
  · obtain ⟨front, back, rfl, same, -⟩ := List.map_eq_append_iff.mp inside.symm
    have alike : Alike (used ++ token :: back ++ [endToken place]) (front ++ back ++ [endToken place]) := by
      simp [Alike, same]
    let frame : Frame := ⟨place, (used ++ token :: back).length + 1⟩
    have failed := repeats frame back (Nat.lt_succ_self _)
    exact derivable_of_failed (Nat.lt_succ_self _) shallow failed _ (derives_alike derived alike)

/-- Where all tokens are consumed, the end comes too early. -/
theorem impossible_at_end (short : tokens.length < frame.bound) (shallow : Shallow failure)
    (failed : source allowance (frame.reader tokens) = .error failure) (place : Location) :
    ¬ Viable ((tokens ++ [endToken place]).map inscription) := by
  intro viable
  obtain ⟨other, all, tree, derived, genuine, begins⟩ := viable.derivation
  rw [List.map_append, List.map_append] at begins
  rcases List.prefix_concat_iff.mp begins with whole | inside
  · have alike : Alike (tokens ++ [endToken place]) (all ++ [endToken other]) := by simpa [Alike] using whole
    exact derivable_of_failed short shallow failed _ (derives_alike derived alike)
  · have member : inscription (endToken place) ∈ all.map inscription :=
      inside.subset (List.mem_append_right _ (List.mem_singleton_self _))
    obtain ⟨token, given, same⟩ := List.mem_map.mp member
    exact (genuine token given).ordinary (congrArg Word.kind same)

end Runs

section Failures
variable {before stop : Reader} {allowance : Nat} {tokens used rest : List Token} {last : Except LexicalError Token}
  {token : Token} {failure : ParseFailure} {offence : LexicalError}

private theorem exists_behind (ascending : Ascending tokens) : ∃ place, Ascending (tokens ++ [endToken place]) := by
  obtain ⟨top, above⟩ : ∃ top, ∀ token ∈ tokens, token.location.position < top := by
    clear ascending
    induction tokens with
    | nil => exact ⟨0, nofun⟩
    | cons token others ih =>
      obtain ⟨top, above⟩ := ih
      refine ⟨max (token.location.position + 1) top, List.forall_mem_cons.mpr ⟨by omega, fun other member => ?_⟩⟩
      exact Nat.lt_of_lt_of_le (above other member) (Nat.le_max_right ..)
  refine ⟨⟨1, 1, top⟩, List.pairwise_append.mpr ⟨ascending, List.pairwise_singleton _ _, fun token member other only => ?_⟩⟩
  rw [List.mem_singleton.mp only]
  exact above token member

theorem givesUp_cases (gives : GivesUp before (.error failure : Except ParseFailure Expr)) :
    (∃ place, failure = .invalid ⟨.nestedTooDeeply, place⟩) ∨
      ∃ offence, EndsIn offence before.following ∧ failure = .invalid offence.toSyntaxError := by
  cases gives with
  | nested place => exact .inl ⟨place, rfl⟩
  | starved ends => exact .inr ⟨_, ends, rfl⟩

/-- The failure is the same for every list of tokens that goes on behind the one stopped at. -/
theorem repeats_anywhere {parser : Parser Expr} (footprint : Footprint used before stop fun other last =>
      Reports parser other last (.error failure)) (there : stop.current = token) (roomy : used.length < before.bound)
    (frame : Frame) (others : List Token) (short : (used ++ token :: others).length < frame.bound) :
    parser (frame.reader (used ++ token :: others)) = .error failure := by
  refine footprint.repeats _ (frame.reader (token :: others)) (reader_sealed ..) (reader_consumes ..) there.symm roomy ?_
  rw [reader_bound]
  rw [List.length_append] at short
  omega

/-- Where the lexer fails, all tokens before that can be completed: if the parser failed at one
of them it would not have asked for more. -/
theorem viable_of_starved (fed : Fed before tokens (.error offence)) (roomy : tokens.length < before.bound)
    (genuine : ∀ token ∈ tokens, Genuine token) (countable : Countable tokens) (ascending : Ascending tokens)
    (failed : source allowance before = .error (.invalid offence.toSyntaxError)) : Viable (tokens.map inscription) := by
  obtain ⟨place, ascends⟩ := exists_behind ascending
  let frame : Frame := ⟨place, tokens.length + 1⟩
  let large := allowance + (tokens.length + 1)
  have again : source large before = .error (.invalid offence.toSyntaxError) := by
    rcases source_within (Nat.le_add_right allowance (tokens.length + 1)) before with same | ⟨place, exceeded⟩
    · exact same.symm.trans failed
    · cases failed.symm.trans exceeded
  cases read : source large (frame.reader tokens) with
  | ok pair =>
    have ordinary : ∀ token ∈ tokens, token.kind ≠ .endOfInput := fun token member => (genuine token member).ordinary
    have derived : Derives (tokens ++ [endToken place]) (.source pair.1) :=
      source_sound (Nat.lt_succ_self _) rfl ordinary read
    exact viable_of_opens (.done ⟨_, expression_of_source derived⟩) genuine
  | error other =>
    rcases source_blames large tokens other (Nat.lt_succ_self _) read with
      (⟨place, deep⟩ | ⟨member, many⟩) | ⟨used, rest, cause, split, plain, rfl, opens⟩
    · exact absurd deep (by omega)
    · exact absurd many (countable _ member)
    have reports : Reports (source large) (frame.reader tokens) before
        (.error (.invalid ⟨cause, (frame.reader rest).current.location⟩)) := read
    rcases (source_local large).elim (reader_sealed frame tokens) reports with
      gives | ⟨consumed, stop, ⟨nonlexical, located⟩, -, footprint⟩
    · rcases givesUp_cases gives with ⟨place, same⟩ | ⟨offence, ends, -⟩
      · exact absurd (congrArg SyntaxError.cause (ParseFailure.invalid.inj same)) plain
      · cases (reader_fed frame genuine).endsIn ends
    rcases (reader_fed frame genuine).stops footprint.consumes with ⟨token, more, found, there⟩ | ends
    · -- The parser would have stopped there in the source as well, with an error of its own.
      have settled : source large before = .error (.invalid ⟨cause, (frame.reader rest).current.location⟩) := by
        subst found
        obtain ⟨after, consumes, stands⟩ := fed.consumes
        rw [List.length_append] at roomy
        refine footprint.repeats before after fed.sealed consumes (stands.trans there.symm) ?_ (by omega)
        rw [reader_bound]
        simp only [frame, List.length_append]
        omega
      rw [← ParseFailure.invalid.inj (Except.error.inj (again.symm.trans settled))] at nonlexical
      cases nonlexical
    · have all : used = tokens := by
        refine ascends.split_unique split (List.append_nil _).symm (located.trans ?_)
        exact congrArg Token.location (Except.ok.inj ends).symm
      exact viable_of_opens (all ▸ opens) genuine

/-- What a failure of the parser is about: the lexer's failure, or a token that cannot follow
those before it. -/
theorem failure_cases (fed : Fed before tokens last) (roomy : tokens.length < before.bound)
    (genuine : ∀ token ∈ tokens, Genuine token) (countable : Countable tokens) (ascending : Ascending tokens)
    (ends : ∀ ending, last = .ok ending → Ascending (tokens ++ [ending])) (shallow : Shallow failure)
    (failed : source allowance before = .error failure) :
    (∃ offence, last = .error offence ∧ failure = .invalid offence.toSyntaxError ∧ Viable (tokens.map inscription)) ∨
      ∃ error front token, failure = .invalid error ∧ Viable (front.map inscription) ∧
        ((∃ rest, tokens = front ++ token :: rest) ∨ (front = tokens ∧ last = .ok token)) ∧
        error.isLexical = false ∧ error.location = token.location ∧ ¬ Viable ((front ++ [token]).map inscription) := by
  have reports : Reports (source allowance) before before (.error failure) := failed
  rcases (source_local allowance).elim fed.sealed reports with
    gives | ⟨used, stop, stands, -, footprint⟩
  · rcases givesUp_cases gives with ⟨place, rfl⟩ | ⟨offence, ends, rfl⟩
    · exact absurd rfl (shallow place)
    · have same := fed.endsIn ends
      subst same
      exact .inl ⟨offence, rfl, rfl, viable_of_starved fed roomy genuine countable ascending failed⟩
  rcases fed.stops footprint.consumes with ⟨token, rest, rfl, there⟩ | rfl
  · rw [List.length_append] at roomy
    have sublist : (used ++ [token]).Sublist (used ++ token :: rest) :=
      List.Sublist.append_left (List.singleton_sublist.mpr (List.mem_cons_self ..)) used
    have repeats := repeats_anywhere footprint there (by omega)
    obtain ⟨place, ascends⟩ := exists_behind (List.Pairwise.sublist sublist ascending)
    let frame : Frame := ⟨place, (used ++ [token]).length + 1⟩
    obtain ⟨viable, error, rfl, plain, located⟩ := viable_before frame used [token] (Nat.lt_succ_self _)
      (fun _ member => genuine _ (List.mem_append_left _ member)) (fun _ member => countable _ (sublist.subset member))
      ascends shallow (repeats frame [] (Nat.lt_succ_self _)) stands (congrArg Token.location there)
    have ordinary : token.kind ≠ .endOfInput := (genuine token (by simp)).ordinary
    exact .inr ⟨error, used, token, rfl, viable, .inl ⟨rest, rfl⟩, plain, located, impossible_with ordinary shallow repeats⟩
  · obtain ⟨frame, ending, rfl⟩ := fed.framed
    rw [reader_bound] at roomy
    have ascends := ends _ rfl
    rw [ending, ← List.append_nil tokens] at ascends
    obtain ⟨viable, error, rfl, plain, located⟩ := viable_before frame tokens [] (by simpa using roomy) genuine
      (by simpa using countable) ascends shallow (by simpa using failed) stands (congrArg Token.location ending)
    refine .inr ⟨error, tokens, stop.current, rfl, viable, .inr ⟨rfl, rfl⟩, plain, ?_, ?_⟩
    · exact located.trans (congrArg Token.location ending).symm
    · rw [ending]
      exact impossible_at_end roomy shallow failed _

end Failures

section Sources
variable {source : String} {limits : Limits} {tokens : List Token} {last : Except LexicalError Token} {failure : ParseFailure}

theorem parse_failed (written : Written (TokenStream.ofSource source) tokens last)
    (short : source.length ≤ limits.maxSourceLength) (failed : Expr.parse source limits = .error failure) :
    (∃ offence, tokens = [] ∧ last = .error offence ∧ failure = .invalid offence.toSyntaxError) ∨
      ∃ before, Fed before tokens last ∧ tokens.length < before.bound ∧
        Parser.source limits.maxDepth.toNat before = .error failure := by
  rw [Expr.parse, if_neg (by omega)] at failed
  generalize TokenStream.ofSource source = stream at written failed
  split at failed
  next offence given =>
    cases written <;> cases given
    cases failed
    exact .inl ⟨offence, rfl, rfl, rfl⟩
  next token rest given =>
    have many : tokens.length < rest.length + 2 := by
      rw [← written.length]
      cases written <;> cases given <;> simp [TokenStream.length]
    refine .inr ⟨⟨token, rest, rest.length + 2⟩, ⟨stream, written, given⟩, many, ?_⟩
    split at failed
    next => cases failed
    next read =>
      cases failed
      exact read

/-- The first tokens of the source, the end token not among them. -/
def Begins (source : String) (front : List Token) : Prop :=
  ∀ index (within : index < front.length),
    (Lexer.ofSource source).nth index = .ok front[index] ∧ front[index].kind ≠ .endOfInput

/-- The tokens in front of an error begin an accepted source. If the lexer fails behind
them, that is the error. Otherwise the error is at the next token, with which they begin no
accepted source any more. -/
theorem error_at_first_impossible_token {source : String} {limits : Limits} {failure : ParseFailure}
    (short : source.length ≤ limits.maxSourceLength)
    (few : ∀ index token, (Lexer.ofSource source).nth index = .ok token → token.kind = .int ∨ token.kind = .uint →
      (token.text.toList.takeWhile Char.isDigit).length ≤ digitLimit)
    (failed : Expr.parse source limits = .error failure)
    (shallow : ∀ place, failure ≠ .invalid ⟨.nestedTooDeeply, place⟩) :
    let sequence := (Lexer.ofSource source).nth
    ∃ error front, failure = .invalid error ∧ Begins source front ∧ Viable (front.map inscription) ∧
      match sequence front.length with
      | .error offence => error = offence.toSyntaxError ∧
          Placed source.toList (reach sequence front.length) error.location ∧
          Offends (source.toList.drop error.location.position) offence.cause
      | .ok token => error.isLexical = false ∧ error.location = token.location ∧
          Tile source.toList (reach sequence front.length) token ∧ ¬ Viable ((front ++ [token]).map inscription) := by
  intro sequence
  obtain ⟨tokens, last, written, listed⟩ := scanFrom_written (Nat.lt_succ_self (Cursor.ofSource source).rest.length)
  have genuine := written.genuine
  have countable : Countable tokens := by
    intro token member
    obtain ⟨index, within, rfl⟩ := List.getElem_of_mem member
    exact ofToken?_countable (genuine _ member) (few index _ (listed.inside index within))
  have begins (front rest : List Token) (split : tokens = front ++ rest) : Begins source front := by
    subst split
    intro index within
    have given := listed.inside index (by rw [List.length_append]; omega)
    rw [List.getElem_append_left within] at given
    exact ⟨given, (genuine _ (List.mem_append_left _ (List.getElem_mem within))).ordinary⟩
  have ordered := (tokens_tile_source source).2.1
  have ascending : Ascending tokens := by
    refine List.pairwise_iff_getElem.mpr fun index later within beyond order => ?_
    exact ordered index later _ _ order (listed.inside index within) (listed.inside later beyond)
      (genuine _ (List.getElem_mem within)).ordinary
  have ends (ending : Token) (finished : last = .ok ending) : Ascending (tokens ++ [ending]) := by
    refine List.pairwise_append.mpr ⟨ascending, List.pairwise_singleton _ _, fun token member other only => ?_⟩
    obtain ⟨index, within, rfl⟩ := List.getElem_of_mem member
    rw [List.mem_singleton.mp only]
    exact ordered index tokens.length _ _ within (listed.inside index within) (listed.behind.trans finished)
      (genuine _ member).ordinary
  have cases : (∃ offence, last = .error offence ∧ failure = .invalid offence.toSyntaxError ∧ Viable (tokens.map inscription)) ∨
      ∃ error front token, failure = .invalid error ∧ Viable (front.map inscription) ∧
        ((∃ rest, tokens = front ++ token :: rest) ∨ (front = tokens ∧ last = .ok token)) ∧
        error.isLexical = false ∧ error.location = token.location ∧ ¬ Viable ((front ++ [token]).map inscription) := by
    rcases parse_failed written short failed with ⟨offence, rfl, rfl, rfl⟩ | ⟨before, fed, roomy, failed⟩
    · exact .inl ⟨offence, rfl, rfl, viable_of_opens opens_expression nofun⟩
    · exact failure_cases fed roomy genuine countable ascending ends shallow failed
  rcases cases with ⟨offence, rfl, rfl, viable⟩ | ⟨error, front, token, rfl, viable, stands, plain, located, impossible⟩
  · have given : sequence tokens.length = .error offence := listed.behind
    have offends := nth_offence given fun earlier before => ⟨_, listed.inside earlier before⟩
    refine ⟨_, tokens, rfl, begins tokens [] (List.append_nil _).symm, viable, ?_⟩
    rw [given]
    exact ⟨rfl, offends⟩
  · obtain ⟨rest, split, given⟩ : ∃ rest, tokens = front ++ rest ∧ sequence front.length = .ok token := by
      rcases stands with ⟨rest, rfl⟩ | ⟨rfl, finished⟩
      · refine ⟨token :: rest, rfl, (listed.inside front.length (by simp)).trans ?_⟩
        rw [List.getElem_append_right (Nat.le_refl _)]
        simp
      · exact ⟨[], (List.append_nil _).symm, listed.behind.trans finished⟩
    refine ⟨error, front, rfl, begins front rest split, viable, ?_⟩
    rw [given]
    exact ⟨plain, located, nth_tile given, impossible⟩

/-- The lexer is not even asked for what stands behind the parenthesis. -/
theorem stray_parenthesis_blamed :
    Expr.parse "1 ) $" {} = .error (.invalid ⟨.trailing ")", ⟨1, 3, 2⟩⟩) ∧ Viable [⟨.int, "1"⟩] ∧
      ¬ Viable [⟨.int, "1"⟩, ⟨.rightParen, ")"⟩] := by
  have first : (Lexer.ofSource "1 ) $").nth 0 = .ok ⟨.int, "1", ⟨1, 1, 0⟩⟩ := by rfl
  have second : (Lexer.ofSource "1 ) $").nth 1 = .ok ⟨.rightParen, ")", ⟨1, 3, 2⟩⟩ := by rfl
  have third : (Lexer.ofSource "1 ) $").nth 2 = .error ⟨.unexpected '$', ⟨1, 5, 4⟩⟩ := by rfl
  have failed : Expr.parse "1 ) $" {} = .error (.invalid ⟨.trailing ")", ⟨1, 3, 2⟩⟩) := by rfl
  have few (index : Nat) (token : Token) (given : (Lexer.ofSource "1 ) $").nth index = .ok token)
      (_ : token.kind = .int ∨ token.kind = .uint) : (token.text.toList.takeWhile Char.isDigit).length ≤ digitLimit := by
    match index with
    | 0 =>
      cases first.symm.trans given
      decide
    | 1 =>
      cases second.symm.trans given
      decide
    | index + 2 => cases (nth_after_failure third (Nat.le_add_left 2 index)).symm.trans given
  have short : ("1 ) $".length : Int) ≤ ({} : Limits).maxSourceLength := by decide
  obtain ⟨error, front, same, begins, viable, blamed⟩ := error_at_first_impossible_token short few failed nofun
  cases same
  match front with
  | [] =>
    rw [List.length_nil, first] at blamed
    cases blamed.2.1
  | [token] =>
    rw [List.length_singleton, second] at blamed
    cases first.symm.trans (begins 0 (by simp)).1
    exact ⟨failed, viable, blamed.2.2.2⟩
  | _ :: _ :: more =>
    rw [List.length_cons, List.length_cons, nth_after_failure third (Nat.le_add_left 2 more.length)] at blamed
    cases blamed.1

end Sources

end CommonExpr.Proofs.FirstImpossibleToken

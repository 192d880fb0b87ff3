import CommonExpr.Proofs.ParserParametricity

/-! The parser of expressions is put together from few steps. A relation between parsers
that holds between each step and itself and that sequencing keeps holds between all that is
put together from related parsers of sub-expressions. -/

namespace CommonExpr.Proofs.ParserRelation
open CommonExpr.Parser ParserParametricity

/-- What sequencing keeps, and what every single step has to itself. -/
structure Compositional (Related : {α : Type} → Parser α → Parser α → Prop) : Prop where
  bind {α β : Type} {first second : Parser α} {next other : α → Parser β} (start : Related first second)
    (continues : ∀ value, Related (next value) (other value)) : Related (first >>= next) (second >>= other)
  pure {α : Type} (value : α) : Related (pure value) (pure value)
  fail {α : Type} {cause : SyntaxCause} (plain : cause ≠ .nestedTooDeeply) : Related (fail cause : Parser α) (fail cause)
  broken {α : Type} (cause : Breakdown) : Related (failWith (.broken cause) : Parser α) (failWith (.broken cause))
  unexpected {α : Type} : Related (unexpected : Parser α) unexpected
  get : Related (get : Parser Reader) get
  advance : Related advance advance
  startsField : Related startsField startsField
  startsQualifiedStruct : Related startsQualifiedStruct startsQualifiedStruct

/-- A property of one parser, as a relation of a parser to itself. -/
def Alone (Holds : {α : Type} → Parser α → Prop) {α : Type} (first _second : Parser α) : Prop :=
  Holds first

theorem Alone.self {Holds : {α : Type} → Parser α → Prop} {α : Type} {parser : Parser α} (alone : Alone Holds parser parser) :
    Holds parser :=
  alone

/-- The steps that hand out a token need only be related for one and the same. -/
theorem Compositional.parametric {Related : {α : Type} → Parser α → Parser α → Prop} (law : Compositional Related) :
    Parametric Related where
  bind := law.bind
  pure := law.pure
  fail := law.fail
  broken := law.broken
  unexpected := law.unexpected
  steps := law.bind law.get fun reader => law.pure reader.bound
  inspect _ _ each := law.bind law.get fun reader => each reader.current reader.current (.refl _)
  advance each := law.bind law.advance fun token => each token token (.refl token)
  startsField := law.startsField
  startsQualifiedStruct := law.startsQualifiedStruct

end CommonExpr.Proofs.ParserRelation

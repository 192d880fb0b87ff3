import CommonExpr.Command.Arguments
import CommonExpr.Command.Request
import CommonExpr.Command.Run
import CommonExpr.Command.Topic
import CommonExpr.Document.Content
import CommonExpr.Document.Cursor
import CommonExpr.Document.Meaning
import CommonExpr.Document.Node
import CommonExpr.Document.Printer
import CommonExpr.Document.Scalar
import CommonExpr.Document.Style
import CommonExpr.Document.Timestamp
import CommonExpr.Document.Token
import CommonExpr.Double.Arithmetic
import CommonExpr.Double.Basic
import CommonExpr.Double.Bits
import CommonExpr.Double.Decimal
import CommonExpr.Evaluation.Bindings
import CommonExpr.Evaluation.Evaluate
import CommonExpr.Evaluation.Operators
import CommonExpr.Failure
import CommonExpr.Json.Basic
import CommonExpr.Json.Printer
import CommonExpr.Limits
import CommonExpr.Main
import CommonExpr.Number.Basic
import CommonExpr.Number.Text
import CommonExpr.Pattern.Basic
import CommonExpr.Pattern.Branch
import CommonExpr.Pattern.Fold
import CommonExpr.Pattern.Marks
import CommonExpr.Pattern.Matcher
import CommonExpr.Pattern.Reader
import CommonExpr.Pattern.Search
import CommonExpr.Program
import CommonExpr.Proofs.ActivityRules
import CommonExpr.Proofs.AlikeTokens
import CommonExpr.Proofs.CalendarDates
import CommonExpr.Proofs.CutTexts
import CommonExpr.Proofs.DeepEquality
import CommonExpr.Proofs.DocumentValues
import CommonExpr.Proofs.DoubleLiterals
import CommonExpr.Proofs.DoubleTexts
import CommonExpr.Proofs.EnclosedSources
import CommonExpr.Proofs.EqualValues
import CommonExpr.Proofs.EscapedLiterals
import CommonExpr.Proofs.EvaluationBreakdowns
import CommonExpr.Proofs.EvaluationClosure
import CommonExpr.Proofs.Extremes
import CommonExpr.Proofs.FailedScans
import CommonExpr.Proofs.FieldQuestions
import CommonExpr.Proofs.FirstImpossibleToken
import CommonExpr.Proofs.FreeNames
import CommonExpr.Proofs.Grammar
import CommonExpr.Proofs.InsignificantSpace
import CommonExpr.Proofs.IntegerLiterals
import CommonExpr.Proofs.IntegerNumerals
import CommonExpr.Proofs.IntegerTexts
import CommonExpr.Proofs.JsonMembers
import CommonExpr.Proofs.KeyAgreement
import CommonExpr.Proofs.KeyTexts
import CommonExpr.Proofs.LeadingDots
import CommonExpr.Proofs.LexemeEnding
import CommonExpr.Proofs.LexemeExtent
import CommonExpr.Proofs.LexemeStops
import CommonExpr.Proofs.LibraryBreakdowns
import CommonExpr.Proofs.Lookahead
import CommonExpr.Proofs.LookaheadBuffer
import CommonExpr.Proofs.LoopCoherence
import CommonExpr.Proofs.LoopFolds
import CommonExpr.Proofs.MapKeys
import CommonExpr.Proofs.MapLiterals
import CommonExpr.Proofs.MapOrder
import CommonExpr.Proofs.NameLookahead
import CommonExpr.Proofs.NearestDefinition
import CommonExpr.Proofs.NearestDouble
import CommonExpr.Proofs.NestingAllowance
import CommonExpr.Proofs.NestingThreshold
import CommonExpr.Proofs.NewlineConventions
import CommonExpr.Proofs.NumberPlaces
import CommonExpr.Proofs.OperatorAgreement
import CommonExpr.Proofs.OperatorBreakdowns
import CommonExpr.Proofs.OperatorFailures
import CommonExpr.Proofs.OverlayScopes
import CommonExpr.Proofs.OverlongIntegers
import CommonExpr.Proofs.PairedRuns
import CommonExpr.Proofs.ParserActivity
import CommonExpr.Proofs.ParserCompleteness
import CommonExpr.Proofs.ParserFootprint
import CommonExpr.Proofs.ParserImage
import CommonExpr.Proofs.ParserParametricity
import CommonExpr.Proofs.ParserProgress
import CommonExpr.Proofs.ParserRelation
import CommonExpr.Proofs.ParserSoundness
import CommonExpr.Proofs.ParserTermination
import CommonExpr.Proofs.PrintedDocuments
import CommonExpr.Proofs.Recognition
import CommonExpr.Proofs.ReorderedLibrary
import CommonExpr.Proofs.ReorderedOperators
import CommonExpr.Proofs.ReorderedValues
import CommonExpr.Proofs.RoundedIntegers
import CommonExpr.Proofs.ScopeRefinement
import CommonExpr.Proofs.ScopeRestoration
import CommonExpr.Proofs.SeparatedTexts
import CommonExpr.Proofs.ShortestDecimal
import CommonExpr.Proofs.SourceTokens
import CommonExpr.Proofs.Spelling
import CommonExpr.Proofs.TextBreakdowns
import CommonExpr.Proofs.TokenFootprint
import CommonExpr.Proofs.TokenPlaces
import CommonExpr.Proofs.TokenReader
import CommonExpr.Proofs.TokenSequence
import CommonExpr.Proofs.Tokenization
import CommonExpr.Proofs.Transcripts
import CommonExpr.Proofs.TreeInduction
import CommonExpr.Proofs.TreeOutlines
import CommonExpr.Proofs.TreePrinter
import CommonExpr.Proofs.ValueOrder
import CommonExpr.Proofs.ViablePrefix
import CommonExpr.Proofs.WellFormedTree
import CommonExpr.Proofs.WellKeyedOperators
import CommonExpr.Proofs.WellKeyedRuns
import CommonExpr.Registry.Basic
import CommonExpr.Registry.Definition
import CommonExpr.Registry.Standard
import CommonExpr.Text.Blank
import CommonExpr.Text.Case
import CommonExpr.Text.Digit
import CommonExpr.Text.Identifier
import CommonExpr.Text.Letter
import CommonExpr.Text.Name.Alias
import CommonExpr.Text.Name.Ancient
import CommonExpr.Text.Name.Letters
import CommonExpr.Text.Name.Lookup
import CommonExpr.Text.Name.Pictures
import CommonExpr.Text.Name.Syllables
import CommonExpr.Text.Name.Symbols
import CommonExpr.Text.Name.Words
import CommonExpr.Text.Printable
import CommonExpr.Text.Quoted
import CommonExpr.Text.Runs
import CommonExpr.Text.Search
import CommonExpr.Text.Word
import CommonExpr.Token.Basic
import CommonExpr.Token.Escape
import CommonExpr.Token.Lexeme
import CommonExpr.Token.Lexer
import CommonExpr.Token.Listing
import CommonExpr.Token.Stream
import CommonExpr.Tree.Basic
import CommonExpr.Tree.Literal
import CommonExpr.Tree.Outline
import CommonExpr.Tree.Parser
import CommonExpr.Tree.Same
import CommonExpr.Tree.SyntaxError
import CommonExpr.Value.Basic
import CommonExpr.Value.Convert
import CommonExpr.Value.Display
import CommonExpr.Value.Equality
import CommonExpr.Value.Format
import CommonExpr.Value.Key
import CommonExpr.Value.Membership
import CommonExpr.Value.Moment
import CommonExpr.Value.Order

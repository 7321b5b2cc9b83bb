import Parsing.Stream
import Parsing.ParseError
import Parsing.Monoid
import Parsing.Parser.Basic
import Parsing.Parser.Greedy
import Parsing.Parser.Text
import Parsing.Error
import Parsing.Grammar.Repeated
import Parsing.Grammar.Field
import Parsing.Grammar.Token
import Parsing.Grammar.Registry
import Parsing.Expr.Basic
import Parsing.Expr.Parser
import Parsing.Unicode.GraphemeExtend
import Parsing.Unicode.Printable
import Parsing.Text.Quoted
import Parsing.Decimal.Shortest
import Parsing.JsonText.Error
import Parsing.JsonText.Reader
import Parsing.JsonText.Number
import Parsing.JsonText.Decode
import Parsing.Demo.Config
import Parsing.JsonText.Write
import Parsing.Demo.Outcome
import Parsing.Cli.Similarity
import Parsing.Cli.Args
import Parsing.Cli.Usage
import Parsing.Cli.Run
import Parsing.Main
import Parsing.Proofs.Repetition
import Parsing.Proofs.Combinators
import Parsing.Proofs.Position
import Parsing.Proofs.WellFormed
import Parsing.Proofs.FatalPropagation
import Parsing.Proofs.ConsumedText
import Parsing.Proofs.Shift
import Parsing.Proofs.Laws
import Parsing.Proofs.Literals
import Parsing.Proofs.Unrolling
import Parsing.Proofs.KeywordStreams
import Parsing.Proofs.ClassRuns
import Parsing.Proofs.WordTokens
import Parsing.Proofs.TaggedTokens
import Parsing.Proofs.FieldDeclarations
import Parsing.Proofs.Cursor
import Parsing.Proofs.AllOrNone

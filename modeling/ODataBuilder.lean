import ODataBuilder.Json.Value
import ODataBuilder.Number.Binary
import ODataBuilder.Number.Shortest
import ODataBuilder.Json.Reader
import ODataBuilder.Value.Decimal
import ODataBuilder.Calendar.Date
import ODataBuilder.Calendar.Time
import ODataBuilder.Calendar.Moment
import ODataBuilder.Calendar.Span
import ODataBuilder.Value.Basic
import ODataBuilder.Text.Quoted
import ODataBuilder.Value.Literal
import ODataBuilder.Text.Blank
import ODataBuilder.Path.Basic
import ODataBuilder.Expr.Operator
import ODataBuilder.Expr.Method
import ODataBuilder.Expr.Error
import ODataBuilder.Expr.Basic
import ODataBuilder.Expr.Visit
import ODataBuilder.Expr.Serializer
import ODataBuilder.Text.RangeTable
import ODataBuilder.Text.Alphabetic
import ODataBuilder.Text.Numeric
import ODataBuilder.Text.Cased
import ODataBuilder.Text.IdentChar
import ODataBuilder.Text.Grapheme
import ODataBuilder.Text.CaseMap
import ODataBuilder.Entity.CaseRule
import ODataBuilder.Entity.Shape
import ODataBuilder.Entity.Samples
import ODataBuilder.Expr.Factory
import ODataBuilder.Text.Percent
import ODataBuilder.Query.Params
import ODataBuilder.Query.Order
import ODataBuilder.Query.Builder
import ODataBuilder.Url.Error
import ODataBuilder.Url.Encode
import ODataBuilder.Url.Address
import ODataBuilder.Url.Punycode
import ODataBuilder.Text.Normalization
import ODataBuilder.Text.BidiClass
import ODataBuilder.Text.JoiningType
import ODataBuilder.Text.CombiningMark
import ODataBuilder.Url.IdnaMapping
import ODataBuilder.Url.Idna
import ODataBuilder.Url.Host
import ODataBuilder.Url.Basic
import ODataBuilder.Url.Parser
import ODataBuilder.Text.Printable
import ODataBuilder.Text.ExtendMark
import ODataBuilder.Text.Escaped
import ODataBuilder.Number.Compact
import ODataBuilder.Json.Decode
import ODataBuilder.Json.Normalized
import ODataBuilder.Client.Config
import ODataBuilder.Client.ConfigReader
import ODataBuilder.Client.Request
import ODataBuilder.Decl.Token
import ODataBuilder.Decl.Scan
import ODataBuilder.Decl.Literal
import ODataBuilder.Decl.TreeParser
import ODataBuilder.Decl.Grammar
import ODataBuilder.Decl.Item
import ODataBuilder.Number.Exact
import ODataBuilder.Text.Similarity
import ODataBuilder.Entity.Options
import ODataBuilder.Entity.Derivation
import ODataBuilder.Proofs.Printing
import ODataBuilder.Proofs.Tokens
import ODataBuilder.Proofs.Grouping
import ODataBuilder.Proofs.BuilderSession
import ODataBuilder.Proofs.QueryString
import ODataBuilder.Proofs.TextLiteral
import ODataBuilder.Proofs.StackFaults
import ODataBuilder.Proofs.Conjunction
import ODataBuilder.Proofs.EntityExpansion
import ODataBuilder.Proofs.PathText
import ODataBuilder.Proofs.WalkOrder
import ODataBuilder.Proofs.TerminalCalls
import ODataBuilder.Proofs.JsonStrings
import ODataBuilder.Proofs.LambdaVariable

import Schemata.Decimal.Binary64
import Schemata.Decimal.Shortest
import Schemata.Decimal.Layout
import Schemata.Decimal.Parse
import Schemata.Text.Unicode.Ranges
import Schemata.Text.Unicode.WhiteSpace
import Schemata.Text.Unicode.Alphabetic
import Schemata.Text.Unicode.Numeric
import Schemata.Text.Unicode.Word
import Schemata.Text.Unicode.Case
import Schemata.Text.Unicode.Emoji
import Schemata.Text.Unicode.Joining
import Schemata.Text.Unicode.Width
import Schemata.Text.Escape
import Schemata.Json.Value
import Schemata.Json.Print
import Schemata.Json.Fault
import Schemata.Json.Shape
import Schemata.Json.Conform
import Schemata.Json.Cursor
import Schemata.Json.Scalar
import Schemata.Json.Reader
import Schemata.Json.Pointer
import Schemata.Json.Patch
import Schemata.Json.Diff
import Schemata.Schema.NameMap
import Schemata.Schema.Basic
import Schemata.Json.PatchRead
import Schemata.Schema.Json
import Schemata.Schema.Change
import Schemata.Json.History
import Schemata.Schema.Patch
import Schemata.Schema.Types
import Schemata.Schema.Extensions
import Schemata.Text.Source
import Schemata.Sql.Token
import Schemata.Sql.Lexer
import Schemata.Sql.Statement
import Schemata.Sql.Parser
import Schemata.Parse.Problem
import Schemata.Parse.Chunks
import Schemata.Sql.Lower
import Schemata.Sql.Front
import Schemata.Render.Ddl
import Schemata.Render.Summary
import Schemata.Text.Search
import Schemata.Parse.Format
import Schemata.Read
import Schemata.Text.Unicode.Uppercase
import Schemata.Rails.Lexer
import Schemata.Rails.Parser
import Schemata.Rails.Inflect
import Schemata.Rails.Build
import Schemata.Prisma.Lexer
import Schemata.Prisma.Parser
import Schemata.Prisma.Lower
import Schemata.Tbls.Document
import Schemata.Tbls.Convert
import Schemata.Library
import Schemata.Proofs.PointerSegments
import Schemata.Proofs.PatchLocality
import Schemata.Proofs.JsonEquality
import Schemata.Proofs.DiffLayout
import Schemata.Proofs.DiffApply
import Schemata.Proofs.HistoryReplay
import Schemata.Proofs.HistoryRoundTrip
import Schemata.Proofs.ChangeClassification
import Schemata.Proofs.ChunkWindows
import Schemata.Proofs.FatalProblems
import Schemata.Proofs.Fuel
import Schemata.Proofs.SqlLexerFuel
import Schemata.Proofs.SqlParserRuns
import Schemata.Proofs.SqlParserFuel
import Schemata.Proofs.RailsLexerFuel
import Schemata.Proofs.RailsParserRuns
import Schemata.Proofs.RailsParserFuel
import Schemata.Proofs.PrismaLexerFuel
import Schemata.Proofs.PrismaParserRuns
import Schemata.Proofs.PrismaParserFuel
import Schemata.Proofs.JsonScalarFuel
import Schemata.Proofs.JsonReaderFuel
import Schemata.Proofs.FrontEndFuel
import Schemata.Proofs.AddUpsert
import Schemata.Proofs.NamedEntries
import Schemata.Proofs.StatementsRead
import Schemata.Proofs.PrimaryKeyFlags
import Schemata.Proofs.RelationshipBacking
import Schemata.Proofs.PrismaRelationships
import Schemata.Proofs.SchemaJsonRoundTrip
import Schemata.Proofs.PrismaCardinality
import Schemata.Proofs.InflectionRoundTrip
import Schemata.Proofs.IndexDefinitions
import Schemata.Proofs.DisplayWidth
import Schemata.Proofs.SummaryColumns
import Schemata.Proofs.CheckNames
import Schemata.Proofs.QuotedTokens
import Schemata.Proofs.TypeNameNormalForm
import Schemata.Proofs.DefaultTruncation

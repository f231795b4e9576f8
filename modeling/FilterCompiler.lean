import FilterCompiler.Calendar
import FilterCompiler.Calendar.IsoText
import FilterCompiler.Compiler
import FilterCompiler.Complaint
import FilterCompiler.DefinitionFile
import FilterCompiler.DefinitionFile.Problem
import FilterCompiler.DefinitionFile.Safety
import FilterCompiler.DefinitionFile.Shape
import FilterCompiler.Dialect
import FilterCompiler.Dialect.Extension
import FilterCompiler.Fault
import FilterCompiler.Folder
import FilterCompiler.Given
import FilterCompiler.Graph
import FilterCompiler.Graph.Builder
import FilterCompiler.Graph.Data
import FilterCompiler.Graph.Entries
import FilterCompiler.Graph.Equality
import FilterCompiler.Graph.Text
import FilterCompiler.Json
import FilterCompiler.Json.Encoding
import FilterCompiler.Json.Reader
import FilterCompiler.Launch
import FilterCompiler.Literal
import FilterCompiler.Log
import FilterCompiler.Main
import FilterCompiler.Markup.Cursor
import FilterCompiler.Markup.Data
import FilterCompiler.Markup.Node
import FilterCompiler.Markup.Reader
import FilterCompiler.Markup.Refusal
import FilterCompiler.Markup.Scalar
import FilterCompiler.Markup.ScalarText
import FilterCompiler.Markup.Stamp
import FilterCompiler.Markup.Token
import FilterCompiler.Markup.Token.Lexer
import FilterCompiler.Markup.Token.Tag
import FilterCompiler.NameTable
import FilterCompiler.Number.Binary64
import FilterCompiler.Number.Decimal
import FilterCompiler.Number.Integer
import FilterCompiler.Number.Numeral
import FilterCompiler.Number.Scientific
import FilterCompiler.Number.Shortest
import FilterCompiler.Proofs.Circularity
import FilterCompiler.Proofs.Compilation
import FilterCompiler.Proofs.Condition
import FilterCompiler.Proofs.Expansion
import FilterCompiler.Proofs.Faults
import FilterCompiler.Proofs.Formula
import FilterCompiler.Proofs.Lexeme
import FilterCompiler.Proofs.Meaning
import FilterCompiler.Proofs.NumberText
import FilterCompiler.Proofs.Parsing
import FilterCompiler.Proofs.Pipeline
import FilterCompiler.Proofs.Plainness
import FilterCompiler.Proofs.Reader
import FilterCompiler.Proofs.RoundTrip
import FilterCompiler.Proofs.Separation
import FilterCompiler.Proofs.Spelling
import FilterCompiler.Proofs.Statement
import FilterCompiler.Proofs.Twins
import FilterCompiler.Proofs.Walk
import FilterCompiler.Proofs.Wording
import FilterCompiler.Query
import FilterCompiler.RawForm
import FilterCompiler.RawForm.Extension
import FilterCompiler.RawForm.Problem
import FilterCompiler.Registry
import FilterCompiler.Scope
import FilterCompiler.Service
import FilterCompiler.Service.BodyLimit
import FilterCompiler.Service.BodyReader
import FilterCompiler.Service.CompileRequest
import FilterCompiler.Service.Deployment
import FilterCompiler.Service.Host
import FilterCompiler.Service.Message
import FilterCompiler.Settings
import FilterCompiler.Settings.Assignment
import FilterCompiler.Sql.Parser
import FilterCompiler.Sql.Expression
import FilterCompiler.Sql.Phrase
import FilterCompiler.Sql.Query
import FilterCompiler.Sql.Statement
import FilterCompiler.Sql.Token
import FilterCompiler.Text.Base64
import FilterCompiler.Text.Blank
import FilterCompiler.Text.Case
import FilterCompiler.Text.Decoded
import FilterCompiler.Text.Digit
import FilterCompiler.Text.Escaped
import FilterCompiler.Text.Hex
import FilterCompiler.Text.Printable
import FilterCompiler.Text.Quoted
import FilterCompiler.Text.Ranges
import FilterCompiler.Text.Word
import FilterCompiler.Validator
import FilterCompiler.Proofs.Framing
import FilterCompiler.Proofs.Precedence
import FilterCompiler.Proofs.Inlining
import FilterCompiler.Proofs.Steps
import FilterCompiler.Proofs.Grammar
import FilterCompiler.Proofs.Acceptance
import FilterCompiler.Proofs.Agreement
import FilterCompiler.Proofs.Backslash
import FilterCompiler.Proofs.Copying
import FilterCompiler.Proofs.Unsharing
import FilterCompiler.Proofs.PlainReading
import FilterCompiler.Proofs.Sharing
import FilterCompiler.Proofs.Procedure
import FilterCompiler.Proofs.SelfContainment
import FilterCompiler.Proofs.Lookups
import FilterCompiler.Proofs.Answer
import FilterCompiler.Proofs.Override
import FilterCompiler.Proofs.Filling
import FilterCompiler.Proofs.FreshFields
import FilterCompiler.Proofs.Masking
import FilterCompiler.Proofs.Conservativity
import FilterCompiler.Proofs.Culprit
import FilterCompiler.Proofs.CustomTags
import FilterCompiler.Proofs.Membership
import FilterCompiler.Proofs.NumericLiteral
import FilterCompiler.Proofs.LiteralText
import FilterCompiler.Proofs.Shape
import FilterCompiler.Proofs.Delivery
import FilterCompiler.Proofs.Nesting
import FilterCompiler.Proofs.Loading
import FilterCompiler.Proofs.Anchors
import FilterCompiler.Proofs.LoadFaults
import FilterCompiler.Proofs.BodyLimit
import FilterCompiler.Proofs.Lineage
import FilterCompiler.Proofs.SharedSlot

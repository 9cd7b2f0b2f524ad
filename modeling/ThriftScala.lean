import ThriftScala.Cli.Arguments
import ThriftScala.Cli.ColorTable
import ThriftScala.Cli.Handler
import ThriftScala.Cli.Markup
import ThriftScala.Cli.Run
import ThriftScala.Cli.Style
import ThriftScala.Cli.Table
import ThriftScala.Decimal.Double
import ThriftScala.Decimal.Shortest
import ThriftScala.Entries
import ThriftScala.Files
import ThriftScala.Fragment.Library
import ThriftScala.Fragment.Model
import ThriftScala.Fragment.Render
import ThriftScala.Fragment.Source
import ThriftScala.Fragment.Tree
import ThriftScala.Generate
import ThriftScala.Json.Basic
import ThriftScala.Json.Reader
import ThriftScala.Json.Writer
import ThriftScala.Main
import ThriftScala.Naming
import ThriftScala.Proofs.Cli.Arguments
import ThriftScala.Proofs.Cli.EntryPoints
import ThriftScala.Proofs.Cli.Output
import ThriftScala.Proofs.Entries
import ThriftScala.Proofs.Files
import ThriftScala.Proofs.Fragment.Acceptance
import ThriftScala.Proofs.Fragment.Data
import ThriftScala.Proofs.Fragment.Failure
import ThriftScala.Proofs.Fragment.Layout
import ThriftScala.Proofs.Fragment.Library
import ThriftScala.Proofs.Fragment.Meaning
import ThriftScala.Proofs.Fragment.Nesting
import ThriftScala.Proofs.Fragment.Shape
import ThriftScala.Proofs.Fragment.Unmentioned
import ThriftScala.Proofs.Json.RoundTrip
import ThriftScala.Proofs.Json.Shape
import ThriftScala.Proofs.Json.Tokens
import ThriftScala.Proofs.Naming.Kinds
import ThriftScala.Proofs.Naming.Letters
import ThriftScala.Proofs.Naming.NormalForm
import ThriftScala.Proofs.Naming.Settled
import ThriftScala.Proofs.Outcome
import ThriftScala.Proofs.Registry.Names
import ThriftScala.Proofs.Registry.Reachable
import ThriftScala.Proofs.Registry.Refusal
import ThriftScala.Proofs.Registry.Undo
import ThriftScala.Proofs.Scala.Assembly
import ThriftScala.Proofs.Scala.Codable
import ThriftScala.Proofs.Scala.ConstantLiterals
import ThriftScala.Proofs.Scala.DefaultPackage
import ThriftScala.Proofs.Scala.Descriptors
import ThriftScala.Proofs.Scala.EnumLookups
import ThriftScala.Proofs.Scala.EnumReader
import ThriftScala.Proofs.Scala.EnumScope
import ThriftScala.Proofs.Scala.EnumText
import ThriftScala.Proofs.Scala.Expressions
import ThriftScala.Proofs.Scala.FieldIds
import ThriftScala.Proofs.Scala.Hygiene
import ThriftScala.Proofs.Scala.Imports
import ThriftScala.Proofs.Scala.Lexical
import ThriftScala.Proofs.Scala.MemberNames
import ThriftScala.Proofs.Scala.Outline
import ThriftScala.Proofs.Scala.Parameters
import ThriftScala.Proofs.Scala.Shapes
import ThriftScala.Proofs.Scala.StructText
import ThriftScala.Proofs.Scala.TextLiterals
import ThriftScala.Proofs.Scala.Totality
import ThriftScala.Proofs.Scala.TypeTexts
import ThriftScala.Proofs.Scala.Variables
import ThriftScala.Proofs.Scala.WellFormed
import ThriftScala.Proofs.Scala.WireCalls
import ThriftScala.Proofs.Scala.WireContract
import ThriftScala.Proofs.Schema.Acceptance
import ThriftScala.Proofs.Schema.AsciiNames
import ThriftScala.Proofs.Schema.Description
import ThriftScala.Proofs.Schema.FieldIds
import ThriftScala.Proofs.Schema.Lossless
import ThriftScala.Proofs.Schema.Normalize
import ThriftScala.Proofs.Schema.Reads
import ThriftScala.Proofs.Schema.TextNames
import ThriftScala.Proofs.Settings.Languages
import ThriftScala.Proofs.Settings.Layering
import ThriftScala.Proofs.Settings.Loaded
import ThriftScala.Proofs.Settings.Saving
import ThriftScala.Proofs.Text.Case
import ThriftScala.Proofs.Text.Reading
import ThriftScala.Proofs.Text.Tidy
import ThriftScala.Proofs.Text.UpperCase
import ThriftScala.Registry
import ThriftScala.Scala.Codec
import ThriftScala.Scala.FieldDecl
import ThriftScala.Scala.Fragments.Services
import ThriftScala.Scala.Fragments.Types
import ThriftScala.Scala.GenerationError
import ThriftScala.Scala.Generator
import ThriftScala.Scala.Keyword
import ThriftScala.Scala.Level
import ThriftScala.Scala.Literal
import ThriftScala.Scala.Models
import ThriftScala.Scala.TypeExpr
import ThriftScala.Scala.Unmapped
import ThriftScala.Schema.Document
import ThriftScala.Schema.DocumentError
import ThriftScala.Schema.FieldType
import ThriftScala.Schema.Layout
import ThriftScala.Settings.Basic
import ThriftScala.Settings.Check
import ThriftScala.Settings.Custom
import ThriftScala.Settings.Layers
import ThriftScala.Text.Blank
import ThriftScala.Text.Case
import ThriftScala.Text.CaseTable
import ThriftScala.Text.Cell
import ThriftScala.Text.CellTable
import ThriftScala.Text.Digit
import ThriftScala.Text.Emoji
import ThriftScala.Text.EmojiTable
import ThriftScala.Text.Ident
import ThriftScala.Text.IdentTable
import ThriftScala.Text.Letter
import ThriftScala.Text.Line
import ThriftScala.Text.Name
import ThriftScala.Text.NameTable
import ThriftScala.Text.PrintableTable
import ThriftScala.Text.Quoted
import ThriftScala.Text.Ranges
import ThriftScala.Text.Split
import ThriftScala.Text.Surrogate
import ThriftScala.Text.Tabs
import ThriftScala.Text.Tidy

import SystemLoops.Analysis
import SystemLoops.Arena
import SystemLoops.Batch
import SystemLoops.Canonical
import SystemLoops.Classification
import SystemLoops.Cli.Command
import SystemLoops.Cli.Run
import SystemLoops.Cli.Session
import SystemLoops.Config.Basic
import SystemLoops.Config.Decode
import SystemLoops.Config.ImportPath
import SystemLoops.Config.Load
import SystemLoops.Config.Setting
import SystemLoops.Diagnostic
import SystemLoops.Discovery
import SystemLoops.Display
import SystemLoops.Document
import SystemLoops.Document.Decode
import SystemLoops.Document.Encode
import SystemLoops.Document.Schema
import SystemLoops.Dump
import SystemLoops.Failure
import SystemLoops.Fault
import SystemLoops.FileTree
import SystemLoops.Flags
import SystemLoops.Format.Blake2b
import SystemLoops.Format.Cbor
import SystemLoops.Format.Dotenv
import SystemLoops.Format.Double
import SystemLoops.Format.Json
import SystemLoops.Format.JsonParse
import SystemLoops.Format.Shortest
import SystemLoops.Format.Toml.Plain
import SystemLoops.Format.Toml.Quoted
import SystemLoops.Format.Toml.Read
import SystemLoops.Format.Toml.Table
import SystemLoops.Format.Value
import SystemLoops.Format.Yaml.Fold
import SystemLoops.Format.Yaml.Mark
import SystemLoops.Format.Yaml.Node
import SystemLoops.Format.Yaml.Read
import SystemLoops.Format.Yaml.Scalar
import SystemLoops.Format.Yaml.Token
import SystemLoops.Format.Yaml.Write
import SystemLoops.Generated.Assembly
import SystemLoops.Generated.Layout
import SystemLoops.Generated.Unit
import SystemLoops.Identifier
import SystemLoops.Log
import SystemLoops.Loop
import SystemLoops.Main
import SystemLoops.Method
import SystemLoops.Node
import SystemLoops.Output
import SystemLoops.Schedule
import SystemLoops.Signature
import SystemLoops.Source.Columns
import SystemLoops.Source.CommentText
import SystemLoops.Source.Constraint
import SystemLoops.Source.Doc.Block
import SystemLoops.Source.Doc.Inline
import SystemLoops.Source.Doc.Write
import SystemLoops.Source.Imports
import SystemLoops.Source.Indent
import SystemLoops.Source.Lexeme
import SystemLoops.Source.LineMap
import SystemLoops.Source.Parse.Cursor
import SystemLoops.Source.Parse.Expr
import SystemLoops.Source.Parse.File
import SystemLoops.Source.Parse.Statement
import SystemLoops.Source.Parse.Type
import SystemLoops.Source.Print.Comment
import SystemLoops.Source.Print.Constraints
import SystemLoops.Source.Print.Expr
import SystemLoops.Source.Print.Statement
import SystemLoops.Source.Print.Writer
import SystemLoops.Source.Scan
import SystemLoops.Source.Scope
import SystemLoops.Source.ScopeDepth
import SystemLoops.Source.Stream
import SystemLoops.Source.Token
import SystemLoops.Source.Tree
import SystemLoops.Source.TypeEntries
import SystemLoops.Text.Basic
import SystemLoops.Text.Numeral
import SystemLoops.Text.Path
import SystemLoops.Text.Quote
import SystemLoops.Text.Rune
import SystemLoops.Text.Spelling
import SystemLoops.Text.Unicode.Case
import SystemLoops.Text.Unicode.Category
import SystemLoops.Walk
import SystemLoops.Watch
import SystemLoops.World
import SystemLoops.World.Pool
import SystemLoops.World.Query
import SystemLoops.Proofs.ArenaInvariant
import SystemLoops.Proofs.Growth
import SystemLoops.Proofs.WalkGrowth
import SystemLoops.Proofs.Rendering
import SystemLoops.Proofs.Expansion
import SystemLoops.Proofs.Validation
import SystemLoops.Proofs.Forest
import SystemLoops.Proofs.SharedQueries
import SystemLoops.Proofs.Digits
import SystemLoops.Proofs.Quotation
import SystemLoops.Proofs.CanonicalForm
import SystemLoops.Proofs.JsonText
import SystemLoops.Proofs.FieldReading
import SystemLoops.Proofs.MethodText
import SystemLoops.Proofs.SchemaReading
import SystemLoops.Proofs.DescriptionSchema
import SystemLoops.Proofs.Reencoding
import SystemLoops.Proofs.ArenaLife
import SystemLoops.Proofs.Declarations
import SystemLoops.Proofs.StrictMode
import SystemLoops.Proofs.Unplaced
import SystemLoops.Proofs.UnplacedUnits
import SystemLoops.Proofs.PoolSlots
import SystemLoops.Proofs.WorldRun
import SystemLoops.Proofs.Recycling
import SystemLoops.Proofs.QueryBounds
import SystemLoops.Proofs.Outcomes
import SystemLoops.Proofs.Scheduling
import SystemLoops.Proofs.FreshOutput
import SystemLoops.Proofs.Allocation
import SystemLoops.Proofs.QueryEvaluation
import SystemLoops.Proofs.LoopBounds
import SystemLoops.Proofs.RenderOutcome
import SystemLoops.Proofs.BlockSpans
import SystemLoops.Proofs.BlankUses
import SystemLoops.Proofs.Operands
import SystemLoops.Proofs.Findings
import SystemLoops.Proofs.ReceiverShadowing
import SystemLoops.Proofs.StrictRuns
import SystemLoops.Proofs.Ceiling
import SystemLoops.Proofs.ImportBindings
import SystemLoops.Proofs.PartialWrites
import SystemLoops.Proofs.FirstLine
import SystemLoops.Proofs.LineNumbers
import SystemLoops.Proofs.TokenSpans
import SystemLoops.Proofs.LineLeads
import SystemLoops.Proofs.LedTokens
import SystemLoops.Proofs.Indentation
import SystemLoops.Proofs.CheckedAccess
import SystemLoops.Proofs.FirstDeclared
import SystemLoops.Proofs.Dedentation
import SystemLoops.Proofs.AssemblyFaults

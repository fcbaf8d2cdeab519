import FlowSpec.ApiVersion
import FlowSpec.Avro.Error
import FlowSpec.Avro.Export
import FlowSpec.Avro.Member
import FlowSpec.Avro.Parse
import FlowSpec.Avro.Schema
import FlowSpec.Avro.Tree
import FlowSpec.Avro.Value
import FlowSpec.Code
import FlowSpec.Command.Flag
import FlowSpec.Command.Help
import FlowSpec.Command.Run
import FlowSpec.Compiler
import FlowSpec.Config
import FlowSpec.Definition
import FlowSpec.Digest
import FlowSpec.Document.Declaration
import FlowSpec.Document.Entry
import FlowSpec.Document.Error
import FlowSpec.Document.File
import FlowSpec.Document.Outline
import FlowSpec.Document.Parse
import FlowSpec.Document.Reading
import FlowSpec.Duration
import FlowSpec.FileTree
import FlowSpec.Glob.Pattern
import FlowSpec.Glob.Search
import FlowSpec.Header
import FlowSpec.Import
import FlowSpec.Inference
import FlowSpec.Json
import FlowSpec.Json.Read
import FlowSpec.Lowering.Definition
import FlowSpec.Lowering.Error
import FlowSpec.Lowering.Types
import FlowSpec.Main
import FlowSpec.Package.Error
import FlowSpec.Package.Function
import FlowSpec.Package.Loader
import FlowSpec.Package.Merge
import FlowSpec.Package.Resolution
import FlowSpec.Package.Tree
import FlowSpec.Pair
import FlowSpec.Path
import FlowSpec.Report
import FlowSpec.Schedule
import FlowSpec.Scope
import FlowSpec.Scope.Validation
import FlowSpec.Service
import FlowSpec.Service.Edit
import FlowSpec.State
import FlowSpec.State.Resolution
import FlowSpec.State.Validation
import FlowSpec.Step
import FlowSpec.Text.Boolean
import FlowSpec.Text.Distance
import FlowSpec.Text.LetterCase
import FlowSpec.Text.Number
import FlowSpec.Text.Order
import FlowSpec.Text.Printable
import FlowSpec.Text.Quoted
import FlowSpec.Text.Split
import FlowSpec.Type.Primitive
import FlowSpec.Type.Shape
import FlowSpec.Validation.Document
import FlowSpec.Validation.Service
import FlowSpec.Validation.Step
import FlowSpec.Version
import FlowSpec.Wit.Functions
import FlowSpec.Wit.Generate
import FlowSpec.Wit.Interface
import FlowSpec.Wit.Name
import FlowSpec.Wit.Types
import FlowSpec.Word
import FlowSpec.Yaml.Cursor
import FlowSpec.Yaml.Decode
import FlowSpec.Yaml.Document
import FlowSpec.Yaml.Fault
import FlowSpec.Yaml.Node
import FlowSpec.Yaml.Scalar
import FlowSpec.Yaml.Timestamp
import FlowSpec.Yaml.Token
import FlowSpec.Yaml.Token.Lexer
import FlowSpec.Yaml.Token.Scalar
import FlowSpec.Yaml.Token.Tag
import FlowSpec.Proofs.Avro.Definitions
import FlowSpec.Proofs.Avro.Failures
import FlowSpec.Proofs.Avro.Nesting
import FlowSpec.Proofs.Avro.Nullability
import FlowSpec.Proofs.Avro.Provenance
import FlowSpec.Proofs.Avro.Rendering
import FlowSpec.Proofs.Compiler.Development
import FlowSpec.Proofs.Compiler.Steps
import FlowSpec.Proofs.Compiler.Types
import FlowSpec.Proofs.Document.Duplicates
import FlowSpec.Proofs.Document.Members
import FlowSpec.Proofs.Document.Scan
import FlowSpec.Proofs.Header.Forms
import FlowSpec.Proofs.Header.Keys
import FlowSpec.Proofs.Import.Join
import FlowSpec.Proofs.Inference.Layout
import FlowSpec.Proofs.Inference.Recording
import FlowSpec.Proofs.Inference.Sources
import FlowSpec.Proofs.Inference.Spelling
import FlowSpec.Proofs.Inference.Typing
import FlowSpec.Proofs.Lowering.Document
import FlowSpec.Proofs.Lowering.Hoisting
import FlowSpec.Proofs.Lowering.Lines
import FlowSpec.Proofs.Lowering.ListNames
import FlowSpec.Proofs.Lowering.Services
import FlowSpec.Proofs.Lowering.Table
import FlowSpec.Proofs.Outcome
import FlowSpec.Proofs.Package.Adoption
import FlowSpec.Proofs.Package.Binding
import FlowSpec.Proofs.Package.Capture
import FlowSpec.Proofs.Package.Crawl
import FlowSpec.Proofs.Package.Functions
import FlowSpec.Proofs.Package.Graph
import FlowSpec.Proofs.Package.Idempotence
import FlowSpec.Proofs.Package.Injection
import FlowSpec.Proofs.Package.Listing
import FlowSpec.Proofs.Package.LoadOrder
import FlowSpec.Proofs.Package.Merge
import FlowSpec.Proofs.Package.Order
import FlowSpec.Proofs.Package.Recursion
import FlowSpec.Proofs.Package.Redeclaration
import FlowSpec.Proofs.Path
import FlowSpec.Proofs.Report.Indentation
import FlowSpec.Proofs.Schedule.Messages
import FlowSpec.Proofs.Scope.Alias
import FlowSpec.Proofs.Scope.AliasChain
import FlowSpec.Proofs.Scope.Declarations
import FlowSpec.Proofs.Scope.Hashability
import FlowSpec.Proofs.Scope.Ownership
import FlowSpec.Proofs.Scope.Reachability
import FlowSpec.Proofs.Scope.Sealing
import FlowSpec.Proofs.Scope.Settling
import FlowSpec.Proofs.Scope.Tree
import FlowSpec.Proofs.Scope.Validity
import FlowSpec.Proofs.Service.Edits
import FlowSpec.Proofs.Service.Traversal
import FlowSpec.Proofs.Service.Typing
import FlowSpec.Proofs.State.Coverage
import FlowSpec.Proofs.State.Joining
import FlowSpec.Proofs.State.Passes
import FlowSpec.Proofs.State.Pool
import FlowSpec.Proofs.State.Resolution
import FlowSpec.Proofs.State.Steps
import FlowSpec.Proofs.State.Validity
import FlowSpec.Proofs.Text.Lines
import FlowSpec.Proofs.Text.Splitting
import FlowSpec.Proofs.Text.Union
import FlowSpec.Proofs.Validation.Agreement
import FlowSpec.Proofs.Validation.Chains
import FlowSpec.Proofs.Validation.EndpointOrder
import FlowSpec.Proofs.Validation.Explanation
import FlowSpec.Proofs.Validation.ReportWording
import FlowSpec.Proofs.Validation.Signature
import FlowSpec.Proofs.Validation.Sketch
import FlowSpec.Proofs.Validation.Sources
import FlowSpec.Proofs.Validation.Uniformity
import FlowSpec.Proofs.Validation.Wording
import FlowSpec.Proofs.Wit.Closure
import FlowSpec.Proofs.Wit.Collisions
import FlowSpec.Proofs.Wit.Conventions
import FlowSpec.Proofs.Wit.Items
import FlowSpec.Proofs.Wit.Members
import FlowSpec.Proofs.Wit.Names
import FlowSpec.Proofs.Wit.StateNames

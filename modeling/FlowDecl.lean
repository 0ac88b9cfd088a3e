import FlowDecl.CommandLine.Arguments
import FlowDecl.CommandLine.Generate
import FlowDecl.CommandLine.Help
import FlowDecl.CommandLine.Introspect
import FlowDecl.CommandLine.Names
import FlowDecl.CommandLine.Options
import FlowDecl.CommandLine.Paths
import FlowDecl.CommandLine.Run
import FlowDecl.CommandLine.Session
import FlowDecl.CommandLine.Standard
import FlowDecl.CommandLine.Words
import FlowDecl.Decimal.Binary64
import FlowDecl.Decimal.Reading
import FlowDecl.Decimal.Shortest
import FlowDecl.Endpoint.Credentials
import FlowDecl.Endpoint.Fetch
import FlowDecl.Endpoint.Headers
import FlowDecl.Endpoint.Query
import FlowDecl.Endpoint.Standard
import FlowDecl.Files.Parents
import FlowDecl.Files.Path
import FlowDecl.Files.Tree
import FlowDecl.Flow.Declaration
import FlowDecl.Flow.Generate
import FlowDecl.Formatter.Concatenation
import FlowDecl.Formatter.Count
import FlowDecl.Formatter.Cut
import FlowDecl.Formatter.Edit.Escape
import FlowDecl.Formatter.Edit.Fault
import FlowDecl.Formatter.Edit.Instruction
import FlowDecl.Formatter.Edit.Listing
import FlowDecl.Formatter.Edit.Replacing
import FlowDecl.Formatter.Edit.Running
import FlowDecl.Formatter.Edit.Script
import FlowDecl.Formatter.Edit.State
import FlowDecl.Formatter.Edit.Trace
import FlowDecl.Formatter.Editor
import FlowDecl.Formatter.Filter
import FlowDecl.Formatter.Invocation
import FlowDecl.Formatter.Numerals
import FlowDecl.Formatter.OctetSet
import FlowDecl.Formatter.Outcome
import FlowDecl.Formatter.Pattern
import FlowDecl.Formatter.PatternText
import FlowDecl.Formatter.Printing
import FlowDecl.Formatter.Quoting
import FlowDecl.Formatter.Shell
import FlowDecl.Formatter.Shell.Arithmetic
import FlowDecl.Formatter.Shell.Builtins
import FlowDecl.Formatter.Shell.Condition
import FlowDecl.Formatter.Shell.Evaluation
import FlowDecl.Formatter.Shell.Expansion
import FlowDecl.Formatter.Shell.Fields
import FlowDecl.Formatter.Shell.Glob
import FlowDecl.Formatter.Shell.Grammar
import FlowDecl.Formatter.Shell.Redirecting
import FlowDecl.Formatter.Shell.Source
import FlowDecl.Formatter.Shell.State
import FlowDecl.Formatter.Shell.Syntax
import FlowDecl.Formatter.Shell.Words
import FlowDecl.Formatter.Sleep
import FlowDecl.Formatter.Standard
import FlowDecl.Formatter.Symbol
import FlowDecl.Formatter.Usage
import FlowDecl.Json.Display
import FlowDecl.Json.Reader
import FlowDecl.Json.Value
import FlowDecl.Json.Writer
import FlowDecl.Main
import FlowDecl.Mishap
import FlowDecl.Module.Build
import FlowDecl.Module.Engine
import FlowDecl.Module.Pipeline
import FlowDecl.Module.Template
import FlowDecl.Proofs.CommandLine.Deliveries
import FlowDecl.Proofs.CommandLine.FormatterFaults
import FlowDecl.Proofs.CommandLine.Generating
import FlowDecl.Proofs.CommandLine.GroupedNames
import FlowDecl.Proofs.CommandLine.LeftFiles
import FlowDecl.Proofs.CommandLine.NameSets
import FlowDecl.Proofs.CommandLine.ReadArguments
import FlowDecl.Proofs.CommandLine.Requests
import FlowDecl.Proofs.CommandLine.SavedDocument
import FlowDecl.Proofs.CommandLine.Sessions
import FlowDecl.Proofs.CommandLine.ShownPages
import FlowDecl.Proofs.Endpoint.FetchFaults
import FlowDecl.Proofs.Endpoint.HeaderMaps
import FlowDecl.Proofs.Endpoint.HeaderTexts
import FlowDecl.Proofs.Endpoint.SentHeaders
import FlowDecl.Proofs.Files.ParentDirectories
import FlowDecl.Proofs.Files.PathTexts
import FlowDecl.Proofs.Files.SoundTrees
import FlowDecl.Proofs.Files.Writing
import FlowDecl.Proofs.Flow.ClosedSchema
import FlowDecl.Proofs.Flow.Comments
import FlowDecl.Proofs.Flow.Contents
import FlowDecl.Proofs.Flow.Decoding
import FlowDecl.Proofs.Flow.DepthGuard
import FlowDecl.Proofs.Flow.Descriptions
import FlowDecl.Proofs.Flow.DistinctNames
import FlowDecl.Proofs.Flow.Erasure
import FlowDecl.Proofs.Flow.FieldOrder
import FlowDecl.Proofs.Flow.Generation
import FlowDecl.Proofs.Flow.IgnoredTypes
import FlowDecl.Proofs.Flow.MemberOrder
import FlowDecl.Proofs.Flow.Members
import FlowDecl.Proofs.Flow.ReferenceTexts
import FlowDecl.Proofs.Flow.References
import FlowDecl.Proofs.Flow.Unambiguity
import FlowDecl.Proofs.Flow.UnusableNames
import FlowDecl.Proofs.Formatter.Results
import FlowDecl.Proofs.Json.PlainText
import FlowDecl.Proofs.Json.RoundTrip
import FlowDecl.Proofs.Json.Tokens
import FlowDecl.Proofs.Module.KeptFiles
import FlowDecl.Proofs.Module.ModuleText
import FlowDecl.Proofs.Module.PlainTemplates
import FlowDecl.Proofs.Outcome
import FlowDecl.Proofs.Schema.DocumentGrammar
import FlowDecl.Proofs.Schema.DocumentReading
import FlowDecl.Proofs.Schema.DocumentWriting
import FlowDecl.Proofs.Schema.FilteredReferences
import FlowDecl.Proofs.Schema.Filtering
import FlowDecl.Proofs.Schema.LoadFaults
import FlowDecl.Proofs.Sdl.FieldShapes
import FlowDecl.Proofs.Sdl.Reading
import FlowDecl.Proofs.Sdl.Tellings
import FlowDecl.Proofs.Text.Encoding
import FlowDecl.Proofs.Text.Pieces
import FlowDecl.Proofs.Text.Trimming
import FlowDecl.Schema.Basic
import FlowDecl.Schema.Document
import FlowDecl.Schema.Filter
import FlowDecl.Schema.Load
import FlowDecl.Schema.Writing
import FlowDecl.Sdl.BlockText
import FlowDecl.Sdl.Grammar
import FlowDecl.Sdl.Introspection
import FlowDecl.Sdl.Rules
import FlowDecl.Sdl.Standard
import FlowDecl.Sdl.Syntax
import FlowDecl.Sdl.Token
import FlowDecl.Sdl.Toolkit
import FlowDecl.Sdl.TypeSystem
import FlowDecl.Sdl.Validity
import FlowDecl.Text.Ascii
import FlowDecl.Text.Blank
import FlowDecl.Text.Cases
import FlowDecl.Text.Digits
import FlowDecl.Text.Glyphs
import FlowDecl.Text.Hex
import FlowDecl.Text.Letters
import FlowDecl.Text.Lines
import FlowDecl.Text.Octets
import FlowDecl.Text.Pieces
import FlowDecl.Text.Printable
import FlowDecl.Text.Quoted
import FlowDecl.Text.Similarity
import FlowDecl.Text.Unicode
import FlowDecl.Text.Utf8

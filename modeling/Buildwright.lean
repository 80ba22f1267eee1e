import Buildwright.BuildScript
import Buildwright.Builder
import Buildwright.Builder.Document
import Buildwright.Builder.Synthesis
import Buildwright.Callable
import Buildwright.Callable.Fault
import Buildwright.Callable.Resolution
import Buildwright.CommandLine.Command
import Buildwright.CommandLine.Run
import Buildwright.CommandLine.Scan
import Buildwright.CommandLine.Switch
import Buildwright.Decimal.Double
import Buildwright.Declaration.Extraction
import Buildwright.Document
import Buildwright.Emission
import Buildwright.Files.Disk
import Buildwright.Files.FileTree
import Buildwright.Files.Medium
import Buildwright.Files.Path
import Buildwright.Files.Writing
import Buildwright.Gallery.Exhibit
import Buildwright.Gallery.Function
import Buildwright.Gallery.Manifest
import Buildwright.Gallery.Model
import Buildwright.Gallery.Value
import Buildwright.Main
import Buildwright.Manifest
import Buildwright.Manifest.Decoding
import Buildwright.Manifest.Fault
import Buildwright.Manifest.Identifier
import Buildwright.Manifest.ManifestFile
import Buildwright.Manifest.Place
import Buildwright.Manifest.Reader
import Buildwright.Manifest.Validation
import Buildwright.Pipeline.Diagnostic
import Buildwright.Pipeline.Lint
import Buildwright.Pipeline.Phase
import Buildwright.Pipeline.Schedule
import Buildwright.Proofs.Builder.Capture
import Buildwright.Proofs.Builder.Scope
import Buildwright.Proofs.Builder.Synthesis
import Buildwright.Proofs.Callable.Levels
import Buildwright.Proofs.Callable.Names
import Buildwright.Proofs.Callable.Outcome
import Buildwright.Proofs.Callable.Reach
import Buildwright.Proofs.Callable.Renames
import Buildwright.Proofs.Callable.Resolution
import Buildwright.Proofs.Callable.Signature
import Buildwright.Proofs.Callable.Unresolved
import Buildwright.Proofs.Checked
import Buildwright.Proofs.Declaration.Display
import Buildwright.Proofs.Declaration.Extraction
import Buildwright.Proofs.Declaration.Faults
import Buildwright.Proofs.Declaration.Interpretation
import Buildwright.Proofs.Declaration.Lowering
import Buildwright.Proofs.Declaration.Uses
import Buildwright.Proofs.Declaration.WellFormed
import Buildwright.Proofs.Files.FileTree
import Buildwright.Proofs.Files.Frame
import Buildwright.Proofs.Files.Path
import Buildwright.Proofs.Files.Writing
import Buildwright.Proofs.Gallery.Calls
import Buildwright.Proofs.Gallery.Simulation
import Buildwright.Proofs.Manifest.Acceptance
import Buildwright.Proofs.Manifest.Decoding
import Buildwright.Proofs.Manifest.Labels
import Buildwright.Proofs.Manifest.Offender
import Buildwright.Proofs.Manifest.Origin
import Buildwright.Proofs.Manifest.Place
import Buildwright.Proofs.Manifest.Rejection
import Buildwright.Proofs.Manifest.Types
import Buildwright.Proofs.Manifest.Validation
import Buildwright.Proofs.Manifest.WrittenOut
import Buildwright.Proofs.Pipeline.Accounting
import Buildwright.Proofs.Pipeline.Builders
import Buildwright.Proofs.Pipeline.Duplicates
import Buildwright.Proofs.Pipeline.Emission
import Buildwright.Proofs.Pipeline.Generation
import Buildwright.Proofs.Pipeline.Schedule
import Buildwright.Proofs.Report.Explanation
import Buildwright.Proofs.Requirement
import Buildwright.Proofs.Source.Clash
import Buildwright.Proofs.Source.Collision
import Buildwright.Proofs.Source.Defaults
import Buildwright.Proofs.Source.Distinct
import Buildwright.Proofs.Source.Execution
import Buildwright.Proofs.Source.FileText
import Buildwright.Proofs.Source.Identifier
import Buildwright.Proofs.Source.Names
import Buildwright.Proofs.Source.Parameters
import Buildwright.Proofs.Source.Reserved
import Buildwright.Proofs.Source.Writing
import Buildwright.Proofs.Text.Fresh
import Buildwright.Proofs.Text.Occurrence
import Buildwright.Proofs.Text.Pascal
import Buildwright.Proofs.Text.Snake
import Buildwright.Proofs.Text.UpperCase
import Buildwright.Proofs.Tree.Naming
import Buildwright.Proofs.Tree.Readability
import Buildwright.Proofs.Tree.Renaming
import Buildwright.Proofs.Tree.Structure
import Buildwright.Proofs.Tree.Substitution
import Buildwright.Proofs.Tree.Text
import Buildwright.Proofs.Tree.Within
import Buildwright.Proofs.TypeExpr.Lexing
import Buildwright.Proofs.TypeExpr.Pieces
import Buildwright.Proofs.TypeExpr.Productions
import Buildwright.Proofs.TypeExpr.Rereading
import Buildwright.Proofs.TypeExpr.Roundtrip
import Buildwright.Proofs.TypeExpr.Running
import Buildwright.Proofs.TypeExpr.Tokens
import Buildwright.Proofs.TypeExpr.Trimming
import Buildwright.Proofs.TypeExpr.Words
import Buildwright.Proofs.TypeExpr.Yields
import Buildwright.Reading
import Buildwright.Report.Explanation
import Buildwright.Report.Generation
import Buildwright.Report.Listing
import Buildwright.Report.Page
import Buildwright.Report.Verdict
import Buildwright.Source.BuilderCode
import Buildwright.Source.BuildersFile
import Buildwright.Source.Execution
import Buildwright.Source.Fragment
import Buildwright.Source.Item
import Buildwright.Source.Names
import Buildwright.Text.Blank
import Buildwright.Text.Bytes
import Buildwright.Text.CaseTable
import Buildwright.Text.Casing
import Buildwright.Text.CodeRanges
import Buildwright.Text.Fresh
import Buildwright.Text.Identifier
import Buildwright.Text.Join
import Buildwright.Text.Occurrence
import Buildwright.Text.Printable
import Buildwright.Text.Quoted
import Buildwright.Toml.Decoder
import Buildwright.Toml.Reader
import Buildwright.Toml.Scalar
import Buildwright.Toml.Table
import Buildwright.Toml.Value
import Buildwright.Tree
import Buildwright.Tree.Equality
import Buildwright.Ty
import Buildwright.TypeExpr.Construct
import Buildwright.TypeExpr.Grammar
import Buildwright.TypeExpr.Grammar.Attribute
import Buildwright.TypeExpr.Grammar.Bound
import Buildwright.TypeExpr.Grammar.Expression
import Buildwright.TypeExpr.Grammar.Path
import Buildwright.TypeExpr.Grammar.Type
import Buildwright.TypeExpr.Lexer
import Buildwright.TypeExpr.Lexer.Blank
import Buildwright.TypeExpr.Lexer.Literal
import Buildwright.TypeExpr.Parse
import Buildwright.TypeExpr.PathForm
import Buildwright.TypeExpr.Reader
import Buildwright.TypeExpr.Token

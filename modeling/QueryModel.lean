import QueryModel.Build.Candidates
import QueryModel.Build.Declared
import QueryModel.Build.Error
import QueryModel.Build.Flatten
import QueryModel.Build.Operation
import QueryModel.Build.Resolve
import QueryModel.Build.Shape
import QueryModel.Cli.Arguments
import QueryModel.Cli.Report
import QueryModel.Cli.Run
import QueryModel.Compile.Compilation
import QueryModel.Compile.Diagnostic
import QueryModel.Compile.Item
import QueryModel.Config.Basic
import QueryModel.Config.Read
import QueryModel.Config.Validate
import QueryModel.Dict
import QueryModel.Document.Basic
import QueryModel.Document.Decode
import QueryModel.Document.Encode
import QueryModel.Document.Format
import QueryModel.Json.Basic
import QueryModel.Json.Decimal
import QueryModel.Json.Draft
import QueryModel.Json.Printer
import QueryModel.Json.Token
import QueryModel.LoadError
import QueryModel.Main
import QueryModel.Model.Encode
import QueryModel.Model.Generated
import QueryModel.Model.Shape
import QueryModel.Model.TypeRef
import QueryModel.Naming.Identifier
import QueryModel.Naming.Package
import QueryModel.Naming.ShapeName
import QueryModel.Naming.Singular
import QueryModel.Settings
import QueryModel.Text.Blank
import QueryModel.Text.Boundaries
import QueryModel.Text.Case
import QueryModel.Text.CaseMap
import QueryModel.Text.Letter
import QueryModel.Text.Pieces
import QueryModel.Text.Quoted
import QueryModel.Text.Span
import QueryModel.Toml.Basic
import QueryModel.Toml.Word
import QueryModel.Toml.Reader
import QueryModel.TypeExpr
import QueryModel.Proofs.Shape.Flattening
import QueryModel.Proofs.Shape.Merging
import QueryModel.Proofs.Shape.Assembly
import QueryModel.Proofs.Shape.Coverage
import QueryModel.Proofs.Shape.Presence
import QueryModel.Proofs.Shape.Names
import QueryModel.Proofs.Shape.References
import QueryModel.Proofs.Compile.Isolation
import QueryModel.Proofs.Compile.Classes
import QueryModel.Proofs.TypeExpr.Grammar
import QueryModel.Proofs.TypeExpr.Layers
import QueryModel.Proofs.Compile.Definitions
import QueryModel.Proofs.Shape.Inlining
import QueryModel.Proofs.TypeExpr.Failures
import QueryModel.Proofs.Compile.Builders
import QueryModel.Proofs.Document.Acceptance
import QueryModel.Proofs.Document.RoundTrip
import QueryModel.Proofs.Document.Presentation
import QueryModel.Proofs.TypeExpr.Targets
import QueryModel.Proofs.Shape.Spreading
import QueryModel.Proofs.Shape.Repetition
import QueryModel.Proofs.Shape.Siblings
import QueryModel.Proofs.Compile.Lookups
import QueryModel.Proofs.Compile.Checks
import QueryModel.Proofs.Compile.TypeNames
import QueryModel.Proofs.Shape.Conditions
import QueryModel.Proofs.Naming.Rules
import QueryModel.Proofs.Shape.Occurrences
import QueryModel.Proofs.Naming.LetterCase
import QueryModel.Proofs.Naming.ShapeNames
import QueryModel.Proofs.Naming.GreekPlurals
import QueryModel.Proofs.Naming.PackagePaths
import QueryModel.Proofs.Dictionaries
import QueryModel.Proofs.Compile.Binding
import QueryModel.Proofs.Config.ScalarMap
import QueryModel.Proofs.Text.Positions
import QueryModel.Proofs.Config.Violations
import QueryModel.Proofs.Text.Offsets
import QueryModel.Proofs.TypeExpr.TargetTexts
import QueryModel.Proofs.Compile.MemberNames

import AccountAudit.Finding.Schema
import AccountAudit.Log.Record
import AccountAudit.Main
import AccountAudit.Proofs.Assoc
import AccountAudit.Proofs.Guard.Gain
import AccountAudit.Proofs.Guard.Extraction
import AccountAudit.Proofs.Guard.Monotone
import AccountAudit.Proofs.Guard.Reference
import AccountAudit.Proofs.Detector.GuardMonotone
import AccountAudit.Proofs.Detector.Prefix
import AccountAudit.Proofs.Detector.Comparison
import AccountAudit.Proofs.Analysis.Reduction
import AccountAudit.Proofs.Analysis.Independence
import AccountAudit.Proofs.Analysis.Reduced
import AccountAudit.Proofs.Files.Path
import AccountAudit.Proofs.Document.Discovery
import AccountAudit.Proofs.Scan.Completeness
import AccountAudit.Proofs.Expr.Grammar
import AccountAudit.Proofs.Expr.Nesting
import AccountAudit.Proofs.Expr.Token
import AccountAudit.Proofs.Expr.Operand
import AccountAudit.Proofs.Expr.Cut
import AccountAudit.Proofs.Expr.Bare
import AccountAudit.Proofs.Expr.Shape
import AccountAudit.Proofs.Expr.Reading
import AccountAudit.Proofs.Expr.Excess
import AccountAudit.Proofs.Fact.Resolution
import AccountAudit.Proofs.Program.Layout
import AccountAudit.Proofs.Fact.Settled
import AccountAudit.Proofs.Detector.Relation
import AccountAudit.Proofs.Fact.Diagnostic
import AccountAudit.Proofs.Detector.Conservative
import AccountAudit.Proofs.Order.Position
import AccountAudit.Proofs.Order.Extraction
import AccountAudit.Proofs.Order.Query
import AccountAudit.Proofs.Detector.OrderIndependence
import AccountAudit.Proofs.Analysis.Containment
import AccountAudit.Proofs.Analysis.Failure
import AccountAudit.Proofs.Expr.Layout
import AccountAudit.Proofs.Fact.Consistency
import AccountAudit.Proofs.Expr.Mention
import AccountAudit.Proofs.Expr.Accounting
import AccountAudit.Proofs.Fact.Mention
import AccountAudit.Proofs.Flag.Extraction
import AccountAudit.Proofs.Flag.Query
import AccountAudit.Proofs.Flag.Blind
import AccountAudit.Proofs.Flag.Creation
import AccountAudit.Proofs.Flag.Duplicate
import AccountAudit.Proofs.Detector.Locality
import AccountAudit.Proofs.Detector.Flag
import AccountAudit.Proofs.Scan.Suppression
import AccountAudit.Proofs.Scan.Severity
import AccountAudit.Proofs.Report.Excerpt
import AccountAudit.Proofs.Report.Octet
import AccountAudit.Proofs.Report.Rating
import AccountAudit.Proofs.Spelling.Expr
import AccountAudit.Proofs.Spelling.Extraction
import AccountAudit.Proofs.Spelling.Document
import AccountAudit.Proofs.Spelling.Query
import AccountAudit.Proofs.Detector.Spelling
import AccountAudit.Proofs.Registry
import AccountAudit.Proofs.Document.Loading
import AccountAudit.Proofs.Document.Agreement
import AccountAudit.Proofs.Settings.Loading
import AccountAudit.Proofs.Fact.Traversal
import AccountAudit.Proofs.Detector.Strict
import AccountAudit.Proofs.Detector.Place
import AccountAudit.Proofs.Detector.Safety
import AccountAudit.Proofs.Detector.Singleton
import AccountAudit.Proofs.Report.Order
import AccountAudit.Proofs.Settings.Overlay
import AccountAudit.Proofs.Settings.Precedence
import AccountAudit.Proofs.Value.Literal
import AccountAudit.Proofs.Value.Written
import AccountAudit.Proofs.Cli.Status
import AccountAudit.Proofs.Report.Record
import AccountAudit.Proofs.Detector.Coverage
import AccountAudit.Proofs.Detector.Recomputation
import AccountAudit.Proofs.Detector.Discriminator
import AccountAudit.Proofs.Detector.Operand
import AccountAudit.Proofs.Expr.Conservation
import AccountAudit.Proofs.Expr.Composition
import AccountAudit.Proofs.Expr.Content
import AccountAudit.Proofs.Expr.Depth
import AccountAudit.Proofs.Expr.Opacity
import AccountAudit.Proofs.Analysis.Silence
import AccountAudit.Proofs.Fact.Collision
import AccountAudit.Proofs.Program.FixedSize
import AccountAudit.Proofs.Program.Generic

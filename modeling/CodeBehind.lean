import CodeBehind.Command.LogFormat
import CodeBehind.Layout.Reader
import CodeBehind.Main
import CodeBehind.Proofs.Acceptance
import CodeBehind.Proofs.Adequacy
import CodeBehind.Proofs.CommentSafety
import CodeBehind.Proofs.Composition
import CodeBehind.Proofs.Erasure
import CodeBehind.Proofs.LineLayout
import CodeBehind.Proofs.Nesting
import CodeBehind.Proofs.RecordForms
import CodeBehind.Proofs.TreeForms
import CodeBehind.Proofs.TreeReading
import CodeBehind.Source.Value
import CodeBehind.Proofs.Acts
import CodeBehind.Proofs.Sessions
import CodeBehind.Proofs.Truncation
import CodeBehind.Proofs.Respelling
import CodeBehind.Proofs.Anatomy
import CodeBehind.Proofs.Bindings
import CodeBehind.Proofs.Remarks
import CodeBehind.Proofs.AssignmentChains
import CodeBehind.Proofs.Provenance
import CodeBehind.Proofs.TextDepth
import CodeBehind.Proofs.Audit
import CodeBehind.Proofs.Stores
import CodeBehind.Proofs.Stages
import CodeBehind.Proofs.MarkedText
import CodeBehind.Proofs.SpelledDepth
import CodeBehind.Proofs.OpenMarkers
import CodeBehind.Proofs.TornComments
import CodeBehind.Proofs.FirstOffender
import CodeBehind.Proofs.OuterTrivia
import CodeBehind.Proofs.Flattening
import CodeBehind.Proofs.QuotedEvent
import CodeBehind.Proofs.NamesFiles
import CodeBehind.Proofs.Settings
import CodeBehind.Proofs.WriterState
import CodeBehind.Proofs.LeadingBreaks

import TemplateServer.Main
import TemplateServer.Protocol.Outbox
import TemplateServer.Proofs.Validation.Turn
import TemplateServer.Proofs.Validation.Run
import TemplateServer.Proofs.Validation.Timer
import TemplateServer.Proofs.Validation.Guard
import TemplateServer.Proofs.Validation.Exclusion
import TemplateServer.Proofs.Validation.Docket
import TemplateServer.Proofs.Validation.Clearing
import TemplateServer.Proofs.Validation.Outcome
import TemplateServer.Proofs.Validation.Desk
import TemplateServer.Proofs.Validation.Debounce
import TemplateServer.Proofs.Document.Store
import TemplateServer.Proofs.Document.History
import TemplateServer.Proofs.Session.View
import TemplateServer.Proofs.Validation.Version
import TemplateServer.Proofs.Validation.Patience
import TemplateServer.Proofs.Validation.Share
import TemplateServer.Proofs.Validation.Mirror
import TemplateServer.Proofs.Grammar.Pattern
import TemplateServer.Proofs.Grammar.Reading
import TemplateServer.Proofs.Grammar.Agreement
import TemplateServer.Proofs.Grammar.File
import TemplateServer.Proofs.Grammar.Language
import TemplateServer.Proofs.Grammar.Acceptance
import TemplateServer.Proofs.Validation.Isolation
import TemplateServer.Proofs.Grammar.Account
import TemplateServer.Proofs.Grammar.Join
import TemplateServer.Proofs.Grammar.Malformed
import TemplateServer.Proofs.Text.Position
import TemplateServer.Proofs.Text.Line
import TemplateServer.Proofs.Text.LineStart
import TemplateServer.Proofs.Text.Word
import TemplateServer.Proofs.Expression.Segment
import TemplateServer.Proofs.Expression.Call
import TemplateServer.Proofs.Expression.Depth
import TemplateServer.Proofs.Expression.Decomposition
import TemplateServer.Proofs.Expression.Literal
import TemplateServer.Proofs.Check.Expression
import TemplateServer.Proofs.Check.Range
import TemplateServer.Proofs.Check.Order
import TemplateServer.Proofs.Completion.Print
import TemplateServer.Proofs.Hover
import TemplateServer.Proofs.Completion.Call
import TemplateServer.Proofs.Hover.Cursor
import TemplateServer.Proofs.Grammar.Relocation
import TemplateServer.Proofs.Check.Relocation
import TemplateServer.Proofs.Check.LineBreak
import TemplateServer.Proofs.Check.Comment
import TemplateServer.Proofs.Check.LineNumber
import TemplateServer.Proofs.Check.Structure
import TemplateServer.Proofs.Check.Permutation
import TemplateServer.Proofs.Settings
import TemplateServer.Proofs.Session.Configuration
import TemplateServer.Proofs.Failure.Span

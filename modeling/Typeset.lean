import Typeset.Build.Artifact
import Typeset.Build.Delivery
import Typeset.Build.Engine
import Typeset.Build.Plan
import Typeset.Build.Session
import Typeset.Command.Arguments
import Typeset.Command.Replay
import Typeset.Command.Request
import Typeset.Command.Run
import Typeset.Digest.Sha256
import Typeset.Failure
import Typeset.Feedback.Basic
import Typeset.Feedback.Feed
import Typeset.Feedback.Link
import Typeset.Feedback.Record
import Typeset.Journal
import Typeset.Json.Reader
import Typeset.Json.Record
import Typeset.Json.Token
import Typeset.Json.Value
import Typeset.Json.Writer
import Typeset.Main
import Typeset.Markup
import Typeset.Message.Basic
import Typeset.Message.Diagnostic
import Typeset.Message.Listener
import Typeset.Message.Severity
import Typeset.Nesting.Basic
import Typeset.Nesting.Joined
import Typeset.Nesting.OpenFiles
import Typeset.Nesting.Strict
import Typeset.Nesting.Token
import Typeset.Path.Basic
import Typeset.Path.FileUrl
import Typeset.Path.Fold
import Typeset.Settings.Basic
import Typeset.Settings.Environment
import Typeset.Settings.Layers
import Typeset.Settings.Record
import Typeset.Text.Basic
import Typeset.Text.Blank
import Typeset.Text.Digit
import Typeset.Text.Hidden
import Typeset.Text.Lines
import Typeset.Text.Quoted
import Typeset.Text.ShellWords
import Typeset.Text.Utf8
import Typeset.Workspace.Basic
import Typeset.Proofs.Nesting.Mark
import Typeset.Proofs.Nesting.Printed
import Typeset.Proofs.Feedback.Attribution
import Typeset.Proofs.Feedback.Forest
import Typeset.Proofs.Nesting.StrictLayout
import Typeset.Proofs.Nesting.WrappedPath
import Typeset.Proofs.Nesting.Agreement
import Typeset.Proofs.Feedback.Frozen
import Typeset.Proofs.Build.Session
import Typeset.Proofs.Text.Decoding
import Typeset.Proofs.Command.Replay
import Typeset.Proofs.Feedback.Refusal
import Typeset.Proofs.Command.Faults
import Typeset.Proofs.Message.Severity
import Typeset.Proofs.Feedback.Policy
import Typeset.Proofs.Feedback.Accounting
import Typeset.Proofs.Markup
import Typeset.Proofs.Feedback.Rendering
import Typeset.Proofs.Build.Severity
import Typeset.Proofs.Command.Status
import Typeset.Proofs.Nesting.WellFormed
import Typeset.Proofs.Feedback.Forgetting
import Typeset.Proofs.Message.ContextLine
import Typeset.Proofs.Message.History
import Typeset.Proofs.Path.Names
import Typeset.Proofs.Path.Extension
import Typeset.Proofs.Path.Place
import Typeset.Proofs.Command.Fallback
import Typeset.Proofs.Text.Number
import Typeset.Proofs.Json.Lexing
import Typeset.Proofs.Json.RoundTrip
import Typeset.Proofs.Json.Record
import Typeset.Proofs.Feedback.Record
import Typeset.Proofs.Command.Records
import Typeset.Proofs.Settings.Layer
import Typeset.Proofs.Settings.Environment
import Typeset.Proofs.Command.Arguments
import Typeset.Proofs.Command.Layers
import Typeset.Proofs.Nesting.Parentheses
import Typeset.Proofs.Nesting.FullLine
import Typeset.Proofs.Nesting.PageMarker
import Typeset.Proofs.Path.Resolution
import Typeset.Proofs.Message.Located
import Typeset.Proofs.Path.WayUp
import Typeset.Proofs.Settings.Overrides
import Typeset.Proofs.Text.Encoding
import Typeset.Proofs.Workspace
import Typeset.Proofs.Settings.Record
import Typeset.Proofs.Message.Cited
import Typeset.Proofs.Build.Delivery
import Typeset.Proofs.Feedback.Template
import Typeset.Proofs.Path.FileUrl
import Typeset.Proofs.Path.Components
import Typeset.Proofs.Build.Plan
import Typeset.Proofs.Build.Engine

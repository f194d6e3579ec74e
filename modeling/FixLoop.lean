import FixLoop.Banner
import FixLoop.Cancellation
import FixLoop.CommandLine.Arguments
import FixLoop.CommandLine.Commands
import FixLoop.CommandLine.Markup
import FixLoop.CommandLine.Output
import FixLoop.CommandLine.Overrides
import FixLoop.CommandLine.Style
import FixLoop.Config
import FixLoop.Config.Sources
import FixLoop.Diagnostic
import FixLoop.Edit
import FixLoop.FileTree
import FixLoop.FileTree.Glob
import FixLoop.Formatting
import FixLoop.Generated
import FixLoop.Json.Reader
import FixLoop.Json.Writer
import FixLoop.Location
import FixLoop.Main
import FixLoop.Manifest.Basic
import FixLoop.Manifest.Import
import FixLoop.Number.Binary64
import FixLoop.Number.Decimal
import FixLoop.Plugin.Action
import FixLoop.Plugin.Basic
import FixLoop.Plugin.Callback
import FixLoop.Plugin.Catalog
import FixLoop.Plugin.Combine
import FixLoop.Plugin.Registry
import FixLoop.Proofs.Banner
import FixLoop.Proofs.Collected
import FixLoop.Proofs.Config.Precedence
import FixLoop.Proofs.Config.Reporting
import FixLoop.Proofs.Config.Validity
import FixLoop.Proofs.Documents
import FixLoop.Proofs.EditSets
import FixLoop.Proofs.Encoding
import FixLoop.Proofs.Failing
import FixLoop.Proofs.Fields
import FixLoop.Proofs.FileTree
import FixLoop.Proofs.Findings
import FixLoop.Proofs.Formatting
import FixLoop.Proofs.Globbing
import FixLoop.Proofs.Lines
import FixLoop.Proofs.Loading
import FixLoop.Proofs.Location
import FixLoop.Proofs.Manifest.Escaping
import FixLoop.Proofs.Manifest.Patterns
import FixLoop.Proofs.Manifest.Plugins
import FixLoop.Proofs.Manifest.Units
import FixLoop.Proofs.Plugin.Builtin
import FixLoop.Proofs.Plugin.Combining
import FixLoop.Proofs.Plugin.Letters
import FixLoop.Proofs.Plugin.Merging
import FixLoop.Proofs.Plugin.Pooling
import FixLoop.Proofs.Plugin.Standing
import FixLoop.Proofs.Replacing
import FixLoop.Proofs.Rules.Balancing
import FixLoop.Proofs.Rules.Clearing
import FixLoop.Proofs.Rules.Converging
import FixLoop.Proofs.Rules.EmbeddedStatement
import FixLoop.Proofs.Rules.FinalNewline
import FixLoop.Proofs.Rules.Fixing
import FixLoop.Proofs.Rules.Ink
import FixLoop.Proofs.Rules.Inking
import FixLoop.Proofs.Rules.Interplay
import FixLoop.Proofs.Rules.Keeper
import FixLoop.Proofs.Rules.Landing
import FixLoop.Proofs.Rules.Masking
import FixLoop.Proofs.Rules.Mending
import FixLoop.Proofs.Rules.Neat
import FixLoop.Proofs.Rules.Normalizing
import FixLoop.Proofs.Rules.Pairing
import FixLoop.Proofs.Rules.Reading
import FixLoop.Proofs.Rules.Repeating
import FixLoop.Proofs.Rules.Rule
import FixLoop.Proofs.Rules.Runs
import FixLoop.Proofs.Rules.Semicolons
import FixLoop.Proofs.Rules.Separate
import FixLoop.Proofs.Rules.Spacing
import FixLoop.Proofs.Rules.TabIndentation
import FixLoop.Proofs.Rules.TrailingWhitespace
import FixLoop.Proofs.Session.Agreeing
import FixLoop.Proofs.Session.Asking
import FixLoop.Proofs.Session.Building
import FixLoop.Proofs.Session.Calling
import FixLoop.Proofs.Session.Checking
import FixLoop.Proofs.Session.Collecting
import FixLoop.Proofs.Session.Consulting
import FixLoop.Proofs.Session.Contending
import FixLoop.Proofs.Session.Convergence
import FixLoop.Proofs.Session.Course
import FixLoop.Proofs.Session.Endings
import FixLoop.Proofs.Session.Endless
import FixLoop.Proofs.Session.Finishing
import FixLoop.Proofs.Session.Foretelling
import FixLoop.Proofs.Session.Frame
import FixLoop.Proofs.Session.Glimpsing
import FixLoop.Proofs.Session.Halting
import FixLoop.Proofs.Session.Handing
import FixLoop.Proofs.Session.Journal
import FixLoop.Proofs.Session.Overriding
import FixLoop.Proofs.Session.Passing
import FixLoop.Proofs.Session.Renewing
import FixLoop.Proofs.Session.Reordering
import FixLoop.Proofs.Session.Reporting
import FixLoop.Proofs.Session.Scope
import FixLoop.Proofs.Session.Selecting
import FixLoop.Proofs.Session.Skipping
import FixLoop.Proofs.Session.Stateless
import FixLoop.Proofs.Session.Steps
import FixLoop.Proofs.Session.Stopping
import FixLoop.Proofs.Session.Survey
import FixLoop.Proofs.Session.Totality
import FixLoop.Proofs.Session.Touring
import FixLoop.Proofs.Session.Unbatched
import FixLoop.Proofs.Session.Working
import FixLoop.Proofs.Session.Yielding
import FixLoop.Proofs.Splicing
import FixLoop.Proofs.Succeeding
import FixLoop.Proofs.Workspace.Clients
import FixLoop.Proofs.Workspace.Continuing
import FixLoop.Proofs.Workspace.Dependencies
import FixLoop.Proofs.Workspace.Editing
import FixLoop.Proofs.Workspace.Finishing
import FixLoop.Proofs.Workspace.Ordering
import FixLoop.Proofs.Workspace.Saving
import FixLoop.Rules.Brackets
import FixLoop.Rules.Builtin
import FixLoop.Rules.Compilers
import FixLoop.Rules.EmbeddedStatement
import FixLoop.Rules.FinalNewline
import FixLoop.Rules.Literals
import FixLoop.Rules.TabIndentation
import FixLoop.Rules.TrailingWhitespace
import FixLoop.Scripted.Basic
import FixLoop.Scripted.Fixes
import FixLoop.Session.Basic
import FixLoop.Session.Engine
import FixLoop.Session.Event
import FixLoop.Session.Outcome
import FixLoop.Session.Passes
import FixLoop.Session.Remediation
import FixLoop.Session.Result
import FixLoop.Session.Rounds
import FixLoop.Session.Selection
import FixLoop.Session.Summary
import FixLoop.Severity
import FixLoop.SourceUnit
import FixLoop.Text.Basic
import FixLoop.Text.Blank
import FixLoop.Text.Digit
import FixLoop.Text.Emoji
import FixLoop.Text.Lines
import FixLoop.Text.Printable
import FixLoop.Text.Quoted
import FixLoop.Text.Template
import FixLoop.Text.Template.Fault
import FixLoop.Text.Template.Layout
import FixLoop.Text.Template.Subject
import FixLoop.Text.Utf8
import FixLoop.Text.Wildcard
import FixLoop.Text.Word
import FixLoop.Value
import FixLoop.Workspace.Basic
import FixLoop.Workspace.Order
import FixLoop.Workspace.Saving

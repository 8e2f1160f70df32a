import PerlLint.Main
import PerlLint.Proofs.Store.History
import PerlLint.Proofs.Store.Numbering
import PerlLint.Proofs.Store.Isolation
import PerlLint.Proofs.Store.Coherence
import PerlLint.Proofs.Session.Step
import PerlLint.Proofs.Session.Run
import PerlLint.Proofs.Session.Board
import PerlLint.Proofs.Session.Notices
import PerlLint.Proofs.Config.Merge
import PerlLint.Proofs.Session.Closing
import PerlLint.Proofs.Session.Configuration
import PerlLint.Proofs.Session.Layers
import PerlLint.Proofs.Session.Course
import PerlLint.Proofs.Session.Removal
import PerlLint.Proofs.Session.Warnings
import PerlLint.Proofs.Text.Lines
import PerlLint.Proofs.Text.Blank
import PerlLint.Proofs.Text.Split
import PerlLint.Proofs.Text.Numeral
import PerlLint.Proofs.Text.Utf8
import PerlLint.Proofs.Record.Reading
import PerlLint.Proofs.Record.Template
import PerlLint.Proofs.Record.Grammar
import PerlLint.Proofs.Output.Reader
import PerlLint.Proofs.Output.Agreement
import PerlLint.Proofs.Output.RoundTrip
import PerlLint.Proofs.Shell.Quoting
import PerlLint.Proofs.Invocation.Line
import PerlLint.Proofs.Json.Quoting
import PerlLint.Proofs.Json.Spacing
import PerlLint.Proofs.Json.RoundTrip
import PerlLint.Proofs.Json.Members
import PerlLint.Proofs.Json.Numbers
import PerlLint.Proofs.Json.Plain
import PerlLint.Proofs.Json.Pretty
import PerlLint.Proofs.Config.RoundTrip
import PerlLint.Proofs.Report.Lossless
import PerlLint.Proofs.Report.Lines
import PerlLint.Proofs.Report.Check
import PerlLint.Proofs.Session.Admission
import PerlLint.Proofs.Record.Marker
import PerlLint.Proofs.Record.Truncation
import PerlLint.Proofs.Output.Accounts
import PerlLint.Proofs.Config.Fields
import PerlLint.Proofs.Config.Layering
import PerlLint.Proofs.Host.Walking
import PerlLint.Proofs.Run.Found
import PerlLint.Proofs.Diagnostic.FixedWidth
import PerlLint.Proofs.Diagnostic.Position
import PerlLint.Proofs.Diagnostic.Numbers
import PerlLint.Proofs.Severity.Naming
import PerlLint.Proofs.Document.Ending

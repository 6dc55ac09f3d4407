import ValidatorKeys.CommandLine.Invocation
import ValidatorKeys.CommandLine.LogFilter
import ValidatorKeys.CommandLine.Outcome
import ValidatorKeys.Config.Loading
import ValidatorKeys.Config.PasswordSource
import ValidatorKeys.Host.Runner
import ValidatorKeys.Main
import ValidatorKeys.Manifest.Sorting
import ValidatorKeys.Provision.Provisioner
import ValidatorKeys.Report.Json
import ValidatorKeys.Report.Terminal
import ValidatorKeys.Text.Redaction
import ValidatorKeys.Proofs.Assignment.Advance
import ValidatorKeys.Proofs.Assignment.Passes
import ValidatorKeys.Proofs.Dialogue.Conduct
import ValidatorKeys.Proofs.KeyFile.Place
import ValidatorKeys.Proofs.Provision.Generation
import ValidatorKeys.Proofs.Provision.Handoff
import ValidatorKeys.Proofs.Provision.Rounds
import ValidatorKeys.Proofs.Provision.Order
import ValidatorKeys.Proofs.Decimal.Rounding
import ValidatorKeys.Proofs.KeyFile.Permission
import ValidatorKeys.Proofs.Text.Redaction
import ValidatorKeys.Proofs.Config.Priority
import ValidatorKeys.Proofs.Manifest.Sorting
import ValidatorKeys.Proofs.Toml.Framing.Basic
import ValidatorKeys.Proofs.Toml.Framing.Strings
import ValidatorKeys.Proofs.Toml.Tables
import ValidatorKeys.Proofs.Toml.Framing.Numbers
import ValidatorKeys.Proofs.Toml.Framing.Values
import ValidatorKeys.Proofs.Toml.Framing.Statements
import ValidatorKeys.Proofs.Toml.RoundTrip.Numbers
import ValidatorKeys.Proofs.Toml.RoundTrip.Strings
import ValidatorKeys.Proofs.Decimal.Shortest
import ValidatorKeys.Proofs.Toml.RoundTrip.Floats
import ValidatorKeys.Proofs.Toml.RoundTrip.Values
import ValidatorKeys.Proofs.Toml.RoundTrip.Reserved
import ValidatorKeys.Proofs.Manifest.Order
import ValidatorKeys.Proofs.SideBySide.Basic
import ValidatorKeys.Proofs.KeyFile.Programs
import ValidatorKeys.Proofs.SideBySide.Passes
import ValidatorKeys.Proofs.Assignment.Correspondence
import ValidatorKeys.Proofs.Provision.Secrecy
import ValidatorKeys.Proofs.Provision.Independence
import ValidatorKeys.Proofs.Provision.Composition
import ValidatorKeys.Proofs.CommandLine.Refusal
import ValidatorKeys.Proofs.Assignment.Skips
import ValidatorKeys.Proofs.Assignment.Policies
import ValidatorKeys.Proofs.Provision.Recording
import ValidatorKeys.Proofs.Text.LongNumbers
import ValidatorKeys.Proofs.Text.Styled
import ValidatorKeys.Proofs.Json.Strings
import ValidatorKeys.Proofs.Report.Fingerprints
import ValidatorKeys.Proofs.Report.Hiding
import ValidatorKeys.Proofs.Assignment.Resumption
import ValidatorKeys.Proofs.Manifest.Verdict
import ValidatorKeys.Proofs.Text.Endings
import ValidatorKeys.Proofs.Manifest.Surroundings
import ValidatorKeys.Proofs.File.Paths
import ValidatorKeys.Proofs.Provision.Tools
import ValidatorKeys.Proofs.Config.Merging
import ValidatorKeys.Proofs.Text.Numbers
import ValidatorKeys.Proofs.Text.Redacted
import ValidatorKeys.Proofs.Config.Overrides
import ValidatorKeys.Proofs.Config.PasswordSource
import ValidatorKeys.Proofs.Manifest.Grouping
import ValidatorKeys.Proofs.Report.Totals
import ValidatorKeys.Proofs.Key.SeedLine
import ValidatorKeys.Proofs.Key.Token
import ValidatorKeys.Proofs.File.AbsoluteNames
import ValidatorKeys.Proofs.Config.Resolution

import ChainLaunchers.Bytes
import ChainLaunchers.CommandLine.Environment
import ChainLaunchers.CommandLine.Invocation
import ChainLaunchers.CommandLine.Options
import ChainLaunchers.Event
import ChainLaunchers.Failure
import ChainLaunchers.Generator
import ChainLaunchers.IoError
import ChainLaunchers.Line
import ChainLaunchers.Literal
import ChainLaunchers.Main
import ChainLaunchers.Marker
import ChainLaunchers.Path
import ChainLaunchers.Rule
import ChainLaunchers.Rule.OfValue
import ChainLaunchers.Run.Basic
import ChainLaunchers.Run.Fate
import ChainLaunchers.Run.Ledger
import ChainLaunchers.Run.ReportText
import ChainLaunchers.Run.Source
import ChainLaunchers.Settings
import ChainLaunchers.Settings.Load
import ChainLaunchers.Settings.OfDocument
import ChainLaunchers.Text.Alphanumeric
import ChainLaunchers.Text.Printable
import ChainLaunchers.Text.Quoted
import ChainLaunchers.Text.Utf8
import ChainLaunchers.Text.Whitespace
import ChainLaunchers.Tree.Basic
import ChainLaunchers.Tree.Change
import ChainLaunchers.Tree.Walk
import ChainLaunchers.Value
import ChainLaunchers.Yaml.Cell
import ChainLaunchers.Yaml.Composition
import ChainLaunchers.Yaml.Document
import ChainLaunchers.Yaml.ScalarValue
import ChainLaunchers.Yaml.Tag
import ChainLaunchers.Yaml.Token
import ChainLaunchers.Yaml.Token.Property
import ChainLaunchers.Yaml.Token.Scalar
import ChainLaunchers.Yaml.Token.Stream
import ChainLaunchers.Proofs.Path.Segments
import ChainLaunchers.Proofs.Path.Trunk
import ChainLaunchers.Proofs.Tree.Entering
import ChainLaunchers.Proofs.Tree.Growth
import ChainLaunchers.Proofs.Tree.Directories
import ChainLaunchers.Proofs.Tree.Deposit
import ChainLaunchers.Proofs.Line.Pieces
import ChainLaunchers.Proofs.Run.Reading
import ChainLaunchers.Proofs.Text.Ascii
import ChainLaunchers.Proofs.Generator.FileName
import ChainLaunchers.Proofs.Run.Deposits
import ChainLaunchers.Proofs.Run.LastWrite
import ChainLaunchers.Proofs.Run.Containment
import ChainLaunchers.Proofs.Run.Report
import ChainLaunchers.Proofs.Run.Abort
import ChainLaunchers.Proofs.Run.Agreement
import ChainLaunchers.Proofs.Run.Prediction
import ChainLaunchers.Proofs.Run.Rerun
import ChainLaunchers.Proofs.Line.Characters
import ChainLaunchers.Proofs.Run.Text
import ChainLaunchers.Proofs.Generator.LineEnd
import ChainLaunchers.Proofs.Run.LineEnds
import ChainLaunchers.Proofs.Run.Concatenation
import ChainLaunchers.Proofs.Run.Order
import ChainLaunchers.Proofs.Run.Blocks
import ChainLaunchers.Proofs.Run.OwnInput
import ChainLaunchers.Proofs.Literal.Gaps
import ChainLaunchers.Proofs.Literal.Scan
import ChainLaunchers.Proofs.Literal.Separation
import ChainLaunchers.Proofs.Literal.Elimination
import ChainLaunchers.Proofs.Marker.Leftmost
import ChainLaunchers.Proofs.Marker.Surroundings
import ChainLaunchers.Proofs.Generator.Namesake
import ChainLaunchers.Proofs.Generator.LaunchLine
import ChainLaunchers.Proofs.Generator.Untouched
import ChainLaunchers.Proofs.Run.CleanLines
import ChainLaunchers.Proofs.Run.Success
import ChainLaunchers.Proofs.Settings.Acceptance
import ChainLaunchers.Proofs.CommandLine.Status
import ChainLaunchers.Proofs.Path.Parents
import ChainLaunchers.Proofs.Tree.WriteFile
import ChainLaunchers.Proofs.Run.Replacements
import ChainLaunchers.Proofs.Run.Ledger
import ChainLaunchers.Proofs.Event
import ChainLaunchers.Proofs.Run.Log
import ChainLaunchers.Proofs.CommandLine.Variables
import ChainLaunchers.Proofs.CommandLine.Precedence
import ChainLaunchers.Proofs.Text.Json
import ChainLaunchers.Proofs.Run.ReportJson
import ChainLaunchers.Proofs.Run.ReportPaths
import ChainLaunchers.Proofs.Settings.Validation
import ChainLaunchers.Proofs.CommandLine.ReportPrinting
import ChainLaunchers.Proofs.Rule.Members
import ChainLaunchers.Proofs.Settings.Rules
import ChainLaunchers.Proofs.Settings.Overlay
import ChainLaunchers.Proofs.Settings.Drafts
import ChainLaunchers.Proofs.Yaml.BlankText
import ChainLaunchers.Proofs.Settings.Documents

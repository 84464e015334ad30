import Testbed.CommandLine.Options
import Testbed.CommandLine.Program
import Testbed.CommandLine.Syntax
import Testbed.Host.Action
import Testbed.Host.Directory
import Testbed.Host.Sandbox
import Testbed.Install.Build
import Testbed.Install.Error
import Testbed.Install.Packages
import Testbed.Install.Settings
import Testbed.Install.Tuning
import Testbed.Main
import Testbed.Node.Cache
import Testbed.Node.Error
import Testbed.Node.Files
import Testbed.Node.Rehearsal
import Testbed.Node.Request
import Testbed.Node.Resources
import Testbed.Node.Session
import Testbed.Node.Transport
import Testbed.Os.Family
import Testbed.Os.Release
import Testbed.Record
import Testbed.Record.Json
import Testbed.Record.Log
import Testbed.Report.Message
import Testbed.Report.Notifier
import Testbed.Report.Table
import Testbed.Rule
import Testbed.Run.Arguments
import Testbed.Run.Runner
import Testbed.Run.Settings
import Testbed.Script
import Testbed.Settings
import Testbed.Settings.Document
import Testbed.Settings.Environment
import Testbed.Settings.Load
import Testbed.Shell.Quote
import Testbed.Ssh.Settings
import Testbed.Suite.Run
import Testbed.Suite.Selection
import Testbed.Text.Blank
import Testbed.Text.CaseTable
import Testbed.Text.CodeRange
import Testbed.Text.DecimalDigit
import Testbed.Text.Line
import Testbed.Text.LowerCase
import Testbed.Text.Numeral
import Testbed.Text.Pattern
import Testbed.Text.Pieces
import Testbed.Text.Printable
import Testbed.Text.Quoted
import Testbed.Text.Utf8
import Testbed.Toml.Document
import Testbed.Toml.Field
import Testbed.Toml.Item
import Testbed.Toml.Moment
import Testbed.Toml.Number
import Testbed.Toml.Printer
import Testbed.Toml.Quotation
import Testbed.Toml.Reader
import Testbed.Toml.Value
import Testbed.Proofs.Text.Pattern
import Testbed.Proofs.Text.Blank
import Testbed.Proofs.Record.Line
import Testbed.Proofs.Text.Numeral
import Testbed.Proofs.Record.Reading
import Testbed.Proofs.Record.Layout
import Testbed.Proofs.Node.Conversation
import Testbed.Proofs.Node.PlanScript
import Testbed.Proofs.Install.Plan
import Testbed.Proofs.Install.Following
import Testbed.Proofs.Run.Plan
import Testbed.Proofs.Report.Delivery
import Testbed.Proofs.Suite.Reporting
import Testbed.Proofs.Shell.Reader
import Testbed.Proofs.Shell.Room
import Testbed.Proofs.Node.Memory
import Testbed.Proofs.Node.Commands
import Testbed.Proofs.Node.FileStore
import Testbed.Proofs.Run.Program
import Testbed.Proofs.Run.StaleFiles
import Testbed.Proofs.Run.Selection
import Testbed.Proofs.Ssh.Invocation
import Testbed.Proofs.Node.Asking
import Testbed.Proofs.Node.Place
import Testbed.Proofs.Install.Remembered
import Testbed.Proofs.Install.BuildDirectory
import Testbed.Proofs.Toml.Quotation
import Testbed.Proofs.Toml.Word
import Testbed.Proofs.Toml.Value
import Testbed.Proofs.Toml.Document
import Testbed.Proofs.Settings.Document
import Testbed.Proofs.Report.Offering
import Testbed.Proofs.Suite.Offering
import Testbed.Proofs.Run.Freshness
import Testbed.Proofs.Run.OwnLog
import Testbed.Proofs.Node.Recall
import Testbed.Proofs.Install.Retry
import Testbed.Proofs.Node.Moments
import Testbed.Proofs.Install.Budget
import Testbed.Proofs.Host.Directory
import Testbed.Proofs.Report.ResultFiles
import Testbed.Proofs.CommandLine.Course
import Testbed.Proofs.CommandLine.Stages
import Testbed.Proofs.CommandLine.Verdict
import Testbed.Proofs.CommandLine.Tables
import Testbed.Proofs.Node.Resources
import Testbed.Proofs.Install.Swap
import Testbed.Proofs.Node.Ways
import Testbed.Proofs.CommandLine.Overlay
import Testbed.Proofs.Node.Line
import Testbed.Proofs.Report.Table
import Testbed.Proofs.Text.Items
import Testbed.Proofs.Text.Stripped
import Testbed.Proofs.Text.LetterCase
import Testbed.Proofs.Os.Packages
import Testbed.Proofs.Os.Release
import Testbed.Proofs.Os.Respelling
import Testbed.Proofs.Install.Detection
import Testbed.Proofs.Suite.Listing
import Testbed.Proofs.CommandLine.Drive
import Testbed.Proofs.Rule
import Testbed.Proofs.Node.Rehearsal

import PageScan.Audit.Engine
import PageScan.Audit.Impact
import PageScan.Audit.Payload
import PageScan.Audit.Result
import PageScan.Base64
import PageScan.Browser.Config
import PageScan.Browser.Connection
import PageScan.Browser.Dialogue
import PageScan.Browser.Error
import PageScan.Browser.Frame
import PageScan.Browser.Launch
import PageScan.Browser.Launcher
import PageScan.Browser.Lifecycle
import PageScan.Browser.Navigation
import PageScan.Browser.Paused
import PageScan.Cli.Arguments
import PageScan.Cli.Environment
import PageScan.Cli.Error
import PageScan.Cli.Manifest
import PageScan.Cli.Option
import PageScan.Cli.Overrides
import PageScan.Cli.Program
import PageScan.Cli.Saved
import PageScan.Cli.Scan
import PageScan.Config
import PageScan.Decimal.Binary
import PageScan.Decimal.Layout
import PageScan.Decimal.Shortest
import PageScan.Explanation.Book
import PageScan.Explanation.Gemini
import PageScan.Explanation.Prompt
import PageScan.Explanation.State
import PageScan.Export.Artifact
import PageScan.Export.Block
import PageScan.Export.Card
import PageScan.Export.Color
import PageScan.Export.Drawing
import PageScan.Export.Format
import PageScan.Export.Layout
import PageScan.Export.Painting
import PageScan.Export.Table
import PageScan.Files
import PageScan.Heatmap.Correlation
import PageScan.Heatmap.Display
import PageScan.Heatmap.Point
import PageScan.Image.Format
import PageScan.Image.Inflate
import PageScan.Image.Jpeg
import PageScan.Image.Png
import PageScan.Image.Size
import PageScan.Interception.Decision
import PageScan.Interception.Policy
import PageScan.Json.Choice
import PageScan.Json.Decoder
import PageScan.Json.Error
import PageScan.Json.Literal
import PageScan.Json.Node
import PageScan.Json.Numeral
import PageScan.Json.Printer
import PageScan.Json.Record
import PageScan.Json.Token
import PageScan.Json.Value
import PageScan.Main
import PageScan.Page.Basic
import PageScan.Page.Call
import PageScan.Page.Script
import PageScan.Proofs.Heatmap.Correlation
import PageScan.Proofs.Scan.Run
import PageScan.Proofs.Scheduler.Accounting
import PageScan.Proofs.Scheduler.Course
import PageScan.Proofs.Scheduler.Fifo
import PageScan.Proofs.Scheduler.Order
import PageScan.Report
import PageScan.Report.Summary
import PageScan.Scan.Audit
import PageScan.Scan.Capture
import PageScan.Scan.Correlation
import PageScan.Scan.Event
import PageScan.Scan.Navigation
import PageScan.Scan.Pipeline
import PageScan.Scan.Secondary
import PageScan.Scan.Stabilization
import PageScan.Scan.World
import PageScan.ScanError
import PageScan.ScanId
import PageScan.ScanRequest
import PageScan.Scheduler.Machine
import PageScan.Scheduler.Timeline
import PageScan.Screenshot
import PageScan.Secondary.Engine
import PageScan.Secondary.Lighthouse
import PageScan.Secondary.Result
import PageScan.Simulated.Engine
import PageScan.Simulated.Page
import PageScan.Simulated.ScriptedPage
import PageScan.Text.Blank
import PageScan.Text.Find
import PageScan.Text.Hex
import PageScan.Text.Printable
import PageScan.Text.Quoted
import PageScan.Text.Ranges
import PageScan.Text.Utf8
import PageScan.Text.Wrap
import PageScan.Timestamp
import PageScan.Url.Address
import PageScan.Url.Basic
import PageScan.Url.Domain
import PageScan.Url.Domain.Composition
import PageScan.Url.Domain.Label
import PageScan.Url.Domain.Mapping
import PageScan.Url.Host
import PageScan.Url.Percent
import PageScan.Url.Punycode
import PageScan.Version
import PageScan.Proofs.Scheduler.Teardown
import PageScan.Proofs.Browser.Steps
import PageScan.Proofs.Browser.Answers
import PageScan.Proofs.Browser.Closing
import PageScan.Proofs.Browser.Table
import PageScan.Proofs.Browser.Interception
import PageScan.Proofs.Explanation.Requests
import PageScan.Proofs.Explanation.Abandoned
import PageScan.Proofs.Export.Cards
import PageScan.Proofs.Export.Margins
import PageScan.Proofs.Export.Pagination
import PageScan.Proofs.Export.Records
import PageScan.Proofs.Export.Sections
import PageScan.Proofs.Scan.SecondEngine
import PageScan.Proofs.Scan.Readback
import PageScan.Proofs.Cli.Accounts
import PageScan.Proofs.Cli.ManifestOrder
import PageScan.Proofs.Interception.OwnHost
import PageScan.Proofs.Scan.Budget
import PageScan.Proofs.Scan.Story
import PageScan.Proofs.Scheduler.Independence
import PageScan.Proofs.Scan.Lookups
import PageScan.Proofs.Scan.Sweep
import PageScan.Proofs.Scan.Styles
import PageScan.Proofs.Browser.Loading
import PageScan.Proofs.Text.Greedy
import PageScan.Proofs.Export.Cuts
import PageScan.Proofs.Audit.Payload
import PageScan.Proofs.Page.Scripts
import PageScan.Proofs.Audit.Groups
import PageScan.Proofs.Export.Lines
import PageScan.Proofs.Report.Totals
import PageScan.Proofs.Interception.FirstMatch
import PageScan.Proofs.Config
import PageScan.Proofs.Cli.Settings
import PageScan.Proofs.Heatmap.Stacking

import PageScan.Cli.Scan
import PageScan.Explanation.Book
import PageScan.Export.Artifact

/-!
# The commands on saved reports

A saved report is exported or one of its findings is explained.

* `ScanReport.load` reads a saved report.
* `exportCommand` writes it in another format.
* `explainCommand` asks for an explanation.
-/

namespace PageScan

/-- Reads a saved report. -/
def ScanReport.load (files : Files) (path : String) : Except CliError ScanReport := do
  let bytes ← (files.read path).mapError (.readReport path)
  match Text.ofUtf8? bytes with
  | none => .error (.readReport path Files.notText)
  | some text => (ScanReport.ofText text).mapError (.notReport path)

/-- The settings of a command that exports. -/
structure ExportCommand where
  report : String
  format : ExportFormat
  out : Option String := none
  deriving DecidableEq

/-- Where an export goes: to the file that is named, or beside the report. -/
def ExportCommand.target (c : ExportCommand) : String :=
  match c.out with
  | some path => path
  | none => Path.join ((Path.parent c.report).getD ".") c.format.fileName

/-- Exports a saved report, and gives the path and the artifact. -/
def exportCommand (c : ExportCommand) (d : Desk) :
    Except CliError (String × Export.Artifact × Desk) := do
  let report ← ScanReport.load d.files c.report
  let artifact := Export.Artifact.ofReport report c.format
  let bytes := artifact.bytes
  let files ← (d.files.write c.target bytes).mapError (.writeExport c.target)
  let line := "Wrote " ++ c.target ++ " (" ++ c.format.contentType ++ ", " ++
    toString bytes.length ++ " bytes)"
  return (c.target, artifact, { d with files }.print line)

/-- The settings of a command that explains. -/
structure ExplainCommand where
  report : String
  key : ExplanationKey
  deriving DecidableEq

/-- The text of the finding that is asked about. -/
def ExplainCommand.subject (c : ExplainCommand) (report : ScanReport) : Except CliError String :=
  match c.key with
  | .violation id =>
    match report.audit.violations.find? fun v => v.id = id with
    | some v => .ok v.text
    | none => .error (.noViolation id c.report)
  | .auditItem id =>
    match report.auditItemText? id with
    | some text => .ok text
    | none => .error (.noAuditItem id c.report)

/-- What the service is asked, if it is asked at all. -/
def ExplainCommand.prompt (c : ExplainCommand) (files : Files) : Except CliError String := do
  let report ← ScanReport.load files c.report
  return explanationPrompt (← c.subject report)

/-- What a reader sees of a finding that the service has spoken about. -/
def ExplanationState.shown : ExplanationState → String
  | .resolved text => text
  | .failed text => text
  | .unrequested | .pending => ExplanationState.unavailable

/-- Explains a finding. -/
def explainCommand (c : ExplainCommand) (files : Files) (service : String → ServiceAnswer) :
    Except CliError String := do
  let prompt ← c.prompt files
  return (({} : ExplanationBook).enter c.key (service prompt)).1.shown

end PageScan

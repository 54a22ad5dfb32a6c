import PageScan.Report
import PageScan.Scan.Audit
import PageScan.Scan.Capture
import PageScan.Scan.Correlation
import PageScan.Scan.Navigation
import PageScan.Scan.Secondary
import PageScan.Scan.Stabilization
import PageScan.ScanRequest

/-!
# A scan from start to end

A page is loaded, brought to rest, captured and audited; each of these but the second can end the
scan. Then the elements of the violations are looked up and the second engine is asked, which
cannot. What the scan found makes up its report.
-/

namespace PageScan

/-- What a scan works with. -/
structure Pipeline where
  config : ScanConfig
  ruleEngine : RuleEngine
  secondaryEngine : SecondaryEngine
  policy : InterceptPolicy := .standard

/-- What tells one scan from another: its identifier, and the time of day at each moment of its
clock. -/
structure ScanIdentity where
  id : ScanId
  timeAt : Nat → Timestamp

/-- What the stages of a scan found. -/
structure Findings where
  capture : PageCapture
  audit : AuditResult
  correlation : Correlation
  secondary : SecondaryResult

/-- The report of a scan. -/
def Findings.report (f : Findings) (identity : ScanIdentity) (request : ScanRequest) :
    ScanReport where
  scanId := identity.id
  url := request.url
  timestamp := identity.timeAt f.capture.takenAt
  pageWidth := f.capture.pageWidth
  pageHeight := f.capture.pageHeight
  screenshot := f.capture.screenshot
  audit := f.audit
  heatmap := f.correlation.points
  secondaryAudit := f.secondary

namespace Pipeline

variable {σ : Type}

/-- Makes the end of a stage known. -/
def completed (stage : Stage) : Scan σ Unit :=
  Scan.tell (.stageCompleted stage.name)

/-- Has the policy decide about the requests of a page. -/
def install (p : Pipeline) (page : Page σ) (url : String) : Scan σ (Except ScanError Unit) := do
  let limit := p.config.navigation.interceptInstallTimeoutMs
  match ← Scan.ask page limit "request interception install" (.interceptRequests p.policy) with
  | .ok () => return .ok ()
  | .error e =>
    return .error (.session url ("failed to install request interception: " ++ e.message))

/-- Loads the page. -/
def navigate (p : Pipeline) (page : Page σ) (url : String) :
    Scan σ (Except ScanError NavigationReport) := do
  match ← Scan.navigate page url p.config.navigation with
  | .error e => return .error e
  | .ok report =>
    if report.fellBack then
      Scan.count .fallbacks
      Scan.tell (.navigationFallback (report.strictError.getD "unknown"))
    completed .navigate
    return .ok report

/-- Looks up the elements of the violations. -/
def correlate (p : Pipeline) (page : Page σ) (audit : AuditResult) : Scan σ Correlation := do
  let correlation ← Scan.correlate page p.config.correlation audit
  if correlation.dropped ≠ 0 then Scan.count (.dropped correlation.dropped)
  Scan.tell (.heatmapCorrelated correlation.points.length correlation.dropped)
  completed .correlate
  return correlation

/-- Asks the second engine. -/
def secondaryAudit (p : Pipeline) (url : String) (endpoint : BrowserEndpoint) :
    Scan σ SecondaryResult := do
  let result ← Scan.secondaryAudit p.secondaryEngine url endpoint p.config.secondary
  if p.config.secondary.enabled && result.isDegraded then
    Scan.count .degraded
    Scan.tell (.secondaryDegraded (result.details.getD ""))
  completed .secondaryAudit
  return result

/-- The stages that can end the scan: the page is loaded, brought to rest, captured and audited. -/
def inspect (p : Pipeline) (page : Page σ) (url : String) :
    Scan σ (Except ScanError (PageCapture × AuditResult)) := do
  match ← p.install page url with
  | .error e => return .error e
  | .ok () =>
    match ← p.navigate page url with
    | .error e => return .error e
    | .ok _ =>
      let _ ← Scan.stabilize page p.config.stabilizer
      completed .stabilize
      match ← Scan.capture page p.config.capture url with
      | .error e => return .error e
      | .ok capture =>
        completed .capture
        match ← Scan.audit page p.ruleEngine p.config.audit url with
        | .error e => return .error e
        | .ok audit =>
          completed .audit
          return .ok (capture, audit)

/-- All stages. -/
def stages (p : Pipeline) (page : Page σ) (endpoint : BrowserEndpoint) (url : String) :
    Scan σ (Except ScanError Findings) := do
  match ← p.inspect page url with
  | .error e => return .error e
  | .ok (capture, audit) =>
    let correlation ← p.correlate page audit
    let secondary ← p.secondaryAudit url endpoint
    return .ok ⟨capture, audit, correlation, secondary⟩

/-- Makes the end of a scan known. -/
def conclude (identity : ScanIdentity) (request : ScanRequest) :
    Except ScanError Findings → Scan σ (Except ScanError ScanReport)
  | .ok findings => do
    let report := findings.report identity request
    Scan.count .completed
    Scan.tell (.finished report.audit.violations.length report.heatmap.length)
    return .ok report
  | .error e => do
    Scan.count .failed
    Scan.tell (.failed e.kind e.message)
    return .error e

/-- Runs a scan and makes its beginning and its end known. -/
def run (p : Pipeline) (identity : ScanIdentity) (page : Page σ) (endpoint : BrowserEndpoint)
    (request : ScanRequest) : Scan σ (Except ScanError ScanReport) := do
  Scan.count .started
  Scan.tell (.started request.url)
  conclude identity request (← p.stages page endpoint request.url)

end Pipeline

end PageScan

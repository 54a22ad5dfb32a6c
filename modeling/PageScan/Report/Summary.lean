import PageScan.Report

/-!
# The summary of a report

One line for a terminal.
-/

namespace PageScan.ScanReport

/-- The counts of violations by impact, for a reader. -/
def impactSummary (r : ScanReport) : String :=
  if r.audit.groupByImpact.isEmpty then "clean"
  else
    Text.join ", "
      (r.audit.groupByImpact.map fun g => toString g.violations.length ++ " " ++ g.impact.name)

/-- The scores of the secondary audit, for a reader. -/
def scoreSummary (r : ScanReport) : String :=
  match r.secondaryAudit.isDegraded, r.secondaryAudit.scores with
  | false, some s =>
    "perf " ++ toString s.performance ++ " / a11y " ++ toString s.accessibility ++ " / bp " ++
      toString s.bestPractices ++ " / seo " ++ toString s.seo
  | _, _ => "secondary unavailable"

/-- The report in one line. -/
def summary (r : ScanReport) : String :=
  r.url ++ ": " ++ toString r.audit.violations.length ++ " violations (" ++ r.impactSummary ++
    "), " ++ toString r.heatmap.length ++ " heatmap points, " ++ r.scoreSummary

end PageScan.ScanReport

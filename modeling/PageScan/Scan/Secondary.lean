import PageScan.Scan.World

/-!
# The secondary audit of a page

The second engine is asked once, under a ceiling. Whatever it does, the scan goes on.
-/

namespace PageScan

/-- What is said of an engine that did not answer in time. -/
def SecondaryConfig.overdue (config : SecondaryConfig) : String :=
  "secondary audit timed out after " ++ toString config.ceilingMs ++ "ms"

/-- What becomes of what an engine answered until its ceiling. -/
def SecondaryConfig.verdict (config : SecondaryConfig) :
    Option (Except String EngineReport) → SecondaryResult
  | some (.ok report) => .completed report.scores report.raw
  | some (.error e) => .degraded e
  | none => .degraded config.overdue

namespace Scan

variable {σ : Type}

/-- Asks the second engine about a page, if that is wanted. -/
def secondaryAudit (engine : SecondaryEngine) (url : String) (endpoint : BrowserEndpoint)
    (config : SecondaryConfig) : Scan σ SecondaryResult := do
  if !config.enabled then return .skipped
  else return config.verdict (← askEngine engine config.ceilingMs (.ofConfig url endpoint config))

end Scan

end PageScan

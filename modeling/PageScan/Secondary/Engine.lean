import PageScan.Config
import PageScan.Page.Call
import PageScan.Secondary.Result

/-!
# The second engine

What the second engine is asked, and what it reports. It works on the browser of the scan, through
the port on which that browser listens.
-/

namespace PageScan

/-- What the second engine is asked. -/
structure SecondaryRequest where
  url : String
  endpoint : BrowserEndpoint
  categories : List AuditCategory
  maxWaitForFcpMs : Nat
  maxWaitForLoadMs : Nat
  deriving DecidableEq

/-- The request of a scan: all categories, under the limits of its configuration. -/
def SecondaryRequest.ofConfig (url : String) (endpoint : BrowserEndpoint)
    (config : SecondaryConfig) : SecondaryRequest :=
  ⟨url, endpoint, AuditCategory.all, config.maxWaitForFcpMs, config.maxWaitForLoadMs⟩

/-- What the second engine reports: scores, and all that it wrote. -/
structure EngineReport where
  scores : CategoryScores
  raw : Json.Value

/-- A second engine. It fails with a message. -/
abbrev SecondaryEngine := SecondaryRequest → Reply String EngineReport

end PageScan

import PageScan.Config
import PageScan.Heatmap.Correlation
import PageScan.Scan.World

/-!
# Looking elements up on a page

A lookup has a limit of its own, and all lookups of a scan share a ceiling. After that no element
is looked up any more.
-/

namespace PageScan

namespace Scan

variable {σ : Type}

/-- The box that a page answers with. A page that answers with anything else has no such element. -/
def foundBox : Except PageError Json.Value → Option ElementGeometry
  | .ok .null | .error _ => none
  | .ok answer => (Json.Decoder.decodeValue ElementGeometry.decoder answer).toOption

/-- Looks an element up on a page, unless the ceiling is reached. -/
def lookUp (page : Page σ) (lookupTimeoutMs ceiling : Nat) (selector : String) :
    Scan σ (Option ElementGeometry) := do
  let left := ceiling - (← now)
  if left = 0 then return none
  else
    return foundBox
      (← ask page (min lookupTimeoutMs left) "lookup" (.evaluate (.resolve selector)))

/-- Looks up all elements of an audit on a page; the ceiling counts from `start` on. -/
def correlateFrom (page : Page σ) (config : CorrelationConfig) (start : Nat)
    (audit : AuditResult) : Scan σ Correlation :=
  Correlation.ofAudit (lookUp page config.lookupTimeoutMs (start + config.stageCeilingMs)) audit

/-- Looks up all elements of an audit on a page. -/
def correlate (page : Page σ) (config : CorrelationConfig) (audit : AuditResult) :
    Scan σ Correlation := do
  correlateFrom page config (← now) audit

end Scan

end PageScan

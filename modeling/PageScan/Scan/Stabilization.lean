import PageScan.Config
import PageScan.Scan.World

/-!
# Stabilization

Before a page is measured its fonts are awaited and it is scrolled through once, so that all that
loads late is there. None of this can fail a scan; a page that keeps growing is scrolled through
for a limited number of steps.
-/

namespace PageScan

/-- What was done to bring a page to rest. -/
structure StabilizationReport where
  fontsReady : Bool
  scrollSteps : Nat
  sweptPx : Nat
  /-- The steps ran out before the page did. -/
  truncated : Bool
  deriving DecidableEq

/-- The report as a document. -/
def StabilizationReport.toJson (r : StabilizationReport) : Json.Value :=
  .object
    [("fonts_ready", .bool r.fontsReady), ("scroll_steps", .ofNat r.scrollSteps),
      ("swept_px", .ofNat r.sweptPx), ("truncated", .bool r.truncated)]

namespace Scan

variable {σ : Type}

/-- Waits for the fonts of a page, and whether they came. -/
def awaitFonts (page : Page σ) (ceilingMs : Nat) : Scan σ Bool := do
  match ← ask page ceilingMs "fonts" (.evaluate .fontsReady) with
  | .ok _ => return true
  | .error _ => return false

/-- The height that a page tells; anything but a number counts as no height. -/
def heightOf (answer : Json.Value) : Float :=
  answer.float?.getD 0.0

/-- Scrolls down step by step until the distance reaches the height that the page tells, a step
fails, or no steps are left. -/
def sweep (page : Page σ) (config : StabilizerConfig) :
    (stepsLeft : Nat) → StabilizationReport → Scan σ StabilizationReport
  | 0, report => return { report with truncated := true }
  | stepsLeft + 1, report => do
    sleep config.scrollIntervalMs
    let script := Script.scrollBy config.scrollStepPx
    match ← ask page config.stepTimeoutMs "scroll step" (.evaluate script) with
    | .error _ => return report
    | .ok answer =>
      let report :=
        { report with
          scrollSteps := report.scrollSteps + 1, sweptPx := report.sweptPx + config.scrollStepPx }
      if Float.ofNat report.sweptPx ≥ heightOf answer then return report
      else sweep page config stepsLeft report

/-- Brings a page to rest. -/
def stabilize (page : Page σ) (config : StabilizerConfig) : Scan σ StabilizationReport := do
  let fontsReady ← awaitFonts page config.fontCeilingMs
  sleep config.settleMs
  let report ← sweep page config config.maxScrollSteps ⟨fontsReady, 0, 0, false⟩
  let _ ← ask page config.stepTimeoutMs "scroll to top" (.evaluate .scrollToTop)
  sleep config.postSweepSettleMs
  return report

end Scan

end PageScan

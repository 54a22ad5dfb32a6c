import PageScan.Config
import PageScan.Scan.World
import PageScan.ScanError

/-!
# Navigation

A page is loaded until the network is idle. If that fails it is loaded once more, and this time it
is enough that the document is there.
-/

namespace PageScan

/-- How a page came to be loaded. -/
structure NavigationReport where
  outcome : NavigationOutcome
  fellBack : Bool
  strictError : Option String
  deriving DecidableEq

namespace Scan

variable {σ : Type}

/-- Loads a page once. -/
def load (page : Page σ) (url : String) (policy : WaitPolicy) (limitMs : Nat) :
    Scan σ (Except PageError NavigationOutcome) :=
  ask page limitMs ("navigation (" ++ policy.name ++ ")") (.navigate url policy limitMs)

/-- Loads a page, at the second attempt under the relaxed policy. -/
def navigate (page : Page σ) (url : String) (config : NavigationConfig) :
    Scan σ (Except ScanError NavigationReport) := do
  match ← load page url .networkIdle config.strictTimeoutMs with
  | .ok outcome => return .ok ⟨outcome, false, none⟩
  | .error strict =>
    match ← load page url .domContentLoaded config.relaxedTimeoutMs with
    | .ok outcome => return .ok ⟨outcome, true, some strict.message⟩
    | .error relaxed => return .error (.navigation url strict.message relaxed.message)

end Scan

end PageScan

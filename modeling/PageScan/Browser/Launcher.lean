import PageScan.Browser.Launch
import PageScan.Cli.Scan

/-!
# Launchers without a network

Where there is no network a browser can be started, but not connected to, so no scan gets as far
as a page.

* `ChromeConfig.offlineError` is how a launch fails there.
* `ChromeConfig.offlineLauncher` is the launcher of such browsers.
-/

namespace PageScan

namespace ChromeConfig

/-- How a launch fails where there is no network: as it would anyway, or else for want of a
connection. -/
def offlineError (c : ChromeConfig) (start : BrowserStart) : DevToolsError :=
  match c.endpoint start with
  | .error e => e
  | .ok _ => noNetwork

/-- A launch without a network fails in that way, whatever the browser would have answered. -/
theorem launch_noConnection {σ : Type} (c : ChromeConfig) (start : BrowserStart)
    (answer : Command → σ → Except DevToolsError Json.Value × σ) :
    c.launch start noConnection answer = .error (c.offlineError start) := by
  unfold launch offlineError
  cases c.endpoint start <;> rfl

/-- A launcher where there is no network. All its launches fail, so no scan is ever run. -/
def offlineLauncher (c : ChromeConfig) (start : BrowserStart) : Scheduler.Launcher where
  launch _ _ := ⟨0, .error (c.offlineError start).toPageError⟩

end ChromeConfig

/-- The browser that a command scans with. -/
def ScanCommand.browser (c : ScanCommand) : ChromeConfig :=
  let d : ChromeConfig := {}
  { d with binary := c.chrome.getD d.binary }

end PageScan

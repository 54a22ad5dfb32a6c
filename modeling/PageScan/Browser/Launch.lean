import PageScan.Browser.Config
import PageScan.Browser.Dialogue
import PageScan.Url.Basic

/-!
# Launching a browser

A browser that is started says where it listens. It is connected to there, is told to open a page,
and the page is talked to in a session of its own.

* `devToolsUrl?` reads where the browser listens.
* `ChromeConfig.announced` is what comes of starting the browser.
* `ChromeConfig.launch` is the whole.
-/

namespace PageScan

/-- What stands before the address in the line that tells it. -/
def devToolsBanner : String := "DevTools listening on "

/-- The address that a line tells, if it tells one. -/
def devToolsUrl? (line : String) : Option String :=
  match Text.stripLead? devToolsBanner.toList (Text.trim line).toList with
  | some rest =>
    if (Text.stripLead? "ws://".toList rest).isSome then some (String.ofList rest) else none
  | none => none

/-- The port that an address names. -/
def portOfUrl? (url : String) : Option Nat :=
  (Url.ofText url).toOption.bind fun u => u.port

/-- What a browser does when it is started. -/
inductive BrowserStart
  /-- It cannot be started. -/
  | missing (reason : String)
  /-- It says something at once, and then either ends or says nothing more. -/
  | started (lines : List String) (ended : Bool)

/-- A browser with one page. -/
structure BrowserSession where
  endpoint : BrowserEndpoint
  page : DevToolsPage
  deriving DecidableEq

/-- Opens a page in a browser. -/
def openPage : Asking DevToolsError DevToolsPage := do
  let target ← Asking.command
    ⟨"Target.createTarget", .object [("url", .string "about:blank")], none⟩
  let targetId ← ExceptT.mk (.done (stringField target "Target.createTarget" "targetId"))
  let attached ← Asking.command
    ⟨"Target.attachToTarget", .object [("flatten", .bool true), ("targetId", .string targetId)],
      none⟩
  let sessionId ← ExceptT.mk (.done (stringField attached "Target.attachToTarget" "sessionId"))
  let page : DevToolsPage := ⟨sessionId⟩
  page.attach
  return page

namespace ChromeConfig

/-- The error of a browser that cannot be started. -/
def missingError (c : ChromeConfig) (reason : String) : DevToolsError :=
  .launch (c.binary ++ ": " ++ reason)

/-- Where a browser that is started says that it listens. -/
def announced (c : ChromeConfig) : BrowserStart → Except DevToolsError String
  | .missing reason => .error (c.missingError reason)
  | .started lines ended =>
    match lines.findSome? devToolsUrl? with
    | some url => .ok url
    | none =>
      if ended then
        .error (.launch "browser exited before announcing its devtools endpoint")
      else .error (.timeout "browser startup" c.startupTimeoutMs)

/-- Where a browser listens, with its port. -/
def endpoint (c : ChromeConfig) (start : BrowserStart) : Except DevToolsError BrowserEndpoint := do
  let url ← c.announced start
  match portOfUrl? url with
  | some port => return ⟨url, port⟩
  | none => .error (.launch ("no port in devtools url " ++ url))

/-- Launches a browser: `connect` opens the connection, and `answer` is what the browser says to
commands. -/
def launch {σ : Type} (c : ChromeConfig) (start : BrowserStart)
    (connect : String → Except DevToolsError σ)
    (answer : Command → σ → Except DevToolsError Json.Value × σ) :
    Except DevToolsError (BrowserSession × σ) := do
  let endpoint ← c.endpoint start
  let state ← connect endpoint.wsUrl
  let (page, state) := (openPage.run).run answer state
  return (⟨endpoint, ← page⟩, state)

end ChromeConfig

/-- The error of a connection for which there is no network. -/
def noNetwork : DevToolsError :=
  .webSocket "IO error: Network is unreachable (os error 101)"

/-- Where there is no network, no connection opens. -/
def noConnection {σ : Type} (_ : String) : Except DevToolsError σ :=
  .error noNetwork

end PageScan

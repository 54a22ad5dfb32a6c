import PageScan.Browser.Paused

/-!
# Dialogues with a browser

Most of what a page is asked takes a few commands, one after the other, each of which may depend
on the answers before it. A `Dialogue` is such a course of commands; whoever answers them runs it.

* `Dialogue.run` runs a dialogue.
* `DevToolsPage` is a page in a browser, with the dialogues for what it can be asked.
-/

namespace PageScan

/-- Commands with what is done on their answers, down to a result. -/
inductive Dialogue (α : Type)
  | done (a : α)
  | ask (c : Command) (next : Except DevToolsError Json.Value → Dialogue α)

namespace Dialogue

/-- Goes on with another dialogue. -/
def bind {α β : Type} (d : Dialogue α) (f : α → Dialogue β) : Dialogue β :=
  match d with
  | .done a => f a
  | .ask c next => .ask c fun r => (next r).bind f

instance : Monad Dialogue where
  pure := .done
  bind := Dialogue.bind

/-- Runs a dialogue with someone who answers. -/
def run {σ α : Type} (answer : Command → σ → Except DevToolsError Json.Value × σ) :
    Dialogue α → σ → α × σ
  | .done a, s => (a, s)
  | .ask c next, s => run answer (next (answer c s).1) (answer c s).2

end Dialogue

/-- A dialogue that may end with an error. -/
abbrev Asking (ε α : Type) := ExceptT ε Dialogue α

namespace Asking

/-- Gives a command. -/
def command (c : Command) : Asking DevToolsError Json.Value :=
  ExceptT.mk (Dialogue.ask c Dialogue.done)

/-- The errors of the connection as errors of the page. -/
def onPage {α : Type} (d : Asking DevToolsError α) : Asking PageError α :=
  ExceptT.mk (Dialogue.bind d.run fun r => .done (r.mapError DevToolsError.toPageError))

end Asking

/-- A text that an answer holds under a name. -/
def stringField (v : Json.Value) (method name : String) : Except DevToolsError String :=
  match (v.member? name).bind Json.Value.string? with
  | some s => .ok s
  | none => .error (.missingField method name)

/-- What a script that was run in a page came to: its value, or what it threw. -/
def evaluationValue (result : Json.Value) : Except PageError Json.Value :=
  match result.member? "exceptionDetails" with
  | some details =>
    let thrown := ((details.member? "exception").bind (·.member? "description")).bind
      Json.Value.string?
    let text := (details.member? "text").bind Json.Value.string?
    .error (.script ((thrown <|> text).getD "uncaught exception"))
  | none => .ok (((result.member? "result").bind (·.member? "value")).getD .null)

/-- What stands before the style sheet in the script that adds it. -/
def styleLead : String :=
  "(() => \x7b const style = document.createElement('style'); style.textContent = "

/-- What stands behind the style sheet in that script. -/
def styleTail : String :=
  "; (document.head || document.documentElement).appendChild(style); return true; \x7d)()"

/-- The script that adds a style sheet to a page. The sheet stands in it as a string literal. -/
def styleScript (css : String) : String :=
  styleLead ++ Json.literal css ++ styleTail

/-- A page in a browser, known by the session in which it is talked to. -/
structure DevToolsPage where
  sessionId : String
  deriving DecidableEq

namespace DevToolsPage

/-- Gives the page a command. -/
def call (p : DevToolsPage) (method : String) (params : List (String × Json.Value)) :
    Asking DevToolsError Json.Value :=
  .command ⟨method, .object (Json.sortMembers params), some p.sessionId⟩

/-- Turns on what a scan relies on. -/
def attach (p : DevToolsPage) : Asking DevToolsError Unit := do
  let _ ← p.call "Page.enable" []
  let _ ← p.call "Runtime.enable" []
  let _ ← p.call "Page.setLifecycleEventsEnabled" [("enabled", .bool true)]

/-- Runs a script and waits for its value. -/
def evaluate (p : DevToolsPage) (script : String) : Asking PageError Json.Value := do
  let result ← (p.call "Runtime.evaluate"
    [("expression", .string script), ("awaitPromise", .bool true),
      ("returnByValue", .bool true)]).onPage
  ExceptT.mk (.done (evaluationValue result))

/-- Runs a script whose value does not matter. -/
def injectScript (p : DevToolsPage) (source : String) : Asking PageError Unit := do
  let result ← (p.call "Runtime.evaluate"
    [("expression", .string source), ("returnByValue", .bool false)]).onPage
  let _ ← ExceptT.mk (.done (evaluationValue result))

/-- Adds a style sheet. -/
def injectStyle (p : DevToolsPage) (source : String) : Asking PageError Unit := do
  let _ ← p.evaluate (styleScript source)

/-- The box of the whole document, from the measures of a page. -/
def contentBox (metrics : Json.Value) : Except DevToolsError Json.Value :=
  match metrics.member? "cssContentSize" <|> metrics.member? "contentSize" with
  | none => .error (.missingField "Page.getLayoutMetrics" "cssContentSize")
  | some size =>
    let side (name : String) : Json.Value :=
      .ofFloat (((size.member? name).bind Json.Value.float?).getD 0).ceil
    .ok (.object [("height", side "height"), ("scale", .ofNat 1), ("width", side "width"),
      ("x", .ofNat 0), ("y", .ofNat 0)])

/-- What the command for a screenshot says about the part of the page that is wanted. -/
def screenshotArea (p : DevToolsPage) (options : ScreenshotOptions) :
    Asking PageError (List (String × Json.Value)) := do
  if options.fullPage then
    let metrics ← (p.call "Page.getLayoutMetrics" []).onPage
    let box ← Asking.onPage (ExceptT.mk (.done (contentBox metrics)))
    return [("captureBeyondViewport", .bool true), ("clip", box)]
  else return []

/-- Takes a screenshot. -/
def screenshot (p : DevToolsPage) (options : ScreenshotOptions) :
    Asking PageError (List UInt8) := do
  let area ← p.screenshotArea options
  let quality := match options.format with
    | .jpeg => [("quality", Json.Value.ofNat options.quality)]
    | .png => []
  let result ← (p.call "Page.captureScreenshot"
    ([("format", .string options.format.name), ("fromSurface", .bool true)] ++ quality ++
      area)).onPage
  let data ← Asking.onPage (ExceptT.mk (.done (stringField result "Page.captureScreenshot" "data")))
  ExceptT.mk <| .done <|
    (Base64.decode data).mapError fun e => .protocol ("screenshot payload: " ++ e.message)

/-- Where the page is after a load of `url`. -/
def finalUrl (p : DevToolsPage) (url : String) : Dialogue String := do
  match ← (p.evaluate "window.location.href").run with
  | .ok (.string s) => return s
  | _ => return url

end DevToolsPage

end PageScan

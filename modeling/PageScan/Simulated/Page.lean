import PageScan.Heatmap.Point
import PageScan.Interception.Decision
import PageScan.Page.Call
import PageScan.Simulated.ScriptedPage

/-!
# Simulated pages

A small stand-in for a browser page. It scrolls, grows, knows where its elements are, and can be
told to fail or to hang at each thing that it does. It remembers what was done to it.
-/

namespace PageScan

/-- How a simulated page loads. -/
inductive SimulatedLoad
  | succeed
  | hangStrict
  | failStrict (reason : String)
  | failAll (reason : String)

/-- How the rule engine fares on a simulated page. -/
inductive SimulatedAudit
  | payload (v : Json.Value)
  | injectionFails (reason : String)
  | engineMissing
  | runThrows (reason : String)

/-- What a simulated page never answers. -/
structure SimulatedHangs where
  fonts : Bool := false
  scroll : Bool := false
  measure : Bool := false
  resolve : Bool := false
  intercept : Bool := false

/-- A simulated page: how it behaves, and what was done to it. -/
structure SimulatedPage where
  load : SimulatedLoad := .succeed
  loadDelayMs : Nat := 0
  width : Nat := 1280
  height : Nat := 2400
  /-- How much the page grows with each step of scrolling. -/
  growth : Nat := 0
  elements : List (String × ElementGeometry) := []
  scrollX : Float := 0.0
  scrollY : Float := 0.0
  audit : SimulatedAudit := .payload (ScriptedPage.plainAnswer [] .auditRun)
  styleFails : Bool := false
  screenshot : Except String (List UInt8) := .ok ScriptedPage.plainScreenshot
  hangs : SimulatedHangs := {}
  navigations : List WaitPolicy := []
  position : Nat := 0
  scrollSteps : Nat := 0
  engineLoaded : Bool := false
  styles : Nat := 0
  lookups : Nat := 0
  policy : Option InterceptPolicy := none

namespace SimulatedPage

/-- The height of the page as it is now. -/
def currentHeight (p : SimulatedPage) : Nat :=
  p.height + p.growth * p.scrollSteps

/-- What the installed policy says about a request. -/
def decision? (p : SimulatedPage) (r : InterceptedRequest) : Option InterceptDecision :=
  p.policy.map (·.decide r)

/-- What the page says about the element whose selector stands in a script. -/
def box (p : SimulatedPage) (script : String) : Json.Value :=
  match (Script.selectorOf? script).bind fun selector => p.elements.lookup selector with
  | some g =>
    .object
      [("height", .ofFloat g.height), ("left", .ofFloat (g.left + p.scrollX)),
        ("top", .ofFloat (g.top + p.scrollY)), ("width", .ofFloat g.width)]
  | none => .null

/-- Loads the page under a policy. -/
def navigate (p : SimulatedPage) (url : String) (policy : WaitPolicy) :
    Reply PageError NavigationOutcome :=
  let outcome : Option (Except PageError NavigationOutcome) :=
    match p.load, policy with
    | .hangStrict, .networkIdle => none
    | .failStrict reason, .networkIdle => some (.error (.navigation reason))
    | .failAll reason, _ => some (.error (.navigation reason))
    | _, _ => some (.ok ⟨url, policy⟩)
  ⟨p.loadDelayMs, outcome⟩

/-- Runs a script in the page. -/
def evaluate (p : SimulatedPage) : Script → Reply PageError Json.Value × SimulatedPage
  | .fontsReady => (if p.hangs.fonts then .never else .now (.bool true), p)
  | .scrollBy step =>
    if p.hangs.scroll then (.never, p)
    else
      let p := { p with position := p.position + step, scrollSteps := p.scrollSteps + 1 }
      (.now (.ofNat p.currentHeight), p)
  | .scrollToTop =>
    if p.hangs.scroll then (.never, p) else (.now (.bool true), { p with position := 0 })
  | .documentSize =>
    if p.hangs.measure then (.never, p)
    else (.now (.object [("height", .ofNat p.currentHeight), ("width", .ofNat p.width)]), p)
  | .auditProbe => (.now (.bool p.engineLoaded), p)
  | .auditRun =>
    match p.audit with
    | .payload v => (.now v, p)
    | .runThrows reason => (.refuse (.script reason), p)
    | _ => (.now (ScriptedPage.plainAnswer [] .auditRun), p)
  | .resolve selector =>
    let p := { p with lookups := p.lookups + 1 }
    (if p.hangs.resolve then .never else .now (p.box (Script.resolve selector).text), p)

/-- What the page answers to a call, and the page after it. -/
def answer (call : PageCall) (p : SimulatedPage) : Reply PageError call.Answer × SimulatedPage :=
  match call with
  | .navigate url policy _ =>
    (p.navigate url policy, { p with navigations := p.navigations ++ [policy] })
  | .evaluate script => p.evaluate script
  | .injectScript _ =>
    match p.audit with
    | .injectionFails reason => (.refuse (.script reason), p)
    | .engineMissing => (.now (), p)
    | _ => (.now (), { p with engineLoaded := true })
  | .injectStyle _ =>
    if p.styleFails then
      (.refuse (.script "style-src blocked by content security policy"), p)
    else (.now (), { p with styles := p.styles + 1 })
  | .screenshot _ =>
    match p.screenshot with
    | .ok bytes => (.now bytes, p)
    | .error reason => (.refuse (.protocol reason), p)
  | .interceptRequests policy =>
    if p.hangs.intercept then (.never, p) else (.now (), { p with policy := some policy })

/-- Simulated pages as pages. -/
def page : Page SimulatedPage := ⟨answer⟩

/-- Where the browser of a simulated page would listen. -/
def endpoint : BrowserEndpoint := ⟨"ws://127.0.0.1:9222/devtools/browser/fake", 9222⟩

end SimulatedPage

end PageScan

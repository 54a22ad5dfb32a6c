import PageScan.Json.Printer
import PageScan.Json.Token
import PageScan.Text.Blank
import PageScan.Text.Find

/-!
# Scripts

What a scan runs inside a page. Each script starts with a comment that names it, so that a page
that is no browser can tell what is asked. A selector stands in its script as a string literal.
-/

namespace PageScan

/-- The scripts of a scan. -/
inductive Script
  /-- Waits until the fonts are loaded. -/
  | fontsReady
  /-- Measures the document. -/
  | documentSize
  /-- Goes back to the top. -/
  | scrollToTop
  /-- Asks whether the rule engine is there. -/
  | auditProbe
  /-- Runs the rule engine. -/
  | auditRun
  /-- Scrolls down by so many pixels and tells the height of the document. -/
  | scrollBy (step : Nat)
  /-- Finds the box of the first element that matches a selector. -/
  | resolve (selector : String)
  deriving DecidableEq

namespace Script

/-- What stands before the name of a script. -/
def tagLead : String := "/*uxa:"

/-- What stands behind the name of a script. -/
def tagEnd : String := "*/"

/-- The name of a script. -/
def tag : Script → String
  | .fontsReady => "fonts-ready"
  | .documentSize => "document-size"
  | .scrollToTop => "scroll-top"
  | .auditProbe => "audit-probe"
  | .auditRun => "audit-run"
  | .scrollBy _ => "scroll-by"
  | .resolve _ => "resolve"

/-- What stands before the selector in the script that resolves it. -/
def selectorLead : String := "const selector = "

/-- What stands behind the selector in that script. -/
def selectorTail : String :=
  "; let el = null; " ++
    "try \x7b el = document.querySelector(selector); \x7d catch (e) \x7b return null; \x7d " ++
    "if (!el) return null; const r = el.getBoundingClientRect(); " ++
    "return \x7b left: r.left + window.scrollX, top: r.top + window.scrollY, " ++
    "width: r.width, height: r.height \x7d; \x7d)()"

/-- The script behind its name. -/
def body : Script → String
  | .fontsReady =>
    "(document.fonts ? document.fonts.ready.then(() => true) : Promise.resolve(true))"
  | .documentSize =>
    "(\x7b width: document.documentElement.scrollWidth, " ++
      "height: document.documentElement.scrollHeight \x7d)"
  | .scrollToTop => "(window.scrollTo(0, 0), true)"
  | .auditProbe => "(typeof window.axe !== 'undefined')"
  | .auditRun =>
    "window.axe.run(document).then(r => (\x7b violations: r.violations, passes: r.passes, " ++
      "incomplete: r.incomplete \x7d))"
  | .scrollBy step =>
    "(() => \x7b const step = " ++ toString step ++ "; window.scrollBy(0, step); " ++
      "return document.body ? document.body.scrollHeight : " ++
      "document.documentElement.scrollHeight; \x7d)()"
  | .resolve selector =>
    "(() => \x7b " ++ selectorLead ++ Json.literal selector ++ selectorTail

/-- The script. -/
def text (s : Script) : String :=
  tagLead ++ s.tag ++ tagEnd ++ " " ++ s.body

/-- The name that a script starts with. -/
def tagOf? (script : String) : Option String := do
  let rest ← Text.stripLead? tagLead.toList (Text.trimLeft script.toList)
  let (tag, _) ← Text.splitOnce? tagEnd.toList rest
  return String.ofList tag

/-- The selector in a script that resolves one, as whoever does not run the script reads it. -/
def selectorOf? (script : String) : Option String := do
  let (_, rest) ← Text.splitOnce? selectorLead.toList script.toList
  Json.leadingText? rest

end Script

end PageScan

import PageScan.Page.Basic
import PageScan.Page.Script
import PageScan.Interception.Policy

/-!
# Calls to a page

A scan drives a page by calls, each of which has its own kind of answer. A `Page` is anything that
answers calls: it may take its time, refuse, or never answer, and what it does may depend on the
calls before.
-/

namespace PageScan

/-- What a page can be asked to do. -/
inductive PageCall
  | navigate (url : String) (policy : WaitPolicy) (limitMs : Nat)
  | evaluate (script : Script)
  | injectScript (source : String)
  | injectStyle (source : String)
  | screenshot (options : ScreenshotOptions)
  | interceptRequests (policy : InterceptPolicy)
  deriving DecidableEq

/-- A line of a log that tells about a call. Style sheets and policies are long, so it is left open
how they are told about. -/
def PageCall.line (style : String → String) (policy : InterceptPolicy → String) :
    PageCall → String
  | .navigate url wait limitMs => "navigate " ++ url ++ " " ++ wait.name ++ " " ++ toString limitMs
  | .evaluate (.resolve selector) => "evaluate resolve " ++ selector
  | .evaluate (.scrollBy step) => "evaluate scroll-by " ++ toString step
  | .evaluate script => "evaluate " ++ script.tag
  | .injectScript source => "inject_script " ++ source
  | .injectStyle source => "inject_style " ++ style source
  | .screenshot o =>
    "screenshot " ++ toString o.fullPage ++ " " ++ o.format.mediaType ++ " " ++ toString o.quality
  | .interceptRequests p => "intercept_requests " ++ policy p

/-- What a page answers to a call. -/
@[reducible] def PageCall.Answer : PageCall → Type
  | .navigate .. => NavigationOutcome
  | .evaluate _ => Json.Value
  | .injectScript _ => Unit
  | .injectStyle _ => Unit
  | .screenshot _ => List UInt8
  | .interceptRequests _ => Unit

/-- What comes back on a call: after a delay an answer or a refusal, or never anything. -/
structure Reply (ε α : Type) where
  delayMs : Nat
  outcome : Option (Except ε α)

namespace Reply

/-- An answer without delay. -/
def now {ε α : Type} (a : α) : Reply ε α :=
  ⟨0, some (.ok a)⟩

/-- A refusal without delay. -/
def refuse {ε α : Type} (e : ε) : Reply ε α :=
  ⟨0, some (.error e)⟩

/-- No answer, ever. -/
def never {ε α : Type} : Reply ε α :=
  ⟨0, none⟩

end Reply

/-- A page with a state of type `σ`. -/
structure Page (σ : Type) where
  answer : (call : PageCall) → σ → Reply PageError call.Answer × σ

end PageScan

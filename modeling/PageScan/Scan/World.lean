import PageScan.Scan.Event
import PageScan.Secondary.Engine

/-!
# The world of a scan

A scan runs on a clock of milliseconds that moves only when the scan waits. The world holds the
clock, the page, and a record of all calls, to the page and to the second engine, and of everything
that the scan makes known.

A call is asked under a deadline. An answer without delay always counts, an answer that comes
exactly at the deadline counts too, and otherwise the clock stands at the deadline.
-/

namespace PageScan

/-- What a scan makes known: an event, or that a counter is raised. -/
inductive Notice
  | event (e : ScanEvent)
  | counter (c : Counter)
  deriving DecidableEq

/-- The clock, the page, and what happened so far, each with its time. -/
structure World (σ : Type) where
  now : Nat
  page : σ
  calls : List (Nat × PageCall)
  engineCalls : List SecondaryRequest
  notices : List (Nat × Notice)

/-- A computation in the world of a scan. -/
abbrev Scan (σ α : Type) := StateM (World σ) α

namespace World

/-- The world at the start. -/
def start {σ : Type} (page : σ) : World σ :=
  ⟨0, page, [], [], []⟩

/-- The events, in order. -/
def events {σ : Type} (w : World σ) : List ScanEvent :=
  w.notices.filterMap fun
    | (_, .event e) => some e
    | _ => none

end World

/-- The counts after what was made known. -/
def Metrics.after (m : Metrics) (notices : List (Nat × Notice)) : Metrics :=
  notices.foldl (fun m n => match n.2 with
    | .counter c => m.count c
    | .event _ => m) m

namespace Scan

variable {σ : Type}

/-- The time. -/
def now : Scan σ Nat :=
  fun w => (w.now, w)

/-- Waits. -/
def sleep (ms : Nat) : Scan σ Unit :=
  fun w => ((), { w with now := w.now + ms })

/-- Makes something known. -/
def notice (n : Notice) : Scan σ Unit :=
  fun w => ((), { w with notices := w.notices ++ [(w.now, n)] })

/-- Makes an event known. -/
def tell (e : ScanEvent) : Scan σ Unit :=
  notice (.event e)

/-- Raises a counter. -/
def count (c : Counter) : Scan σ Unit :=
  notice (.counter c)

/-- The time at which a reply is there, if that is in time. -/
def arrival? (now deadline delayMs : Nat) : Option Nat :=
  if delayMs = 0 ∨ now + delayMs ≤ deadline then some (now + delayMs) else none

/-- Waits for a reply until a deadline. -/
def await {ε α : Type} (deadline : Nat) (reply : Reply ε α) : Scan σ (Option (Except ε α)) :=
  fun w =>
    match reply.outcome, arrival? w.now deadline reply.delayMs with
    | some outcome, some time => (some outcome, { w with now := time })
    | _, _ => (none, { w with now := max w.now deadline })

/-- Calls the page and waits for its answer until a deadline. -/
def askBy (page : Page σ) (deadline : Nat) (call : PageCall) :
    Scan σ (Option (Except PageError call.Answer)) :=
  fun w =>
    let (reply, state) := page.answer call w.page
    await deadline reply { w with page := state, calls := w.calls ++ [(w.now, call)] }

/-- Calls the page and waits for its answer for so long; an answer that does not come is a failure
of the operation. -/
def ask (page : Page σ) (limitMs : Nat) (operation : String) (call : PageCall) :
    Scan σ (Except PageError call.Answer) := do
  match ← askBy page ((← now) + limitMs) call with
  | some outcome => return outcome
  | none => return .error (.timeout operation limitMs)

/-- Calls the second engine and waits for its report for so long. -/
def askEngine (engine : SecondaryEngine) (limitMs : Nat) (request : SecondaryRequest) :
    Scan σ (Option (Except String EngineReport)) :=
  fun w =>
    await (w.now + limitMs) (engine request) { w with engineCalls := w.engineCalls ++ [request] }

end Scan

end PageScan

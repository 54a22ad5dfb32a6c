import PageScan.Browser.Frame
import PageScan.Browser.Lifecycle

/-!
# Loading a page in a browser

A load is asked for with one command. The browser answers which load it has begun, and tells by
events how far it comes; these may arrive before the answer. The events of the page are kept from
the moment the load is asked for, so that none is missed.

* `Traffic` is what arrives, with the time since the load was asked for.
* `awaitLoad` says what becomes of the load.
-/

namespace PageScan

/-- Something that arrives over a connection. -/
inductive Arrival
  | frame (i : Inbound)
  | closed

/-- What arrives, in order, with its time. -/
abbrev Traffic := List (Nat × Arrival)

/-- A load that was asked for. -/
structure PendingLoad where
  sessionId : String
  wait : WaitPolicy
  limitMs : Nat
  /-- The number of the command that asks for it, and the time the answer may take. -/
  commandId : Nat
  commandTimeoutMs : Nat

namespace PendingLoad

/-- The command that asks for a load. -/
def commandName : String := "Page.navigate"

/-- The event that tells about a load. -/
def eventName : String := "Page.lifecycleEvent"

/-- The load takes too long. -/
def overdue (l : PendingLoad) : PageError :=
  .timeout ("navigation (" ++ l.wait.name ++ ")") l.limitMs

/-- What is said if there is no answer in time: the time of the command counts if it is over
first. -/
def unanswered (l : PendingLoad) : PageError :=
  if l.commandTimeoutMs ≤ l.limitMs then .timeout commandName l.commandTimeoutMs else l.overdue

/-- The answer to the command, with the events that were heard before it and what arrives after
it. -/
def awaitAnswer (l : PendingLoad) (heard : List DevToolsEvent) :
    Traffic → Except PageError (Json.Value × List DevToolsEvent × Traffic)
  | [] => .error l.unanswered
  | (time, arrival) :: rest =>
    if min l.limitMs l.commandTimeoutMs < time then .error l.unanswered
    else
      match arrival with
      | .closed => .error .closed
      | .frame (.event e) =>
        awaitAnswer l (if e.method = eventName then heard ++ [e] else heard) rest
      | .frame (.response id result) =>
        if id = l.commandId then
          match result with
          | .ok v => .ok (v, heard, rest)
          | .error e => .error (DevToolsError.toPageError (.remote commandName e.code e.message))
        else awaitAnswer l heard rest

/-- Takes note of an event, if it is about the page. -/
def observe (l : PendingLoad) (w : LifecycleWatch) (e : DevToolsEvent) : LifecycleWatch :=
  if e.is eventName l.sessionId then w.observe e.params else w

/-- The event is about the page, and with it the load counts as finished. -/
def completes (l : PendingLoad) (w : LifecycleWatch) (e : DevToolsEvent) : Bool :=
  e.is eventName l.sessionId && (w.observe e.params).isSatisfied

/-- Takes note of events until the load counts as finished. -/
def watchHeard (l : PendingLoad) (w : LifecycleWatch) :
    List DevToolsEvent → LifecycleWatch × Bool
  | [] => (w, false)
  | e :: rest =>
    if l.completes w e then (l.observe w e, true) else watchHeard l (l.observe w e) rest

/-- Waits until the load counts as finished. -/
def watchTraffic (l : PendingLoad) (w : LifecycleWatch) : Traffic → Except PageError Unit
  | [] => .error l.overdue
  | (time, arrival) :: rest =>
    if l.limitMs < time then .error l.overdue
    else
      match arrival with
      | .closed => .error .closed
      | .frame (.event e) =>
        if l.completes w e then .ok () else watchTraffic l (l.observe w e) rest
      | .frame (.response ..) => watchTraffic l w rest

/-- What becomes of a load. A load within a document needs no waiting. -/
def awaitLoad (l : PendingLoad) (traffic : Traffic) : Except PageError Unit := do
  let (answer, heard, rest) ← l.awaitAnswer [] traffic
  match (answer.member? "errorText").bind Json.Value.string? with
  | some reason => .error (.navigation reason)
  | none =>
    match (answer.member? "loaderId").bind Json.Value.string? with
    | none => .ok ()
    | some loader =>
      match l.watchHeard ⟨some loader, l.wait, false, false, false⟩ heard with
      | (_, true) => .ok ()
      | (w, false) => l.watchTraffic w rest

end PendingLoad

end PageScan

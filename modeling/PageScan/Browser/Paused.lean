import PageScan.Browser.Frame
import PageScan.Interception.Decision

/-!
# Paused requests

While requests are intercepted, the browser pauses each of them and tells about it. A filter says
with which command the request is resumed.
-/

namespace PageScan

/-- A request that the browser has paused. -/
structure PausedRequest where
  id : String
  request : InterceptedRequest

namespace PausedRequest

/-- The name of the event that tells about a paused request. -/
def eventName : String := "Fetch.requestPaused"

/-- The paused request of an event. -/
def ofParams? (params : Json.Value) : Option PausedRequest := do
  let id ← (← params.member? "requestId").string?
  let url ← (← (← params.member? "request").member? "url").string?
  let resource := match (params.member? "resourceType").bind Json.Value.string? with
    | some name => ResourceType.ofName name
    | none => .other "unknown"
  return ⟨id, ⟨resource, url⟩⟩

/-- The command that resumes a request as a filter decides. -/
def command (p : PausedRequest) (filter : RequestFilter) (session : String) : Command :=
  if (filter p.request).isAbort then
    ⟨"Fetch.failRequest",
      .object [("errorReason", .string "BlockedByClient"), ("requestId", .string p.id)],
      some session⟩
  else ⟨"Fetch.continueRequest", .object [("requestId", .string p.id)], some session⟩

/-- The command that an event calls for, if it is about a paused request of the page. -/
def resume? (filter : RequestFilter) (session : String) (e : DevToolsEvent) : Option Command :=
  if e.is eventName session then (ofParams? e.params).map fun p => p.command filter session
  else none

end PausedRequest

end PageScan

import PageScan.Json.Value
import PageScan.Page.Basic

/-!
# Waiting for a load

A page tells how far it has come with a load. A watch gathers what is told about one load until
its policy is satisfied; what is told about another load does not count.
-/

namespace PageScan

/-- What is known about a load. -/
structure LifecycleWatch where
  /-- The load that is watched; any load, if it is not known. -/
  loaderId : Option String
  wait : WaitPolicy
  contentLoaded : Bool := false
  loaded : Bool := false
  almostIdle : Bool := false
  deriving DecidableEq

namespace LifecycleWatch

/-- The load counts as finished. -/
def isSatisfied (w : LifecycleWatch) : Bool :=
  match w.wait with
  | .domContentLoaded => w.contentLoaded
  | .networkIdle => w.loaded && w.almostIdle

/-- The event is about another load. -/
def isForeign (w : LifecycleWatch) (params : Json.Value) : Bool :=
  match w.loaderId, (params.member? "loaderId").bind Json.Value.string? with
  | some expected, some actual => expected ≠ actual
  | _, _ => false

/-- Takes note of a step of the load. -/
def note (w : LifecycleWatch) : String → LifecycleWatch
  | "DOMContentLoaded" => { w with contentLoaded := true }
  | "load" => { w with loaded := true }
  | "networkAlmostIdle" => { w with almostIdle := true }
  | _ => w

/-- Takes note of an event. -/
def observe (w : LifecycleWatch) (params : Json.Value) : LifecycleWatch :=
  if w.isForeign params then w
  else
    match (params.member? "name").bind Json.Value.string? with
    | some name => w.note name
    | none => w

end LifecycleWatch

end PageScan

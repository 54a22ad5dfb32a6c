import PageScan.Browser.Error
import PageScan.Json.Printer
import PageScan.Json.Choice

/-!
# Frames

What goes over the connection to a browser. The program sends commands, each with a number; the
browser sends answers, which carry the number of their command, and events.

* `Inbound.ofText` reads a frame from the browser.
* `Command.frame` writes a command.
-/

namespace PageScan

/-- Something that happened in the browser. -/
structure DevToolsEvent where
  method : String
  /-- The page that the event is about, if it is about one. -/
  sessionId : Option String
  params : Json.Value

/-- The event has a name and is about a page. -/
def DevToolsEvent.is (e : DevToolsEvent) (method session : String) : Bool :=
  e.method = method && e.sessionId = some session

/-- The error with which a browser answers a command. -/
structure RemoteError where
  code : Int
  message : String
  deriving DecidableEq

/-- A frame from the browser. -/
inductive Inbound
  | response (id : Nat) (result : Except RemoteError Json.Value)
  | event (e : DevToolsEvent)

/-- Reads an error. -/
def RemoteError.decoder : Json.Decoder RemoteError :=
  .record "RemoteError"
    (.cons (.required "code" .i64) <| .cons (.required "message" .string) .nil)
    fun (code, message, ()) => ⟨code, message⟩

namespace Inbound

/-- The members of a frame. -/
structure Members where
  id : Option Nat
  method : Option String
  sessionId : Option String
  params : Json.Value
  result : Option Json.Value
  error : Option RemoteError

/-- Reads the members of a frame. -/
def Members.decoder : Json.Decoder Members :=
  .record "RawInbound"
    (.cons (.optional "id" .u64) <|
      .cons (.optional "method" .string) <|
      .cons (.optional "sessionId" .string) <|
      .cons (.defaulted "params" .any .null) <|
      .cons (.optional "result" .any) <|
      .cons (.optional "error" RemoteError.decoder) .nil)
    fun (id, method, sessionId, params, result, error, ()) =>
      ⟨id, method, sessionId, params, result, error⟩

/-- What the members say: with a number they are an answer, else with a name an event. -/
def ofMembers (m : Members) : Except DevToolsError Inbound :=
  match m.id, m.method with
  | some id, _ =>
    .ok <| .response id <|
      match m.error with
      | some e => .error e
      | none => .ok (m.result.getD .null)
  | none, some method => .ok (.event ⟨method, m.sessionId, m.params⟩)
  | none, none => .error (.missingField "inbound frame" "id or method")

/-- Reads a frame. -/
def ofText (text : String) : Except DevToolsError Inbound := do
  ofMembers (← (Members.decoder.decodeText text).mapError .malformed)

end Inbound

/-- Something that the browser, or one page in it, is told to do. -/
structure Command where
  method : String
  params : Json.Value
  sessionId : Option String

/-- The frame of a command with a number. -/
def Command.frame (c : Command) (id : Nat) : String :=
  Json.Value.compact <| .object <|
    [("id", .ofNat id), ("method", .string c.method), ("params", c.params)] ++
      Json.presentMember "sessionId" (c.sessionId.map .string)

end PageScan

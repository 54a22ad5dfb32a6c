import PageScan.Screenshot

/-!
# What a page is asked

The vocabulary between a scan and the browser page that it drives: when a load counts as finished,
what a screenshot should look like, and how a request to the page can fail.
-/

namespace PageScan

/-- When a load counts as finished. -/
inductive WaitPolicy
  | networkIdle
  | domContentLoaded
  deriving DecidableEq, Repr

/-- A load that finished. -/
structure NavigationOutcome where
  finalUrl : String
  waitPolicy : WaitPolicy
  deriving DecidableEq

/-- What a screenshot should look like. -/
structure ScreenshotOptions where
  fullPage : Bool
  format : ImageFormat
  quality : Nat
  deriving DecidableEq

/-- Where a browser listens for commands. -/
structure BrowserEndpoint where
  wsUrl : String
  debugPort : Nat
  deriving DecidableEq

/-- How a request to a page fails. -/
inductive PageError
  | timeout (operation : String) (limitMs : Nat)
  | navigation (reason : String)
  | script (reason : String)
  | protocol (reason : String)
  | closed
  | io (reason : String)
  deriving DecidableEq

namespace WaitPolicy

/-- The name of a policy. -/
def name : WaitPolicy → String
  | .networkIdle => "network_idle"
  | .domContentLoaded => "dom_content_loaded"

/-- Reads a policy. -/
def decoder : Json.Decoder WaitPolicy :=
  .names [("network_idle", .networkIdle), ("dom_content_loaded", .domContentLoaded)]

/-- The policy as a document. -/
def toJson (w : WaitPolicy) : Json.Value :=
  .string w.name

instance : Json.Document WaitPolicy := ⟨decoder, toJson⟩

end WaitPolicy

namespace NavigationOutcome

/-- Reads an outcome. -/
def decoder : Json.Decoder NavigationOutcome :=
  .record "NavigationOutcome"
    (.cons (.required "final_url" .string) <|
      .cons (.required "wait_policy" WaitPolicy.decoder) .nil)
    fun (finalUrl, waitPolicy, ()) => ⟨finalUrl, waitPolicy⟩

/-- The outcome as a document. -/
def toJson (o : NavigationOutcome) : Json.Value :=
  .object [("final_url", .string o.finalUrl), ("wait_policy", o.waitPolicy.toJson)]

instance : Json.Document NavigationOutcome := ⟨decoder, toJson⟩

end NavigationOutcome

namespace BrowserEndpoint

/-- Reads an endpoint. -/
def decoder : Json.Decoder BrowserEndpoint :=
  .record "BrowserEndpoint"
    (.cons (.required "ws_url" .string) <| .cons (.required "debug_port" .u16) .nil)
    fun (wsUrl, debugPort, ()) => ⟨wsUrl, debugPort⟩

/-- The endpoint as a document. -/
def toJson (e : BrowserEndpoint) : Json.Value :=
  .object [("ws_url", .string e.wsUrl), ("debug_port", .ofNat e.debugPort)]

instance : Json.Document BrowserEndpoint := ⟨decoder, toJson⟩

end BrowserEndpoint

/-- The kind of an error. -/
def PageError.kind : PageError → String
  | .timeout .. => "timeout"
  | .navigation _ => "navigation"
  | .script _ => "script"
  | .protocol _ => "protocol"
  | .closed => "closed"
  | .io _ => "io"

/-- The wording of an error. -/
def PageError.message : PageError → String
  | .timeout operation limitMs => operation ++ " timed out after " ++ toString limitMs ++ "ms"
  | .navigation reason => "navigation failed: " ++ reason
  | .script reason => "page script threw: " ++ reason
  | .protocol reason => "browser protocol error: " ++ reason
  | .closed => "page or browser is closed"
  | .io reason => "io error: " ++ reason

end PageScan

import PageScan.Json.Error
import PageScan.Page.Basic

/-!
# Failures of the browser connection

How a browser fails to start, and how a command to it fails.
-/

namespace PageScan

/-- How the connection to a browser fails. -/
inductive DevToolsError
  /-- The browser is missing, or it ended before it said where it listens. -/
  | launch (reason : String)
  | webSocket (reason : String)
  | malformed (e : Json.Error)
  /-- The browser answered a command with an error. -/
  | remote (method : String) (code : Int) (message : String)
  /-- An answer lacks a field that is needed. -/
  | missingField (method field : String)
  | timeout (method : String) (limitMs : Nat)
  | closed
  | io (reason : String)

namespace DevToolsError

/-- The wording of an error. -/
def message : DevToolsError → String
  | .launch reason => "browser launch failed: " ++ reason
  | .webSocket reason => "websocket error: " ++ reason
  | .malformed e => "invalid protocol message: " ++ e.message
  | .remote method code message => method ++ " failed (" ++ toString code ++ "): " ++ message
  | .missingField method field => method ++ " response missing " ++ field
  | .timeout method limitMs => method ++ " timed out after " ++ toString limitMs ++ "ms"
  | .closed => "devtools connection closed"
  | .io reason => "IO error: " ++ reason

/-- The error as one of the page. -/
def toPageError : DevToolsError → PageError
  | .closed => .closed
  | .timeout method limitMs => .timeout method limitMs
  | .io reason => .io reason
  | e => .protocol e.message

end DevToolsError

end PageScan

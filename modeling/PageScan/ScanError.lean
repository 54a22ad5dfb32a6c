import PageScan.Config

/-!
# Failed scans

The causes for which a scan ends without a report, and the record of a failure that is kept in its
place.
-/

namespace PageScan

/-- Why there is no report. -/
inductive ScanError
  | invalidRequest (url reason : String)
  | navigation (url strict relaxed : String)
  | audit (url reason : String)
  | capture (url reason : String)
  | session (url reason : String)
  | cancelled (url : String)
  | config (e : ConfigError)

/-- The record of a failed scan. -/
structure ScanFailure where
  kind : String
  message : String
  url : Option String
  details : Option String
  deriving DecidableEq

namespace ScanFailure

/-- Reads a record. -/
def decoder : Json.Decoder ScanFailure :=
  .record "ScanFailure"
    (.cons (.required "kind" .string) <|
      .cons (.required "message" .string) <|
      .cons (.omissible "url" .string) <|
      .cons (.omissible "details" .string) .nil)
    fun (kind, message, url, details, ()) => ⟨kind, message, url, details⟩

/-- The record as a document. -/
def toJson (f : ScanFailure) : Json.Value :=
  .object <|
    [("kind", .string f.kind), ("message", .string f.message)] ++
      Json.presentMember "url" (f.url.map .string) ++
      Json.presentMember "details" (f.details.map .string)

instance : Json.Document ScanFailure := ⟨decoder, toJson⟩

end ScanFailure

namespace ScanError

/-- The kind of an error. -/
def kind : ScanError → String
  | .invalidRequest .. => "invalid_request"
  | .navigation .. => "navigation_failure"
  | .audit .. => "audit_engine_failure"
  | .capture .. => "capture_failure"
  | .session .. => "session_failure"
  | .cancelled .. => "cancelled"
  | .config .. => "invalid_config"

/-- The wording of an error. -/
def message : ScanError → String
  | .invalidRequest url reason => "invalid scan request for '" ++ url ++ "': " ++ reason
  | .navigation url strict relaxed =>
    "navigation to " ++ url ++ " failed: strict load: " ++ strict ++ "; relaxed load: " ++ relaxed
  | .audit url reason => "accessibility engine failed on " ++ url ++ ": " ++ reason
  | .capture url reason => "page capture failed on " ++ url ++ ": " ++ reason
  | .session url reason => "browser session failed for " ++ url ++ ": " ++ reason
  | .cancelled url => "scan of " ++ url ++ " was cancelled"
  | .config e => "invalid configuration: " ++ e.message

/-- The page of the scan, if the error is about one. -/
def url? : ScanError → Option String
  | .invalidRequest url _ | .navigation url _ _ | .audit url _ | .capture url _ | .session url _
  | .cancelled url => some url
  | .config _ => none

/-- The reason behind an error, where there is one. -/
def details? : ScanError → Option String
  | .invalidRequest _ reason | .audit _ reason | .capture _ reason | .session _ reason =>
    some reason
  | .navigation _ strict relaxed => some ("strict: " ++ strict ++ "; relaxed: " ++ relaxed)
  | .cancelled _ => none
  | .config e => some e.message

/-- The record of an error. -/
def toFailure (e : ScanError) : ScanFailure :=
  ⟨e.kind, e.message, e.url?, e.details?⟩

end ScanError

end PageScan

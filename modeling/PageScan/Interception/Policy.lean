import PageScan.Json.Choice
import PageScan.Text.Find

/-!
# Interception policies

Which of the requests that a page makes are let through. A policy is a list of rules; the first
rule that matches a request aborts it. The document itself is never aborted.
-/

namespace PageScan

/-- What a request fetches. -/
inductive ResourceType
  | document
  | stylesheet
  | image
  | media
  | font
  | script
  | xhr
  | fetch
  | webSocket
  | ping
  | other (name : String)
  deriving DecidableEq

/-- A request that a page makes. -/
structure InterceptedRequest where
  resourceType : ResourceType
  url : String
  deriving DecidableEq

/-- What becomes of a request. -/
inductive InterceptDecision
  | continue
  | abort (reason : String)
  deriving DecidableEq

/-- A ground to abort a request. -/
inductive InterceptRule
  | blockResourceType (resourceType : ResourceType)
  | blockHostSuffix (suffix : String)
  | blockHostContains (needle : String)
  deriving DecidableEq

/-- Rules, of which the first that matches decides. -/
structure InterceptPolicy where
  rules : List InterceptRule
  deriving DecidableEq

namespace ResourceType

/-- The type under the name that browsers use, in any case of ASCII letters. -/
def ofName (name : String) : ResourceType :=
  match Text.lower name with
  | "document" => .document
  | "stylesheet" => .stylesheet
  | "image" => .image
  | "media" => .media
  | "font" => .font
  | "script" => .script
  | "xhr" => .xhr
  | "fetch" => .fetch
  | "websocket" => .webSocket
  | "ping" => .ping
  | lowered => .other lowered

/-- Reads a type. -/
def decoder : Json.Decoder ResourceType :=
  .choice
    [.plain "document" .document, .plain "stylesheet" .stylesheet, .plain "image" .image,
      .plain "media" .media, .plain "font" .font, .plain "script" .script, .plain "xhr" .xhr,
      .plain "fetch" .fetch, .plain "web_socket" .webSocket, .plain "ping" .ping,
      .holding "other" .string .other]

/-- The type as a document. -/
def toJson : ResourceType → Json.Value
  | .document => .string "document"
  | .stylesheet => .string "stylesheet"
  | .image => .string "image"
  | .media => .string "media"
  | .font => .string "font"
  | .script => .string "script"
  | .xhr => .string "xhr"
  | .fetch => .string "fetch"
  | .webSocket => .string "web_socket"
  | .ping => .string "ping"
  | .other name => .object [("other", .string name)]

/-- The type as reasons name it. -/
def title : ResourceType → String
  | .document => "Document"
  | .stylesheet => "Stylesheet"
  | .image => "Image"
  | .media => "Media"
  | .font => "Font"
  | .script => "Script"
  | .xhr => "Xhr"
  | .fetch => "Fetch"
  | .webSocket => "WebSocket"
  | .ping => "Ping"
  | .other name => "Other(" ++ Text.quoted name ++ ")"

instance : Json.Document ResourceType := ⟨decoder, toJson⟩

end ResourceType

namespace InterceptDecision

/-- The request is aborted. -/
def isAbort : InterceptDecision → Bool
  | .continue => false
  | .abort _ => true

/-- Reads a decision. -/
def decoder : Json.Decoder InterceptDecision :=
  .tagged "InterceptDecision" "verdict"
    [.holding "continue" .noFields fun () => .continue,
      .holding "abort"
        (.row "struct variant InterceptDecision::Abort" (.cons (.required "reason" .string) .nil))
        fun (reason, ()) => .abort reason]

/-- The decision as a document. -/
def toJson : InterceptDecision → Json.Value
  | .continue => .object [("verdict", .string "continue")]
  | .abort reason => .object [("verdict", .string "abort"), ("reason", .string reason)]

instance : Json.Document InterceptDecision := ⟨decoder, toJson⟩

end InterceptDecision

namespace InterceptRule

/-- Reads a rule. -/
def decoder : Json.Decoder InterceptRule :=
  .tagged "InterceptRule" "type"
    [.holding "block_resource_type"
        (.row "struct variant InterceptRule::BlockResourceType"
          (.cons (.required "resource_type" ResourceType.decoder) .nil))
        fun (t, ()) => .blockResourceType t,
      .holding "block_host_suffix"
        (.row "struct variant InterceptRule::BlockHostSuffix"
          (.cons (.required "suffix" .string) .nil))
        fun (suffix, ()) => .blockHostSuffix suffix,
      .holding "block_host_contains"
        (.row "struct variant InterceptRule::BlockHostContains"
          (.cons (.required "needle" .string) .nil))
        fun (needle, ()) => .blockHostContains needle]

/-- The rule as a document. -/
def toJson : InterceptRule → Json.Value
  | .blockResourceType t =>
    .object [("type", .string "block_resource_type"), ("resource_type", t.toJson)]
  | .blockHostSuffix suffix =>
    .object [("type", .string "block_host_suffix"), ("suffix", .string suffix)]
  | .blockHostContains needle =>
    .object [("type", .string "block_host_contains"), ("needle", .string needle)]

instance : Json.Document InterceptRule := ⟨decoder, toJson⟩

end InterceptRule

namespace InterceptPolicy

/-- The policy that lets everything through. -/
def allowAll : InterceptPolicy := ⟨[]⟩

/-- The policy of a scan that is not told otherwise: no media, and no trackers. -/
def standard : InterceptPolicy :=
  ⟨[.blockResourceType .media, .blockHostSuffix "googletagmanager.com",
    .blockHostSuffix "doubleclick.net", .blockHostSuffix "google-analytics.com",
    .blockHostContains "tracking"]⟩

/-- Reads a policy. -/
def decoder : Json.Decoder InterceptPolicy :=
  .record "InterceptPolicy" (.cons (.required "rules" (.list InterceptRule.decoder)) .nil)
    fun (rules, ()) => ⟨rules⟩

/-- The policy as a document. -/
def toJson (p : InterceptPolicy) : Json.Value :=
  .object [("rules", .array (p.rules.map InterceptRule.toJson))]

instance : Json.Document InterceptPolicy := ⟨decoder, toJson⟩

end InterceptPolicy

end PageScan

import PageScan.Json.Choice
import PageScan.Json.Printer
import PageScan.Version

/-!
# The explanation service

How the service that explains findings is reached, what it is sent, and how its answer is read.
-/

namespace PageScan

/-- Where the service is and who asks. -/
structure GeminiConfig where
  apiKey : Option String := none
  model : String := "gemini-2.0-flash"
  endpoint : String := "https://generativelanguage.googleapis.com"
  timeoutMs : Nat := 20000
  deriving DecidableEq

/-- What the service is sent. -/
structure ServiceRequest where
  url : String
  apiKey : String
  userAgent : String
  contentType : String
  body : String
  deriving DecidableEq

/-- What comes back. -/
structure ServiceResponse where
  status : Nat
  body : String
  deriving DecidableEq

/-- Why there is no explanation. -/
inductive ServiceError
  | noKey
  | unreachable (reason : String)
  | refused (status : Nat) (body : String)
  | notJson (e : Json.Error)
  | shape (e : Json.Error)
  | noText

namespace GeminiConfig

/-- Reads a configuration. -/
def decoder : Json.Decoder GeminiConfig :=
  .record "GeminiConfig"
    (.cons (.optional "api_key" .string) <|
      .cons (.required "model" .string) <|
      .cons (.required "endpoint" .string) <|
      .cons (.required "timeout_ms" .u64) .nil)
    fun (apiKey, model, endpoint, timeout, ()) => ⟨apiKey, model, endpoint, timeout⟩

/-- The configuration as a document. -/
def toJson (c : GeminiConfig) : Json.Value :=
  .object
    [("api_key", .ofOption .string c.apiKey), ("model", .string c.model),
      ("endpoint", .string c.endpoint), ("timeout_ms", .ofNat c.timeoutMs)]

/-- The address of the service: the slashes at the end of the endpoint do not count. -/
def url (c : GeminiConfig) : String :=
  String.ofList (c.endpoint.toList.reverse.dropWhile (· = '/')).reverse ++ "/v1beta/models/" ++
    c.model ++ ":generateContent"

/-- What is sent with a prompt. -/
def request? (c : GeminiConfig) (prompt : String) : Option ServiceRequest :=
  c.apiKey.map fun key =>
    let body : Json.Value :=
      .object [("contents", .array
        [.object [("parts", .array [.object [("text", .string prompt)]])]])]
    ⟨c.url, key, "uxa/" ++ version, "application/json", body.compact⟩

instance : Json.Document GeminiConfig := ⟨decoder, toJson⟩

end GeminiConfig

/-- The registered reason phrases of the statuses of responses. -/
def reasonPhrases : List (Nat × String) :=
  [(100, "Continue"), (101, "Switching Protocols"), (102, "Processing"), (200, "OK"),
    (201, "Created"), (202, "Accepted"), (203, "Non Authoritative Information"),
    (204, "No Content"), (205, "Reset Content"), (206, "Partial Content"), (207, "Multi-Status"),
    (208, "Already Reported"), (226, "IM Used"), (300, "Multiple Choices"),
    (301, "Moved Permanently"), (302, "Found"), (303, "See Other"), (304, "Not Modified"),
    (305, "Use Proxy"), (307, "Temporary Redirect"), (308, "Permanent Redirect"),
    (400, "Bad Request"), (401, "Unauthorized"), (402, "Payment Required"), (403, "Forbidden"),
    (404, "Not Found"), (405, "Method Not Allowed"), (406, "Not Acceptable"),
    (407, "Proxy Authentication Required"), (408, "Request Timeout"), (409, "Conflict"),
    (410, "Gone"), (411, "Length Required"), (412, "Precondition Failed"),
    (413, "Payload Too Large"), (414, "URI Too Long"), (415, "Unsupported Media Type"),
    (416, "Range Not Satisfiable"), (417, "Expectation Failed"), (418, "I'm a teapot"),
    (421, "Misdirected Request"), (422, "Unprocessable Entity"), (423, "Locked"),
    (424, "Failed Dependency"), (425, "Too Early"), (426, "Upgrade Required"),
    (428, "Precondition Required"), (429, "Too Many Requests"),
    (431, "Request Header Fields Too Large"), (451, "Unavailable For Legal Reasons"),
    (500, "Internal Server Error"), (501, "Not Implemented"), (502, "Bad Gateway"),
    (503, "Service Unavailable"), (504, "Gateway Timeout"), (505, "HTTP Version Not Supported"),
    (506, "Variant Also Negotiates"), (507, "Insufficient Storage"), (508, "Loop Detected"),
    (510, "Not Extended"), (511, "Network Authentication Required")]

namespace ServiceError

/-- The wording of an error, without the cause behind it. -/
def outline : ServiceError → String
  | .noKey => "GEMINI_API_KEY is not set"
  | .unreachable _ => "explanation request failed"
  | .refused status body =>
    "explanation service returned " ++ toString status ++ " " ++
      (reasonPhrases.lookup status).getD "<unknown status code>" ++ ": " ++ body
  | .notJson _ => "invalid JSON from explanation service"
  | .shape _ => "unexpected response shape"
  | .noText => "response contained no text"

/-- The wording of an error, with the cause behind it. -/
def message (e : ServiceError) : String :=
  match e with
  | .unreachable reason => e.outline ++ ": " ++ reason
  | .notJson cause | .shape cause => e.outline ++ ": " ++ cause.message
  | e => e.outline

end ServiceError

/-- The decoders of what the service answers: candidates, each with parts, each with a text. -/
def candidatesDecoder : Json.Decoder (List (Option (List (Option String)))) :=
  let part : Json.Decoder (Option String) :=
    .record "Part" (.cons (.optional "text" .string) .nil) fun (text, ()) => text
  let content : Json.Decoder (List (Option String)) :=
    .record "Content" (.cons (.defaulted "parts" (.list part) []) .nil) fun (parts, ()) => parts
  let candidate : Json.Decoder (Option (List (Option String))) :=
    .record "Candidate" (.cons (.optional "content" content) .nil) fun (content, ()) => content
  .record "GenerateResponse" (.cons (.defaulted "candidates" (.list candidate) []) .nil)
    fun (candidates, ()) => candidates

/-- The explanation in an answer of the service: the first text of the first candidate. -/
def explanationOf (body : Json.Value) : Except ServiceError String := do
  let candidates ← (Json.Decoder.decodeValue candidatesDecoder body).mapError .shape
  match (candidates.head?.join.getD []).findSome? id with
  | some text => return text
  | none => .error .noText

/-- Asks the service. `send` is the network: it brings a response or a reason why there is none. -/
def GeminiConfig.explain (c : GeminiConfig)
    (send : ServiceRequest → Except String ServiceResponse) (prompt : String) :
    Except ServiceError String :=
  match c.request? prompt with
  | none => .error .noKey
  | some request => do
    let response ← (send request).mapError .unreachable
    if response.status < 200 ∨ 300 ≤ response.status then
      .error (.refused response.status response.body)
    else
      let body ← (Json.Decoder.decodeText .any response.body).mapError .notJson
      explanationOf body

end PageScan

import PageScan.Base64
import PageScan.Text.Blank
import PageScan.Text.Find
import PageScan.Json.Choice

/-!
# Screenshots

A screenshot is an encoded image. In documents it stands as a data URL; a bare Base64 payload is
taken for a JPEG image.
-/

namespace PageScan

/-- The encodings of a screenshot. -/
inductive ImageFormat
  | jpeg
  | png
  deriving DecidableEq, Repr

namespace ImageFormat

/-- The name of a format in documents. -/
def name : ImageFormat → String
  | .jpeg => "jpeg"
  | .png => "png"

/-- The media type of a format. -/
def mediaType : ImageFormat → String
  | .jpeg => "image/jpeg"
  | .png => "image/png"

/-- Reads the name of a format. -/
def decoder : Json.Decoder ImageFormat :=
  .names [("jpeg", .jpeg), ("png", .png)]

/-- The format as a document. -/
def toJson (f : ImageFormat) : Json.Value :=
  .string f.name

/-- The format that a media type names. -/
def ofMediaType? (media : String) : Option ImageFormat :=
  if media = "image/jpeg" ∨ media = "image/jpg" then some .jpeg
  else if media = "image/png" then some .png
  else none

instance : Json.Document ImageFormat := ⟨decoder, toJson⟩

end ImageFormat

/-- An encoded image. -/
structure Screenshot where
  format : ImageFormat
  bytes : List UInt8
  deriving DecidableEq

namespace Screenshot

/-- Why a text is no screenshot. -/
inductive Error
  | mediaType (media : String)
  | payload (e : Base64.Error)

/-- The wording of an error. -/
def Error.message : Error → String
  | .mediaType media => "unsupported screenshot media type: " ++ media
  | .payload e => "invalid base64 payload: " ++ e.message

/-- The screenshot as a data URL. -/
def toDataUrl (s : Screenshot) : String :=
  "data:" ++ s.format.mediaType ++ ";base64," ++ Base64.encode s.bytes

/-- The format that a text announces, and its payload. -/
def splitDataUrl (text : List Char) : Except Error (ImageFormat × List Char) :=
  match Text.stripLead? "data:".toList text with
  | none => .ok (.jpeg, text)
  | some rest =>
    match Text.splitOnce? ";base64,".toList rest with
    | none => .error (.mediaType (String.ofList (rest.take 32)))
    | some (media, payload) =>
      match ImageFormat.ofMediaType? (String.ofList media) with
      | some format => .ok (format, payload)
      | none => .error (.mediaType (String.ofList media))

/-- Reads a data URL or a bare payload. White space around the payload is dropped. -/
def ofDataUrl (text : String) : Except Error Screenshot := do
  let (format, payload) ← splitDataUrl text.toList
  let bytes ← (Base64.decode (Text.trim (String.ofList payload))).mapError .payload
  return ⟨format, bytes⟩

/-- Reads a screenshot from a document. -/
def decoder : Json.Decoder Screenshot :=
  .refine .string fun text => (ofDataUrl text).mapError Error.message

/-- The screenshot as a document. -/
def toJson (s : Screenshot) : Json.Value :=
  .string s.toDataUrl

/-- What is shown of a screenshot where its bytes would be in the way. -/
def outline (s : Screenshot) : String :=
  let format := match s.format with
    | .jpeg => "Jpeg"
    | .png => "Png"
  "Screenshot \x7b format: " ++ format ++ ", len: " ++ toString s.bytes.length ++ " \x7d"

instance : Json.Document Screenshot := ⟨decoder, toJson⟩

end Screenshot

end PageScan

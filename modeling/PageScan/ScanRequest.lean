import PageScan.ScanError
import PageScan.Url.Basic

/-!
# Scan requests

A scan is asked for by the address of a page, which has to be one that a browser loads over the
network.
-/

namespace PageScan

/-- The page to scan, its address in the one form that `Url.text` prints. -/
structure ScanRequest where
  url : String
  deriving DecidableEq

namespace ScanRequest

/-- The request for an address, with the white space around it dropped. -/
def ofText (text : String) : Except ScanError ScanRequest :=
  let trimmed := Text.trim text
  let refuse (reason : String) : Except ScanError ScanRequest :=
    .error (.invalidRequest trimmed reason)
  match Url.ofText trimmed with
  | .error fault => refuse fault.message
  | .ok url =>
    if url.scheme ≠ "http" ∧ url.scheme ≠ "https" then
      refuse ("unsupported scheme '" ++ url.scheme ++ "'")
    else .ok ⟨url.text⟩

/-- The request as a document. -/
def toJson (r : ScanRequest) : Json.Value :=
  .object [("url", .string r.url)]

end ScanRequest

end PageScan

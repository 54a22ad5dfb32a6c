import PageScan.Scan.World
import PageScan.ScanError
import PageScan.Timestamp

/-!
# Capture

A page that is at rest is measured, and a screenshot of all of it is taken.
-/

namespace PageScan

/-- What a page looked like. -/
structure PageCapture where
  screenshot : Screenshot
  pageWidth : Nat
  pageHeight : Nat
  /-- When the capture was taken, in milliseconds of the scan's clock. -/
  takenAt : Nat
  deriving DecidableEq

/-- The extent of a document. -/
structure DocumentSize where
  width : Float
  height : Float

namespace DocumentSize

/-- Reads an extent. -/
def decoder : Json.Decoder DocumentSize :=
  .record "DocumentSize"
    (.cons (.required "width" .float) <| .cons (.required "height" .float) .nil)
    fun (width, height, ()) => ⟨width, height⟩

/-- A length as a whole number of pixels, at least zero. -/
def pixels (x : Float) : Nat :=
  if x > 0.0 then x.round.toUInt32.toNat else 0

end DocumentSize

namespace Scan

variable {σ : Type}

/-- Measures a page and takes its screenshot. -/
def capture (page : Page σ) (config : CaptureConfig) (url : String) :
    Scan σ (Except ScanError PageCapture) := do
  let failure (reason : String) : Except ScanError PageCapture := .error (.capture url reason)
  match ← ask page config.timeoutMs "document size" (.evaluate .documentSize) with
  | .error e => return failure ("failed to measure document: " ++ e.message)
  | .ok answer =>
    match Json.Decoder.decodeValue DocumentSize.decoder answer with
    | .error e => return failure ("unexpected document size: " ++ e.message)
    | .ok size =>
      let options : ScreenshotOptions := ⟨true, config.format, config.quality⟩
      match ← ask page config.timeoutMs "screenshot" (.screenshot options) with
      | .error e => return failure e.message
      | .ok bytes =>
        if bytes.isEmpty then return failure "screenshot was empty"
        else
          let takenAt ← now
          return .ok
            ⟨⟨config.format, bytes⟩, DocumentSize.pixels size.width,
              DocumentSize.pixels size.height, takenAt⟩

end Scan

end PageScan

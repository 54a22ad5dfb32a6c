import PageScan.Audit.Result
import PageScan.Heatmap.Point
import PageScan.Secondary.Result
import PageScan.Screenshot
import PageScan.Timestamp
import PageScan.ScanId

/-!
# Scan reports

Everything that a scan found out about a page. A report is written to a file and read back.
-/

namespace PageScan

/-- The outcome of a scan. -/
structure ScanReport where
  scanId : ScanId
  url : String
  timestamp : Timestamp
  pageWidth : Nat
  pageHeight : Nat
  screenshot : Screenshot
  audit : AuditResult
  heatmap : List HeatmapPoint
  secondaryAudit : SecondaryResult

namespace ScanReport

/-- Reads a report. -/
def decoder : Json.Decoder ScanReport :=
  .record "ScanReport"
    (.cons (.required "scanId" ScanId.decoder) <|
      .cons (.required "url" .string) <|
      .cons (.required "timestamp" Timestamp.decoder) <|
      .cons (.required "pageWidth" .u32) <|
      .cons (.required "pageHeight" .u32) <|
      .cons (.required "screenshot" Screenshot.decoder) <|
      .cons (.required "audit" AuditResult.decoder) <|
      .cons (.required "heatmap" (.list HeatmapPoint.decoder)) <|
      .cons (.required "secondaryAudit" SecondaryResult.decoder) .nil)
    fun (scanId, url, timestamp, pageWidth, pageHeight, screenshot, audit, heatmap,
        secondaryAudit, ()) =>
      ⟨scanId, url, timestamp, pageWidth, pageHeight, screenshot, audit, heatmap, secondaryAudit⟩

/-- The report as a document. -/
def toJson (r : ScanReport) : Json.Value :=
  .object
    [("scanId", r.scanId.toJson), ("url", .string r.url), ("timestamp", r.timestamp.toJson),
      ("pageWidth", .ofNat r.pageWidth), ("pageHeight", .ofNat r.pageHeight),
      ("screenshot", r.screenshot.toJson), ("audit", r.audit.toJson),
      ("heatmap", .array (r.heatmap.map HeatmapPoint.toJson)),
      ("secondaryAudit", r.secondaryAudit.toJson)]

/-- Reads a report from a text. -/
def ofText (text : String) : Except Json.Error ScanReport :=
  Json.Decoder.decodeText decoder text

instance : Json.Document ScanReport := ⟨decoder, toJson⟩

end ScanReport

end PageScan

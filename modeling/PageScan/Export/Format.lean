import PageScan.Json.Choice
import PageScan.Text.Find
import PageScan.Text.Blank

/-!
# Export formats

A report is exported as a paginated document or as a table with a row for each element.
-/

namespace PageScan

/-- The formats of an export. -/
inductive ExportFormat
  | pdf
  | csv
  deriving DecidableEq, Repr

namespace ExportFormat

/-- The name of a format. -/
def name : ExportFormat → String
  | .pdf => "pdf"
  | .csv => "csv"

/-- The media type of a format. -/
def contentType : ExportFormat → String
  | .pdf => "application/pdf"
  | .csv => "text/csv"

/-- The file that an export goes to if none is named. -/
def fileName : ExportFormat → String
  | .pdf => "report.pdf"
  | .csv => "report.csv"

/-- What is said of a name that no format has. -/
def unknown (text : String) : String :=
  "unknown export format '" ++ text ++ "' (expected pdf or csv)"

/-- The format of that name, in any case of ASCII letters and with white space around it. -/
def ofText (text : String) : Except String ExportFormat :=
  match Text.lower (Text.trim text) with
  | "pdf" => .ok .pdf
  | "csv" => .ok .csv
  | other => .error (unknown other)

/-- Reads a format. -/
def decoder : Json.Decoder ExportFormat :=
  .names [("pdf", .pdf), ("csv", .csv)]

/-- The format as a document. -/
def toJson (f : ExportFormat) : Json.Value :=
  .string f.name

instance : Json.Document ExportFormat := ⟨decoder, toJson⟩

end ExportFormat

end PageScan

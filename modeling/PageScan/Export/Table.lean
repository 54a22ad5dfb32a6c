import PageScan.Report

/-!
# The exported table

One record for each element that breaks a rule, in the order of the audit. A field that holds a
comma, a quote or the end of a line is quoted, and a quote inside it is written twice.

* `Table.rows` is what the table says.
* `Table.written` is its text.
-/

namespace PageScan.Export.Table

/-- The names of the columns. -/
def header : List String :=
  ["Impact", "Title", "Description", "Detail", "Selector"]

/-- The record of an element. -/
def row (v : Violation) (n : ViolationNode) : List String :=
  [v.impact.name, v.help, v.description, n.failureSummary.getD "", n.primarySelector.getD ""]

/-- The records of a report, without the header. -/
def rows (r : ScanReport) : List (List String) :=
  r.audit.violations.flatMap fun v => v.nodes.map (row v)

/-- The character calls for quotes around its field. -/
def isSpecial (c : Char) : Bool :=
  c = ',' || c = '"' || c = '\n' || c = '\r'

/-- A character inside quotes. -/
def quotedChar (c : Char) : List Char :=
  if c = '"' then ['"', '"'] else [c]

/-- The text of a field. -/
def field (s : String) : List Char :=
  let cs := s.toList
  if cs.any isSpecial then '"' :: cs.flatMap quotedChar ++ ['"'] else cs

/-- The text of a record. -/
def record (fields : List String) : List Char :=
  [','].intercalate (fields.map field) ++ ['\n']

/-- The text of the table. -/
def written (r : ScanReport) : String :=
  String.ofList ((header :: rows r).flatMap record)

end PageScan.Export.Table

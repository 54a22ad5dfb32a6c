import PageScan.ScanError

/-!
# The manifest of a run

What became of each address of a command: the file of its report, or why there is none. The
manifest is written beside the reports.
-/

namespace PageScan

/-- What became of an address. -/
structure ManifestEntry where
  url : String
  /-- The path of the report. -/
  report : Option String
  failure : Option ScanFailure

/-- What became of all addresses. -/
structure ScanManifest where
  entries : List ManifestEntry

/-- The name of the report on the address at a place of the command line. -/
def reportFileName (index : Nat) : String :=
  toString (index + 1) ++ "-report.json"

/-- The name of the file that holds the manifest. -/
def manifestFileName : String := "index.json"

/-- The entry as a document. -/
def ManifestEntry.toJson (e : ManifestEntry) : Json.Value :=
  .object <|
    [("url", .string e.url)] ++ Json.presentMember "report" (e.report.map .string) ++
      Json.presentMember "failure" (e.failure.map ScanFailure.toJson)

namespace ScanManifest

/-- The failures, in the order of the entries. -/
def failures (m : ScanManifest) : List ScanFailure :=
  m.entries.filterMap (·.failure)

/-- The manifest as a document. -/
def toJson (m : ScanManifest) : Json.Value :=
  .object [("entries", .array (m.entries.map ManifestEntry.toJson))]

/-- Entries in the order in which their addresses first occur among `urls`. Entries of one address
keep their order. -/
def sorted (urls : List String) (entries : List ManifestEntry) : ScanManifest :=
  ⟨entries.mergeSort fun a b => urls.idxOf a.url ≤ urls.idxOf b.url⟩

end ScanManifest

end PageScan

import PageScan.Export.Format
import PageScan.Export.Painting
import PageScan.Export.Table
import PageScan.Text.Utf8

/-!
# Exporting a report

An export is a table, written as text, or a painted document, written as the objects of a PDF file:
a catalogue, the type faces, and for each page its box and the steps that draw it.

* `Artifact.ofReport` exports a report.
* `Artifact.bytes` is what is written to a file.
-/

namespace PageScan.Export

/-- What an export holds. -/
inductive Body
  | document (painting : Painting)
  | table (text : String)

/-- An exported report, and the format it is in. -/
structure Artifact where
  format : ExportFormat
  body : Body

/-! ## The file of a document -/

/-- A text in a file, with the characters that have a meaning there marked. -/
def fileText (s : String) : String :=
  let marked (c : Char) : List Char :=
    if c = '(' || c = ')' || c = '\\' then ['\\', c] else [c]
  "(" ++ String.ofList (s.toList.flatMap marked) ++ ")"

/-- A dictionary in a file. -/
def dictionary (entries : List String) : String :=
  "<< " ++ Text.join " " entries ++ " >>"

/-- A list in a file. -/
def fileList (entries : List String) : String :=
  "[" ++ Text.join " " entries ++ "]"

/-- A reference to the object with a number. -/
def reference (n : Nat) : String :=
  toString n ++ " 0 R"

/-- A type face as an object. -/
def faceObject (face : Face) : String :=
  dictionary ["/Type /Font", "/Subtype /Type1", "/BaseFont /" ++ face.name,
    "/Encoding /WinAnsiEncoding"]

/-- The objects of a page: the page itself, whose steps are the object after it, and the steps. -/
def pageObjects (number : Nat) (steps : List Operation) : List String :=
  let content := Text.join "\n" (steps.map Operation.text)
  [dictionary ["/Type /Page", "/Parent " ++ reference 2,
      "/MediaBox " ++ fileList Painting.mediaBox,
      "/Resources " ++ dictionary
        ["/Font " ++ dictionary
          ["/" ++ Face.regular.name ++ " " ++ reference 3,
            "/" ++ Face.bold.name ++ " " ++ reference 4]],
      "/Contents " ++ reference (number + 1)],
    dictionary ["/Length " ++ toString content.utf8ByteSize] ++ "\nstream\n" ++ content ++
      "\nendstream"]

/-- The objects of a document, from the first on: catalogue, list of pages, two type faces, title,
and the pages. -/
def fileObjects (d : Painting) : List String :=
  let numbers := (List.range d.pages.length).map fun i => 6 + 2 * i
  [dictionary ["/Type /Catalog", "/Pages " ++ reference 2],
    dictionary ["/Type /Pages", "/Count " ++ toString d.pages.length,
      "/Kids " ++ fileList (numbers.map reference)],
    faceObject .regular, faceObject .bold, dictionary ["/Title " ++ fileText d.title]] ++
    (d.pages.zip numbers).flatMap fun (steps, number) => pageObjects number steps

/-- An object with its number around it. -/
def numbered (object : String) (number : Nat) : String :=
  toString number ++ " 0 obj\n" ++ object ++ "\nendobj\n"

/-- Where each text begins if they stand one after the other from `start` on. -/
def offsets (start : Nat) : List String → List Nat
  | [] => []
  | s :: rest => start :: offsets (start + s.utf8ByteSize) rest

/-- A number in ten digits. -/
def tenDigits (n : Nat) : String :=
  let digits := (Nat.repr n).toList
  String.ofList (List.replicate (10 - digits.length) '0' ++ digits)

/-- The text of a document as a file. -/
def fileTextOf (d : Painting) : String :=
  let head := "%PDF-1.3\n"
  let objects := (fileObjects d).zipIdx.map fun (object, i) => numbered object (i + 1)
  let places := offsets head.utf8ByteSize objects
  let size := toString (objects.length + 1)
  let table := places.map fun place => tenDigits place ++ " 00000 n \n"
  let start := head.utf8ByteSize + (objects.map String.utf8ByteSize).foldr (· + ·) 0
  head ++ Text.join "" objects ++ "xref\n0 " ++ size ++ "\n0000000000 65535 f \n" ++
    Text.join "" table ++ "trailer\n" ++
    dictionary ["/Size " ++ size, "/Root " ++ reference 1, "/Info " ++ reference 5] ++
    "\nstartxref\n" ++ toString start ++ "\n%%EOF\n"

namespace Artifact

/-- Exports a report. -/
def ofReport (r : ScanReport) (format : ExportFormat) : Artifact :=
  match format with
  | .pdf => ⟨format, .document (Painting.ofReport r)⟩
  | .csv => ⟨format, .table (Table.written r)⟩

/-- What is written to a file. -/
def bytes (a : Artifact) : List UInt8 :=
  match a.body with
  | .document painting => Text.utf8 (fileTextOf painting)
  | .table text => Text.utf8 text

end Artifact

end PageScan.Export

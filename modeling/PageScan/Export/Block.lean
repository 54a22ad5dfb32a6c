import PageScan.Export.Card
import PageScan.Export.Color
import PageScan.Image.Size
import PageScan.Report

/-!
# Blocks of a document

The parts that the pages of an exported document are made of. Every block has a height, with the
space below it, that depends on nothing but the block.
-/

namespace PageScan.Export

/-- A score on a dial. -/
structure Dial where
  label : String
  score : Option Nat
  color : Color
  deriving DecidableEq

/-- A part of a page. -/
inductive Block
  | title (title subtitle : String)
  | metadata (url generated : String)
  | separator
  | dials (dials : List Dial)
  /-- Why there are no scores. -/
  | notice (lines : List String)
  | summary (counts : ImpactCounts) (nodes : Nat)
  | heading (text : String)
  | card (card : Card)
  | noViolations
  | screenshot (size : Image.Size)
  | noScreenshot (reason : String)
  | closing (lines : List String)
  deriving DecidableEq

namespace Block

/-- The height of a block. -/
def height : Block → HalfMm
  | .title .. => 48
  | .metadata .. => 28
  | .separator => 12
  | .dials _ => 88
  | .notice lines => 8 + 8 * lines.length
  | .summary .. => 28
  | .heading _ => 20
  | .card c => c.height
  | .noViolations => 40
  | .screenshot _ => paper.body - 24
  | .noScreenshot _ => 60
  | .closing lines => 24 + 12 * lines.length

/-- The box that a screenshot is shrunk to, in pixels. -/
def screenshotBox : Image.Size := ⟨1200, 6000⟩

/-- The block of a screenshot. -/
def ofScreenshot (shot : Screenshot) : Block :=
  if shot.bytes.isEmpty then .noScreenshot "No screenshot was captured for this page."
  else
    match Image.sizeOf shot.bytes with
    | .ok size => .screenshot (size.within screenshotBox)
    | .error e =>
      .noScreenshot ("The captured screenshot could not be decoded (" ++ e.message ++ ").")

/-- What is said of a secondary audit without scores. -/
def noticeText (r : SecondaryResult) : String :=
  let details := match r.details with
    | some d => ": " ++ d
    | none => ""
  let hint := match r.hint with
    | some h => " (" ++ h ++ ")"
    | none => ""
  r.error.getD "secondary audit unavailable" ++ details ++ hint

end Block

end PageScan.Export

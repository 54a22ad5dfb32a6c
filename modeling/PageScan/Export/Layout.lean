import PageScan.Export.Block
import PageScan.Version

/-!
# Layout of the exported document

The document is a sequence of sections, each of which begins on a page of its own. Within a
section a block goes below the one before it, or on to the next page if it would reach into the
margin.

* `place` fills pages with the blocks of a section.
* `sections` says what the document holds.
* `Layout.ofReport` is the whole.
-/

namespace PageScan.Export

/-- A block at its place on a page. -/
structure Placed where
  top : HalfMm
  block : Block
  deriving DecidableEq

/-- The pages of a document, each with its blocks from the top down. -/
structure Layout where
  pages : List (List Placed)
  deriving DecidableEq

/-- The lower end of what may be printed on. -/
def bottom : HalfMm := paper.height - paper.margin

/-- Fills pages with blocks. `page` holds the blocks of the current page, last first, and `top` is
where the next one goes. -/
def place (page : List Placed) (top : HalfMm) : List Block → List (List Placed)
  | [] => if page.isEmpty then [] else [page.reverse]
  | b :: rest =>
    if bottom < top + b.height ∧ page ≠ [] then
      page.reverse :: place [⟨paper.margin, b⟩] (paper.margin + b.height) rest
    else place (⟨top, b⟩ :: page) (top + b.height) rest

/-- The date and time of a scan, for a reader. -/
def dateLine (t : Timestamp) : String :=
  let (year, month, day) := Calendar.ofDayNumber t.day
  String.ofList
    (Timestamp.yearChars year ++ '-' :: Timestamp.padded 2 month ++ '-' ::
      Timestamp.padded 2 day ++ ' ' :: Timestamp.padded 2 (t.second / 3600) ++ ':' ::
      Timestamp.padded 2 (t.second / 60 % 60) ++ " UTC".toList)

/-- The dials of a report. -/
def dialsOf (r : SecondaryResult) : List Dial :=
  AuditCategory.all.map fun c => ⟨c.label, r.score c, c.color⟩

/-- The notice of a report whose secondary audit has no scores. -/
def noticeOf (r : SecondaryResult) : List Block :=
  if r.isDegraded then [.notice (Text.Wrap.wrap Card.detailWidth (Block.noticeText r))] else []

/-- The cards of an audit, or what stands in their place. -/
def cardsOf (audit : AuditResult) : List Block :=
  if audit.isClean then [.noViolations]
  else audit.violations.zipIdx.map fun (v, i) => .card (Card.ofViolation (i + 1) v)

/-- The findings of a report. -/
def findings (r : ScanReport) : List Block :=
  [.title "UXABILITY" "Accessibility, performance and SEO report",
    .metadata r.url (dateLine r.timestamp), .separator, .dials (dialsOf r.secondaryAudit)] ++
    noticeOf r.secondaryAudit ++
    [.summary r.audit.impactCounts r.audit.nodeCount, .heading "Accessibility violations"] ++
    cardsOf r.audit

/-- The page as it looked. -/
def picture (r : ScanReport) : List Block :=
  [.heading "Page screenshot", .ofScreenshot r.screenshot]

/-- The last words. -/
def closing (r : ScanReport) : List Block :=
  [.closing
    ["Thank you for using UXability.", "Scan " ++ r.scanId.text, "Generated by uxa " ++ version]]

/-- What the document holds, section by section. -/
def sections (r : ScanReport) : List (List Block) :=
  [findings r, picture r, closing r]

namespace Layout

/-- The layout of a report. -/
def ofReport (r : ScanReport) : Layout :=
  ⟨(sections r).flatMap (place [] paper.margin)⟩

/-- All blocks in the order of the pages. -/
def blocks (l : Layout) : List Block :=
  l.pages.flatMap fun page => page.map (·.block)

end Layout

end PageScan.Export

import PageScan.Export.Drawing
import PageScan.Export.Layout

/-!
# Painting the document

The shapes that each block of a page is painted with, and the pages of the finished document. A page
is laid out in half millimetres. Inside a block everything is placed in single precision, and rounded
wherever that does not suffice.

* `Card.lines` are the lines of a card with their baselines.
* `Block.shapes` paints a block.
* `Painting.ofReport` is the painted document.
-/

namespace PageScan.Export

/-- A length as a number of millimetres. -/
def mm (h : HalfMm) : Float32 :=
  h.toFloat32 * 0.5

/-- The margin of a page. -/
def marginMm : Float32 := mm paper.margin

/-- The width between the margins. -/
def columnMm : Float32 := mm paper.column

/-- About how wide a text is. -/
def textWidth (text : String) (size : Float32) : Float32 :=
  text.length.toFloat32 * size * 0.5 * 0.3528

/-- A text whose middle is at `x`. -/
def centred (face : Face) (size x baseline : Float32) (color : Color) (text : String) : Shape :=
  .line ⟨face, size, x - textWidth text size / 2, baseline, color, text⟩

/-- A text that begins at `left`. -/
def written (face : Face) (size left baseline : Float32) (color : Color) (text : String) : Shape :=
  .line ⟨face, size, left, baseline, color, text⟩

/-! ## Cards -/

/-- The parts of a card that hold text. -/
inductive CardPart
  | title
  | description
  | detail
  | count
  deriving DecidableEq, Repr

/-- A line of a card. -/
structure CardLine where
  part : CardPart
  baseline : Float32
  text : String

/-- Lines of one part from `cursor` down, `step` apart, and where the next part begins. -/
def CardLine.column (part : CardPart) (step cursor : Float32) :
    List String → List CardLine × Float32
  | [] => ([], cursor)
  | text :: rest =>
    let (below, stop) := column part step (cursor + step) rest
    (⟨part, cursor, text⟩ :: below, stop)

namespace Card

/-- The title with the number of the card in front of it. -/
def numberedTitle (c : Card) : List String :=
  match c.title with
  | [] => []
  | first :: rest => (toString c.ordinal ++ ". " ++ first) :: rest

/-- How many elements are concerned, for a reader. -/
def countText (c : Card) : String :=
  if c.nodes = 1 then "1 affected element" else toString c.nodes ++ " affected elements"

/-- The height of a card as a number of millimetres. -/
def heightMm (c : Card) : Float32 :=
  mm frame + mm titleLine * c.title.length.toFloat32 +
    mm descriptionLine * c.description.length.toFloat32 +
    mm detailLine * c.detail.length.toFloat32

/-- The lines of a card whose top edge is at `top`. -/
def lines (c : Card) (top : Float32) : List CardLine :=
  let (title, cursor) := CardLine.column .title 5 (top + 6) c.numberedTitle
  let (description, cursor) := CardLine.column .description 4 cursor c.description
  let (detail, cursor) := CardLine.column .detail 3.5 cursor c.detail
  title ++ description ++ detail ++ [⟨.count, cursor + 1, c.countText⟩]

/-- A line of a card as a shape. -/
def lineShape (c : Card) (l : CardLine) : Shape :=
  let left := marginMm + 5
  match l.part with
  | .title => written .bold 11 left l.baseline c.impact.color l.text
  | .description => written .regular 9.5 left l.baseline .ink l.text
  | .detail => written .regular 8.5 left l.baseline .muted l.text
  | .count => written .regular 8.5 left l.baseline .muted l.text

/-- The shapes of a card of this height whose top edge is at `top`. -/
def shapes (c : Card) (top height : Float32) : List Shape :=
  let accent := c.impact.color
  let body := height - 4
  .rectangle marginMm top columnMm body (accent.tint 0.9) ::
    .rectangle marginMm top 1.5 body accent :: (c.lines top).map c.lineShape

end Card

/-! ## Other blocks -/

/-- The shapes of a dial in the slot with the given number. -/
def Dial.shapes (d : Dial) (top slot : Float32) (index : Nat) : List Shape :=
  let radius : Float32 := 13
  let y := top + 4 + radius
  let x := marginMm + slot * (index.toFloat32 + 0.5)
  let ring := if d.score.isSome then d.color else Color.muted.tint 0.5
  let score := match d.score with
    | some s => toString s
    | none => "n/a"
  [.disc x y radius ring, .disc x y (radius - 2.5) (ring.tint 0.9),
    centred .bold 18 x (y + 2.5) .ink score,
    centred .regular 9 x (y + radius + 7) .muted d.label]

/-- The shapes of a row of dials. -/
def dialRow (dials : List Dial) (top : Float32) : List Shape :=
  let slot := columnMm / (max dials.length 1).toFloat32
  dials.zipIdx.flatMap fun (d, i) => d.shapes top slot i

/-- The counts of violations by tier, from `left` on. -/
def tierRow (counts : ImpactCounts) (top left : Float32) : List Impact → List Shape
  | [] => []
  | impact :: rest =>
    let label := toString (counts.get impact) ++ " " ++ impact.name
    .disc (left + 2) (top + 3) 1.8 impact.color ::
      written .regular 10 (left + 5.5) (top + 4.2) .ink label ::
      tierRow counts top (left + (8 + textWidth label 10)) rest

/-- The shapes of a screenshot, as large as the column and `height` allow. -/
def pictureShapes (size : Image.Size) (top height : Float32) : List Shape :=
  let width : Float32 := size.width.toFloat32 / 300 * 25.4
  let depth : Float32 := size.height.toFloat32 / 300 * 25.4
  if width ≤ 0 || depth ≤ 0 then []
  else
    let across := columnMm / width
    let down := height / depth
    let scale := if across < down then across else down
    [.image size.width size.height (marginMm + (columnMm - width * scale) / 2)
      (top + depth * scale) scale]

/-- The last words, in the middle of the page. -/
def closingLine (top : Float32) (index : Nat) (text : String) : Shape :=
  let baseline := top + 12 + 6 * index.toFloat32
  if index = 0 then centred .bold 16 (pageWidthMm / 2) baseline .brand text
  else centred .regular 9 (pageWidthMm / 2) baseline .muted text

/-- The shapes of a block whose top edge is at `edge`. -/
def Block.shapes (edge : HalfMm) (block : Block) : List Shape :=
  let top := mm edge
  let height := mm block.height
  match block with
  | .title first second =>
    [written .bold 26 marginMm (top + 10) .brand first,
      written .regular 12 marginMm (top + 18) .muted second]
  | .metadata url generated =>
    [written .bold 10 marginMm (top + 4) .ink "Page",
      written .regular 10 (marginMm + 22) (top + 4) .ink url,
      written .bold 10 marginMm (top + 9) .ink "Generated",
      written .regular 10 (marginMm + 22) (top + 9) .ink generated]
  | .separator => [.rule marginMm (pageWidthMm - marginMm) (top + 3) (Color.muted.tint 0.6)]
  | .dials row => dialRow row top
  | .notice lines =>
    lines.zipIdx.map fun (text, i) =>
      written .regular 8.5 marginMm (top + 3 + 4 * i.toFloat32) .muted text
  | .summary counts nodes =>
    tierRow counts top marginMm Impact.descending ++
      [written .regular 9 marginMm (top + 10) .muted
        (toString counts.total ++ " violations, " ++ toString nodes ++ " elements")]
  | .heading text => [written .bold 15 marginMm (top + 6) .ink text]
  | .card c => c.shapes top c.heightMm
  | .noViolations =>
    [.rectangle marginMm top columnMm (height - 4) (Color.success.tint 0.88),
      written .bold 12 (marginMm + 5) (top + 10) .success
        "No accessibility violations were found on this page."]
  | .screenshot size => pictureShapes size top height
  | .noScreenshot reason =>
    [.rectangle marginMm top columnMm (height - 4) (Color.muted.tint 0.9),
      centred .bold 12 (pageWidthMm / 2) (top + 12) .muted "Screenshot unavailable",
      centred .regular 9 (pageWidthMm / 2) (top + 19) .muted reason]
  | .closing lines => lines.zipIdx.map fun (text, i) => closingLine top i text

/-! ## The document -/

/-- The shapes of a page, with its number at the foot. -/
def pageShapes (index count : Nat) (page : List Placed) : List Shape :=
  (page.flatMap fun p => p.block.shapes p.top) ++
    [centred .regular 8 (pageWidthMm / 2) (pageHeightMm - 10) .muted
      (toString (index + 1) ++ " / " ++ toString count)]

/-- A painted document. -/
structure Painting where
  title : String
  /-- The steps of drawing, page by page. -/
  pages : List (List Operation)

namespace Painting

/-- The box of every page, in points. -/
def mediaBox : List String :=
  ["0", "0", number (points pageWidthMm), number (points pageHeightMm)]

/-- The painting of a report. -/
def ofReport (r : ScanReport) : Painting :=
  let pages := (Layout.ofReport r).pages
  ⟨"UXability report - " ++ r.url,
    pages.zipIdx.map fun (page, i) => pageOperations (pageShapes i pages.length page)⟩

end Painting

end PageScan.Export

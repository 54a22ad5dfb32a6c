import PageScan.Audit.Result
import PageScan.Text.Wrap

/-!
# Violation cards

A card shows one violation: a title, a description and what the first element has to change. A
card is cut so that it fits an empty page. The title comes first, then the description, and the
detail gets what is left.

Lengths on a page are counted in half millimetres, in which every one of them is a whole number.
-/

namespace PageScan.Export

/-- A length in half millimetres. -/
abbrev HalfMm := Nat

/-- Measures of the page. -/
structure Paper where
  width : HalfMm
  height : HalfMm
  margin : HalfMm

/-- An upright A4 page. -/
def paper : Paper := ⟨420, 594, 40⟩

/-- The height between the margins of a page. -/
def Paper.body (p : Paper) : HalfMm := p.height - 2 * p.margin

/-- The width between the margins of a page. -/
def Paper.column (p : Paper) : HalfMm := p.width - 2 * p.margin

/-- A card for a violation, with its text in lines. -/
structure Card where
  /-- The place of the violation in the audit, from one on. -/
  ordinal : Nat
  impact : Impact
  title : List String
  description : List String
  detail : List String
  /-- How many elements break the rule. -/
  nodes : Nat
  deriving DecidableEq

namespace Card

/-- The height of a card without any text. -/
def frame : HalfMm := 28

/-- The height of a line of the title. -/
def titleLine : HalfMm := 10

/-- The height of a line of the description. -/
def descriptionLine : HalfMm := 8

/-- The height of a line of the detail. -/
def detailLine : HalfMm := 7

/-- How many characters a line of the title holds. -/
def titleWidth : Nat := 75

/-- How many characters a line of the description holds. -/
def descriptionWidth : Nat := 95

/-- How many characters a line of the detail holds. -/
def detailWidth : Nat := 105

/-- How many lines a title has at most. -/
def titleLimit : Nat := 4

/-- What marks a cut. -/
def ellipsis : String := "..."

/-- The height of a card with the space below it. -/
def height (c : Card) : HalfMm :=
  frame + titleLine * c.title.length + descriptionLine * c.description.length +
    detailLine * c.detail.length

/-- A line that ends in the mark of a cut and still fits the width. -/
def marked (width : Nat) (line : String) : String :=
  Text.trimEnd (String.ofList (line.toList.take (width - ellipsis.length))) ++ ellipsis

/-- At most `limit` of the lines. If some are left out, the last that is kept carries the mark. -/
def cut (limit width : Nat) (lines : List String) : List String :=
  if lines.length ≤ limit then lines
  else
    match (lines.take limit).reverse with
    | [] => []
    | last :: before => (marked width last :: before).reverse

/-- The card cut to fit an empty page. -/
def fitted (c : Card) : Card :=
  let title := cut titleLimit titleWidth c.title
  let belowTitle := paper.body - frame - titleLine * title.length
  let description := cut (belowTitle / descriptionLine) descriptionWidth c.description
  let belowDescription := belowTitle - descriptionLine * description.length
  let detail := cut (belowDescription / detailLine) detailWidth c.detail
  { c with title, description, detail }

/-- What the first element of a violation has to change. -/
def advice (v : Violation) : String :=
  (v.nodes.head?.bind (·.failureSummary)).getD ""

/-- The first line of a card, before it is wrapped. -/
def heading (v : Violation) : String :=
  "[" ++ String.ofList (v.impact.name.toList.map Char.toUpper) ++ "] " ++ v.headline

/-- The card of a violation. -/
def ofViolation (ordinal : Nat) (v : Violation) : Card :=
  fitted
    ⟨ordinal, v.impact,
      Text.Wrap.wrap titleWidth (heading v),
      Text.Wrap.wrap descriptionWidth v.description,
      Text.Wrap.wrap detailWidth (advice v),
      v.nodes.length⟩

end Card

end PageScan.Export

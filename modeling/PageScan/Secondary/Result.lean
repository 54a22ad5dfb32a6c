import PageScan.Json.Choice

/-!
# Results of the secondary audit

A second engine scores a page in four categories. Its audit is an extra: where it is disabled or
fails, the result says so and holds no scores.
-/

namespace PageScan

/-- The categories that the second engine scores. -/
inductive AuditCategory
  | performance
  | accessibility
  | bestPractices
  | seo
  deriving DecidableEq, Repr

/-- A score out of a hundred for each category. -/
structure CategoryScores where
  performance : Nat
  accessibility : Nat
  bestPractices : Nat
  seo : Nat
  deriving DecidableEq

/-- The part of a report that the secondary audit fills. -/
structure SecondaryResult where
  scores : Option CategoryScores
  /-- What the engine wrote, in full. -/
  raw : Option Json.Value
  error : Option String
  details : Option String
  hint : Option String

namespace AuditCategory

/-- All categories, in the order of display. -/
def all : List AuditCategory :=
  [.performance, .accessibility, .bestPractices, .seo]

/-- The name of a category in documents. -/
def name : AuditCategory → String
  | .performance => "performance"
  | .accessibility => "accessibility"
  | .bestPractices => "bestPractices"
  | .seo => "seo"

/-- The name of a category to the engine. -/
def engineId : AuditCategory → String
  | .performance => "performance"
  | .accessibility => "accessibility"
  | .bestPractices => "best-practices"
  | .seo => "seo"

/-- The name of a category to a reader. -/
def label : AuditCategory → String
  | .performance => "Performance"
  | .accessibility => "Accessibility"
  | .bestPractices => "Best Practices"
  | .seo => "SEO"

/-- Reads a category. -/
def decoder : Json.Decoder AuditCategory :=
  .names (all.map fun c => (c.name, c))

/-- The category as a document. -/
def toJson (c : AuditCategory) : Json.Value :=
  .string c.name

instance : Json.Document AuditCategory := ⟨decoder, toJson⟩

end AuditCategory

namespace CategoryScores

/-- The score of a category. -/
def get (s : CategoryScores) : AuditCategory → Nat
  | .performance => s.performance
  | .accessibility => s.accessibility
  | .bestPractices => s.bestPractices
  | .seo => s.seo

/-- Reads scores. -/
def decoder : Json.Decoder CategoryScores :=
  .record "CategoryScores"
    (.cons (.required "performance" .u8) <|
      .cons (.required "accessibility" .u8) <|
      .cons (.required "bestPractices" .u8) <|
      .cons (.required "seo" .u8) .nil)
    fun (performance, accessibility, bestPractices, seo, ()) =>
      ⟨performance, accessibility, bestPractices, seo⟩

/-- The scores as a document. -/
def toJson (s : CategoryScores) : Json.Value :=
  .object
    [("performance", .ofNat s.performance), ("accessibility", .ofNat s.accessibility),
      ("bestPractices", .ofNat s.bestPractices), ("seo", .ofNat s.seo)]

instance : Json.Document CategoryScores := ⟨decoder, toJson⟩

end CategoryScores

namespace SecondaryResult

/-- What a report says when the engine failed. -/
def failureMessage : String := "secondary audit failed"

/-- What a report says about the likely cause. -/
def failureHint : String := "first paint may not be detectable in headless mode"

/-- What a report says when the audit was not wanted. -/
def disabledMessage : String := "secondary audit disabled"

/-- The result of an engine that answered. -/
def completed (scores : CategoryScores) (raw : Json.Value) : SecondaryResult :=
  ⟨some scores, some raw, none, none, none⟩

/-- The result of an engine that failed. -/
def degraded (details : String) : SecondaryResult :=
  ⟨none, none, some failureMessage, some details, some failureHint⟩

/-- The result of an audit that was not wanted. -/
def skipped : SecondaryResult :=
  ⟨none, none, some disabledMessage, none, none⟩

/-- There are no scores to show. -/
def isDegraded (r : SecondaryResult) : Bool :=
  r.error.isSome

/-- The score of a category, if it is to be shown. -/
def score (r : SecondaryResult) (c : AuditCategory) : Option Nat :=
  if r.isDegraded then none else r.scores.map fun s => s.get c

/-- Reads a result. -/
def decoder : Json.Decoder SecondaryResult :=
  .record "SecondaryAuditResult"
    (.cons (.omissible "scores" CategoryScores.decoder) <|
      .cons (.omissible "raw" .any) <|
      .cons (.omissible "error" .string) <|
      .cons (.omissible "details" .string) <|
      .cons (.omissible "hint" .string) .nil)
    fun (scores, raw, error, details, hint, ()) => ⟨scores, raw, error, details, hint⟩

/-- The result as a document. -/
def toJson (r : SecondaryResult) : Json.Value :=
  .object <|
    Json.presentMember "scores" (r.scores.map CategoryScores.toJson) ++
      Json.presentMember "raw" r.raw ++
      Json.presentMember "error" (r.error.map .string) ++
      Json.presentMember "details" (r.details.map .string) ++
      Json.presentMember "hint" (r.hint.map .string)

instance : Json.Document SecondaryResult := ⟨decoder, toJson⟩

end SecondaryResult

end PageScan

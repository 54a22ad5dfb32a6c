import PageScan.Secondary.Engine

/-!
# Simulated second engines

Engines that answer at once with given scores, that fail, and that never answer.
-/

namespace PageScan

namespace SecondaryEngine

/-- The report of a simulated engine on a page. -/
def sampleReport (scores : CategoryScores) (url : String) : EngineReport where
  scores := scores
  raw :=
    .object
      [("audits", .object
        [("uses-text-compression", .object
          [("description",
              .string "Text-based resources should be served with compression."),
            ("title", .string "Enable text compression")])]),
        ("finalDisplayedUrl", .string url)]

/-- Full scores. -/
def fullScores : CategoryScores := ⟨100, 100, 100, 100⟩

/-- The engine that finds nothing to complain about. -/
def perfect : SecondaryEngine := fun r => .now (sampleReport fullScores r.url)

/-- The engine that never answers. -/
def hanging : SecondaryEngine := fun _ => .never

/-- The engine that fails. -/
def failing (reason : String) : SecondaryEngine := fun _ => .refuse reason

end SecondaryEngine

end PageScan

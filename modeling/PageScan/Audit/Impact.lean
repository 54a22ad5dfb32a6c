import PageScan.Json.Choice

/-!
# Impact tiers

How hard a violation hits the users of a page, from minor to critical.
-/

namespace PageScan

/-- The four tiers. -/
inductive Impact
  | minor
  | moderate
  | serious
  | critical
  deriving DecidableEq, Repr

namespace Impact

/-- The tiers from the gravest down. -/
def descending : List Impact :=
  [.critical, .serious, .moderate, .minor]

/-- The name of a tier. -/
def name : Impact → String
  | .critical => "critical"
  | .serious => "serious"
  | .moderate => "moderate"
  | .minor => "minor"

/-- The rank of a tier; a graver tier weighs more. -/
def weight : Impact → Nat
  | .critical => 4
  | .serious => 3
  | .moderate => 2
  | .minor => 1

/-- Reads the name of a tier. -/
def decoder : Json.Decoder Impact :=
  .names [("minor", .minor), ("moderate", .moderate), ("serious", .serious),
    ("critical", .critical)]

/-- The tier as a document. -/
def toJson (i : Impact) : Json.Value :=
  .string i.name

/-- The style classes that mark an element of this tier. -/
def highlightClasses (i : Impact) : List String :=
  ["violation-highlight", "violation-highlight-" ++ i.name]

instance : Json.Document Impact := ⟨decoder, toJson⟩

end Impact

end PageScan

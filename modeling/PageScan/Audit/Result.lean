import PageScan.Audit.Impact
import PageScan.Text.Blank

/-!
# Audit results

What the rule engine found on a page: violations with the elements they concern, the rules that
passed, and those that need a human eye. Violations can be counted and grouped by impact.
-/

namespace PageScan

/-- An element that a rule speaks about. -/
structure ViolationNode where
  /-- The selectors of the element; the first is the one to look it up by. -/
  target : List String
  failureSummary : Option String
  html : Option String
  deriving DecidableEq

/-- A rule that a page breaks. -/
structure Violation where
  id : String
  impact : Impact
  description : String
  help : String
  helpUrl : Option String
  tags : List String
  nodes : List ViolationNode
  deriving DecidableEq

/-- A rule that passed or could not be decided. -/
structure RuleCheck where
  id : String
  impact : Option Impact
  description : String
  help : String
  nodes : List ViolationNode
  deriving DecidableEq

/-- How many violations there are of each impact. -/
structure ImpactCounts where
  critical : Nat
  serious : Nat
  moderate : Nat
  minor : Nat
  deriving DecidableEq

/-- The findings of the rule engine on a page. -/
structure AuditResult where
  violations : List Violation
  passes : List RuleCheck
  incomplete : List RuleCheck
  deriving DecidableEq

/-- The violations of one impact, in the order of the audit. -/
structure ImpactGroup where
  impact : Impact
  violations : List Violation
  deriving DecidableEq

namespace ViolationNode

/-- The selector to look an element up by, if it has one. -/
def primarySelector (n : ViolationNode) : Option String :=
  match n.target with
  | s :: _ => if s = "" then none else some s
  | [] => none

/-- What stands between the selectors of a path through shadow trees. -/
def shadowSeparator : String := " >>> "

/-- Reads a selector: a text, or the parts of a path through shadow trees. -/
def targetDecoder : Json.Decoder String := fun src n => do
  let content ← Json.Decoder.aside src n
  match Json.Decoder.string .aside content with
  | .ok s => return s
  | .error _ =>
    match (Json.Decoder.list .string) .aside content with
    | .ok parts => return shadowSeparator.intercalate parts
    | .error _ => .error (.custom "data did not match any variant of untagged enum Target")

/-- Reads an element. -/
def decoder : Json.Decoder ViolationNode :=
  .record "ViolationNode"
    (.cons (.required "target" (.list targetDecoder)) <|
      .cons (.omissible "failureSummary" .string) <|
      .cons (.omissible "html" .string) .nil)
    fun (target, failureSummary, html, ()) => ⟨target, failureSummary, html⟩

/-- The element as a document. -/
def toJson (n : ViolationNode) : Json.Value :=
  .object <|
    [("target", .ofStrings n.target)] ++
      Json.presentMember "failureSummary" (n.failureSummary.map .string) ++
      Json.presentMember "html" (n.html.map .string)

instance : Json.Document ViolationNode := ⟨decoder, toJson⟩

end ViolationNode

namespace Violation

/-- The line that stands for a violation: its help text, or its description if that is blank. -/
def headline (v : Violation) : String :=
  if Text.isBlankText v.help then v.description else v.help

/-- Reads a violation as reports keep it. -/
def decoder : Json.Decoder Violation :=
  .record "Violation"
    (.cons (.required "id" .string) <|
      .cons (.required "impact" Impact.decoder) <|
      .cons (.required "description" .string) <|
      .cons (.required "help" .string) <|
      .cons (.omissible "helpUrl" .string) <|
      .cons (.defaulted "tags" (.list .string) []) <|
      .cons (.required "nodes" (.list ViolationNode.decoder)) .nil)
    fun (id, impact, description, help, helpUrl, tags, nodes, ()) =>
      ⟨id, impact, description, help, helpUrl, tags, nodes⟩

/-- The violation as a document. -/
def toJson (v : Violation) : Json.Value :=
  .object <|
    [("id", .string v.id), ("impact", v.impact.toJson), ("description", .string v.description),
      ("help", .string v.help)] ++
      Json.presentMember "helpUrl" (v.helpUrl.map .string) ++
      Json.presentItems "tags" (v.tags.map .string) ++
      [("nodes", .array (v.nodes.map ViolationNode.toJson))]

instance : Json.Document Violation := ⟨decoder, toJson⟩

end Violation

namespace RuleCheck

/-- Reads a rule that passed or could not be decided. -/
def decoder : Json.Decoder RuleCheck :=
  .record "RuleCheck"
    (.cons (.required "id" .string) <|
      .cons (.omissible "impact" Impact.decoder) <|
      .cons (.defaulted "description" .string "") <|
      .cons (.defaulted "help" .string "") <|
      .cons (.defaulted "nodes" (.list ViolationNode.decoder) []) .nil)
    fun (id, impact, description, help, nodes, ()) => ⟨id, impact, description, help, nodes⟩

/-- The rule as a document. -/
def toJson (r : RuleCheck) : Json.Value :=
  .object
    [("id", .string r.id), ("impact", .ofOption Impact.toJson r.impact),
      ("description", .string r.description), ("help", .string r.help),
      ("nodes", .array (r.nodes.map ViolationNode.toJson))]

instance : Json.Document RuleCheck := ⟨decoder, toJson⟩

end RuleCheck

namespace ImpactCounts

/-- No violations. -/
def zero : ImpactCounts := ⟨0, 0, 0, 0⟩

/-- The count of an impact. -/
def get (c : ImpactCounts) : Impact → Nat
  | .critical => c.critical
  | .serious => c.serious
  | .moderate => c.moderate
  | .minor => c.minor

/-- One more violation of an impact. -/
def add (c : ImpactCounts) : Impact → ImpactCounts
  | .critical => { c with critical := c.critical + 1 }
  | .serious => { c with serious := c.serious + 1 }
  | .moderate => { c with moderate := c.moderate + 1 }
  | .minor => { c with minor := c.minor + 1 }

/-- All violations. -/
def total (c : ImpactCounts) : Nat :=
  c.critical + c.serious + c.moderate + c.minor

/-- Reads counts. -/
def decoder : Json.Decoder ImpactCounts :=
  .record "ImpactCounts"
    (.cons (.required "critical" .count) <|
      .cons (.required "serious" .count) <|
      .cons (.required "moderate" .count) <|
      .cons (.required "minor" .count) .nil)
    fun (critical, serious, moderate, minor, ()) => ⟨critical, serious, moderate, minor⟩

/-- The counts as a document. -/
def toJson (c : ImpactCounts) : Json.Value :=
  .object
    [("critical", .ofNat c.critical), ("serious", .ofNat c.serious),
      ("moderate", .ofNat c.moderate), ("minor", .ofNat c.minor)]

instance : Json.Document ImpactCounts := ⟨decoder, toJson⟩

end ImpactCounts

namespace AuditResult

/-- An audit without findings. -/
def empty : AuditResult := ⟨[], [], []⟩

/-- The number of elements that violations concern. -/
def nodeCount (a : AuditResult) : Nat :=
  (a.violations.map fun v => v.nodes.length).foldr (· + ·) 0

/-- The page breaks no rule. -/
def isClean (a : AuditResult) : Bool :=
  a.violations.isEmpty

/-- The violations counted by impact. -/
def impactCounts (a : AuditResult) : ImpactCounts :=
  a.violations.foldl (fun counts v => counts.add v.impact) .zero

/-- The violations grouped by impact, the gravest first. There is no empty group. -/
def groupByImpact (a : AuditResult) : List ImpactGroup :=
  (Impact.descending.map fun impact =>
    ImpactGroup.mk impact (a.violations.filter fun v => v.impact = impact)).filter
      fun g => !g.violations.isEmpty

/-- Reads an audit as reports keep it. -/
def decoder : Json.Decoder AuditResult :=
  .record "AuditResult"
    (.cons (.required "violations" (.list Violation.decoder)) <|
      .cons (.defaulted "passes" (.list RuleCheck.decoder) []) <|
      .cons (.defaulted "incomplete" (.list RuleCheck.decoder) []) .nil)
    fun (violations, passes, incomplete, ()) => ⟨violations, passes, incomplete⟩

/-- The audit as a document. -/
def toJson (a : AuditResult) : Json.Value :=
  .object
    [("violations", .array (a.violations.map Violation.toJson)),
      ("passes", .array (a.passes.map RuleCheck.toJson)),
      ("incomplete", .array (a.incomplete.map RuleCheck.toJson))]

instance : Json.Document AuditResult := ⟨decoder, toJson⟩

end AuditResult

end PageScan

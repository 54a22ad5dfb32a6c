import PageScan.Audit.Result

/-!
# What the rule engine returns

The engine leaves out more than a report may: a violation needs only its rule, and one without an
impact counts as minor.
-/

namespace PageScan

namespace Violation

/-- Reads a violation as the engine returns it. -/
def payloadDecoder : Json.Decoder Violation :=
  .record "RawViolation"
    (.cons (.required "id" .string) <|
      .cons (.omissible "impact" Impact.decoder) <|
      .cons (.defaulted "description" .string "") <|
      .cons (.defaulted "help" .string "") <|
      .cons (.omissible "helpUrl" .string) <|
      .cons (.defaulted "tags" (.list .string) []) <|
      .cons (.defaulted "nodes" (.list ViolationNode.decoder) []) .nil)
    fun (id, impact, description, help, helpUrl, tags, nodes, ()) =>
      ⟨id, impact.getD .minor, description, help, helpUrl, tags, nodes⟩

end Violation

namespace AuditResult

/-- Reads an audit as the engine returns it. -/
def payloadDecoder : Json.Decoder AuditResult :=
  .record "RawAuditResult"
    (.cons (.defaulted "violations" (.list Violation.payloadDecoder) []) <|
      .cons (.defaulted "passes" (.list RuleCheck.decoder) []) <|
      .cons (.defaulted "incomplete" (.list RuleCheck.decoder) []) .nil)
    fun (violations, passes, incomplete, ()) => ⟨violations, passes, incomplete⟩

/-- The audit that the engine returned. -/
def ofPayload (payload : Json.Value) : Except Json.Error AuditResult :=
  Json.Decoder.decodeValue payloadDecoder payload

end AuditResult

end PageScan

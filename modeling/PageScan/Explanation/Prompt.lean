import PageScan.Report

/-!
# What is asked about a finding

The text that stands for a finding, and the question that is put about it.
-/

namespace PageScan

/-- The question about a finding. -/
def explanationPrompt (text : String) : String :=
  "Explain this web accessibility or quality issue to a developer. " ++
    "State in one sentence what it means, then give one or two practical points on how to fix " ++
    "it. Use at most 50 words.\n\nIssue: " ++ text

/-- The text that stands for a violation: its description, its help text if that is blank, or the
name of its rule. -/
def Violation.text (v : Violation) : String :=
  if !Text.isBlankText v.description then v.description
  else if !Text.isBlankText v.help then v.help
  else v.id

/-- The text that stands for an item of the secondary audit, if the audit has that item. -/
def ScanReport.auditItemText? (r : ScanReport) (id : String) : Option String := do
  let raw ← r.secondaryAudit.raw
  let item ← (← raw.member? "audits").member? id
  let title := ((item.member? "title").bind Json.Value.string?).getD id
  match (item.member? "description").bind Json.Value.string? with
  | some description =>
    if Text.isBlankText description then title else title ++ ": " ++ description
  | none => title

end PageScan

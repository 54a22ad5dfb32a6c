import PageScan.Audit.Result
import PageScan.Proofs.Json.Records

/-!
# Audits are read back

Every audit is read back from its document: the tier of a violation by its name, the selectors of
an element as texts, and what is left out as what it was. There are no numbers in it that would
have to be read, and it nests six deep at most.
-/

namespace PageScan

open Json (presentMember presentItems)
open Json.Decoder (readsBack_string readsBack_names)
open Json.Value (depth_array_le_iff depth_object_le_iff legible_object forall_mem_presentMember
  forall_mem_presentItems)

theorem Impact.readsBack {k : Nat} (i : Impact) : decoder.ReadsBack k i.toJson i :=
  readsBack_names (by cases i <;> rfl)

@[simp]
theorem Impact.legible_toJson (i : Impact) : i.toJson.Legible := by
  simp [toJson]

namespace ViolationNode

theorem readsBack (n : ViolationNode) : decoder.ReadsBack 2 n.toJson n := by
  have hmembers : n.toJson = .object (("target", .ofStrings n.target) ::
      (presentMember "failureSummary" (n.failureSummary.map .string) ++
        (presentMember "html" (n.html.map .string) ++ []))) := by
    simp [toJson]
  have htarget : (Json.Decoder.list targetDecoder).ReadsBack 1 (.ofStrings n.target) n.target :=
    .list fun _ _ _ _ => rfl
  rw [hmembers, decoder]
  refine .record (n.target, n.failureSummary, n.html, ()) rfl (fun src hsrc => ?_) (by decide)
  exact .field (htarget src hsrc) <| .omissible (fun _ _ => rfl) nofun <|
    .omissible (fun _ _ => rfl) nofun .nil

@[simp]
theorem legible_toJson (n : ViolationNode) : n.toJson.Legible := by
  rw [toJson, legible_object]
  simp only [List.forall_mem_append, forall_mem_presentMember]
  simp

theorem depth_toJson_le (n : ViolationNode) : n.toJson.depth ≤ 2 := by
  rw [toJson, depth_object_le_iff]
  simp only [List.forall_mem_append, forall_mem_presentMember]
  simp [Json.Value.ofStrings, depth_array_le_iff]

end ViolationNode

namespace Violation

theorem readsBack (v : Violation) : decoder.ReadsBack 4 v.toJson v := by
  have hmembers : v.toJson = .object (("id", .string v.id) :: ("impact", v.impact.toJson) ::
      ("description", .string v.description) :: ("help", .string v.help) ::
      (presentMember "helpUrl" (v.helpUrl.map .string) ++
        (presentItems "tags" (v.tags.map .string) ++
          [("nodes", .array (v.nodes.map ViolationNode.toJson))]))) := by
    simp [toJson]
  have htags : (Json.Decoder.list .string).ReadsBack 3 (.array (v.tags.map .string)) v.tags :=
    .list fun tag _ => readsBack_string tag
  have hnodes : (Json.Decoder.list ViolationNode.decoder).ReadsBack 3
      (.array (v.nodes.map ViolationNode.toJson)) v.nodes := .list fun n _ => n.readsBack
  rw [hmembers, decoder]
  refine .record (v.id, v.impact, v.description, v.help, v.helpUrl, v.tags, v.nodes, ()) rfl
    (fun src hsrc => ?_) (by decide)
  exact .field (readsBack_string v.id src hsrc) <| .field (v.impact.readsBack src hsrc) <|
    .field (readsBack_string v.description src hsrc) <|
    .field (readsBack_string v.help src hsrc) <| .omissible (fun _ _ => rfl) nofun <|
    .items (htags src hsrc) <| .field (hnodes src hsrc) .nil

@[simp]
theorem legible_toJson (v : Violation) : v.toJson.Legible := by
  have htags : (Json.Value.array (v.tags.map .string)).Legible := by simp
  rw [toJson, legible_object]
  simp only [List.forall_mem_append, forall_mem_presentMember]
  exact ⟨⟨⟨by simp, by simp⟩, forall_mem_presentItems htags⟩, by simp⟩

theorem depth_toJson_le (v : Violation) : v.toJson.depth ≤ 4 := by
  rw [toJson, depth_object_le_iff]
  have htags : ∀ m ∈ Json.presentItems "tags" (v.tags.map .string), m.2.depth ≤ 3 :=
    forall_mem_presentItems (by simp [depth_array_le_iff])
  simp only [List.forall_mem_append, forall_mem_presentMember]
  refine ⟨⟨⟨?_, ?_⟩, htags⟩, ?_⟩
  · simp [Impact.toJson]
  · simp
  · simp [depth_array_le_iff, ViolationNode.depth_toJson_le]

end Violation

namespace RuleCheck

theorem readsBack (r : RuleCheck) : decoder.ReadsBack 4 r.toJson r := by
  have himpact : Impact.decoder.nullable.ReadsBack 3 (.ofOption Impact.toJson r.impact)
      r.impact := by
    cases r.impact with
    | none => exact Json.Decoder.readsBack_null
    | some impact => exact impact.readsBack.nullable nofun
  have hnodes : (Json.Decoder.list ViolationNode.decoder).ReadsBack 3
      (.array (r.nodes.map ViolationNode.toJson)) r.nodes := .list fun n _ => n.readsBack
  rw [toJson, decoder]
  refine .record (r.id, r.impact, r.description, r.help, r.nodes, ()) rfl (fun src hsrc => ?_)
    (by decide)
  exact .field (readsBack_string r.id src hsrc) <|
    .field (f := .omissible "impact" Impact.decoder) (himpact src hsrc) <|
    .field (f := .defaulted "description" .string "") (readsBack_string r.description src hsrc) <|
    .field (f := .defaulted "help" .string "") (readsBack_string r.help src hsrc) <|
    .field (f := .defaulted "nodes" (.list ViolationNode.decoder) []) (hnodes src hsrc) .nil

@[simp]
theorem legible_toJson (r : RuleCheck) : r.toJson.Legible := by
  have himpact : (Json.Value.ofOption Impact.toJson r.impact).Legible := by
    cases r.impact <;> simp [Json.Value.ofOption]
  simp [toJson, himpact]

theorem depth_toJson_le (r : RuleCheck) : r.toJson.depth ≤ 4 := by
  rw [toJson, depth_object_le_iff]
  have himpact : (Json.Value.ofOption Impact.toJson r.impact).depth = 0 := by
    cases r.impact <;> rfl
  simp [himpact, depth_array_le_iff, ViolationNode.depth_toJson_le]

end RuleCheck

namespace AuditResult

theorem readsBack (a : AuditResult) : decoder.ReadsBack 6 a.toJson a := by
  have hviolations : (Json.Decoder.list Violation.decoder).ReadsBack 5
      (.array (a.violations.map Violation.toJson)) a.violations := .list fun v _ => v.readsBack
  have hchecks (checks : List RuleCheck) : (Json.Decoder.list RuleCheck.decoder).ReadsBack 5
      (.array (checks.map RuleCheck.toJson)) checks := .list fun r _ => r.readsBack
  rw [toJson, decoder]
  refine .record (a.violations, a.passes, a.incomplete, ()) rfl (fun src hsrc => ?_) (by decide)
  exact .field (hviolations src hsrc) <|
    .field (f := .defaulted "passes" (.list RuleCheck.decoder) []) (hchecks a.passes src hsrc) <|
    .field (f := .defaulted "incomplete" (.list RuleCheck.decoder) [])
      (hchecks a.incomplete src hsrc) .nil

@[simp]
theorem legible_toJson (a : AuditResult) : a.toJson.Legible := by
  simp [toJson]

theorem depth_toJson_le (a : AuditResult) : a.toJson.depth ≤ 6 := by
  rw [toJson, depth_object_le_iff]
  simp [depth_array_le_iff, Violation.depth_toJson_le, RuleCheck.depth_toJson_le]

end AuditResult

end PageScan

import PageScan.Audit.Payload
import PageScan.Proofs.Audit.Documents
import PageScan.Proofs.Json.Steady
import PageScan.Proofs.Json.Wider

/-!
# What the engine returns and what a report keeps

The engine's audits are read more leniently than those of a report. Whatever is read as a report
keeps it is read to the same effect as the engine returns it, whether it comes as an object or as
an array, and with or without what may be left out.

* `steady_decoder`: an audit is read of a text as it is read of the value in the text.
* `wider_payloadDecoder`: the lenient reader reads all that the strict one reads.
* `ofPayload_extends_decoder`: both read back what is written, and agree wherever the strict one
  reads anything.
-/

namespace PageScan

open Json.Decoder (aside_of_plain eq_ofStrings_of_list eq_string_of_string steady_string steady_names
  steady_record wider_nullable)

theorem Impact.wider_nullable_decoder : decoder.nullable.Wider decoder some :=
  wider_nullable (fun _ _ h => nomatch Json.Decoder.chooses_of_choice h)
    fun _ _ _ _ h => nomatch Json.Decoder.chooses_of_choice h

theorem Impact.steady_decoder : decoder.Steady :=
  steady_names _

namespace ViolationNode

/-- What is read as a selector is a text or a list of texts, which is normal. -/
theorem normal_of_targetDecoder {src : Json.Source} {n : Json.Node} {v : Json.Value} {s : String}
    (hplain : n.plain src = .ok v) (h : targetDecoder src n = .ok s) : v.normal = v := by
  rw [targetDecoder, aside_of_plain hplain] at h
  dsimp only [bind, Except.bind] at h
  split at h
  · next hstring =>
    rw [eq_string_of_string hstring]
    rfl
  · split at h
    · next parts hlist =>
      rw [eq_ofStrings_of_list hlist, Json.Value.ofStrings, Json.Value.normal_array, List.map_map]
      rfl
    · cases h

theorem steady_targetDecoder : targetDecoder.Steady := by
  intro src n v s hplain hread
  rw [normal_of_targetDecoder hplain hread, ← hread, Json.Decoder.decodeValue, targetDecoder,
    targetDecoder, aside_of_plain hplain, aside_of_plain (Json.plain_value_ofValue v)]

theorem steady_decoder : decoder.Steady :=
  steady_record
    (.cons (.list steady_targetDecoder) <| .cons (.nullable steady_string) <|
      .cons (.nullable steady_string) .nil) (by decide) _ _

end ViolationNode

namespace RuleCheck

theorem steady_decoder : decoder.Steady :=
  steady_record
    (.cons steady_string <| .cons (.nullable Impact.steady_decoder) <| .cons steady_string <|
      .cons steady_string <| .cons (.list ViolationNode.steady_decoder) .nil) (by decide) _ _

end RuleCheck

namespace Violation

theorem steady_decoder : decoder.Steady :=
  steady_record
    (.cons steady_string <| .cons Impact.steady_decoder <| .cons steady_string <|
      .cons steady_string <| .cons (.nullable steady_string) <| .cons (.list steady_string) <|
      .cons (.list ViolationNode.steady_decoder) .nil) (by decide) _ _

theorem wider_payloadDecoder : payloadDecoder.Wider decoder fun v => v :=
  .record
    (.cons (.refl _) <| .cons (.omissible Impact.wider_nullable_decoder) <|
      .cons (.defaulted (.refl _) "") <| .cons (.defaulted (.refl _) "") <|
      .cons (.refl _) <| .cons (.refl _) <| .cons (.defaulted (.refl _) []) .nil)
    fun _ => rfl

end Violation

namespace AuditResult

theorem steady_decoder : decoder.Steady :=
  steady_record
    (.cons (.list Violation.steady_decoder) <| .cons (.list RuleCheck.steady_decoder) <|
      .cons (.list RuleCheck.steady_decoder) .nil) (by decide) _ _

theorem wider_payloadDecoder : payloadDecoder.Wider decoder fun a => a := by
  refine .record
    (.cons (.defaulted (.list Violation.wider_payloadDecoder) []) <|
      .cons (.refl _) <| .cons (.refl _) .nil) fun row => ?_
  obtain ⟨violations, passes, incomplete, ⟨⟩⟩ := row
  exact congrArg (AuditResult.mk · passes incomplete) (List.map_id violations)

theorem ofPayload_of_decodeValue {v : Json.Value} {a : AuditResult}
    (h : decoder.decodeValue v = .ok a) : ofPayload v = .ok a :=
  wider_payloadDecoder _ _ a h

theorem ofText_toJson (a : AuditResult) :
    ∀ text ∈ [a.toJson.compact, a.toJson.indented],
      Json.Node.ofText text = (.ofValue a.toJson, false) := by
  simp [Json.Node.ofText_compact, Json.Node.ofText_indented]

theorem any_decodeText_toJson (a : AuditResult) :
    ∀ text ∈ [a.toJson.compact, a.toJson.indented],
      Json.Decoder.any.decodeText text = .ok a.toJson.normal := by
  intro text htext
  have hadmits : (Json.Source.text Json.depthLimit).Admits a.toJson.depth :=
    Nat.lt_of_le_of_lt a.depth_toJson_le (by decide)
  rw [Json.Decoder.decodeText_of_ofText (a.ofText_toJson text htext), Json.Decoder.any,
    Json.Node.plain_ofValue (hadmits.mono (Nat.zero_le _)), Json.Node.readTo_of_admits hadmits]
  rfl

/-- Both readers read back every audit that is written, at once or out of the value in the text.
And whatever value the strict one reads, the lenient one reads to the same effect; so it does with
the value in a text that the strict one reads at once. -/
theorem ofPayload_extends_decoder :
    (∀ a : AuditResult, ∀ text ∈ [a.toJson.compact, a.toJson.indented],
      decoder.decodeText text = .ok a ∧
        Json.Decoder.any.decodeText text = .ok a.toJson.normal ∧
          decoder.decodeValue a.toJson.normal = .ok a ∧ ofPayload a.toJson.normal = .ok a) ∧
      (∀ (v : Json.Value) (a : AuditResult), decoder.decodeValue v = .ok a → ofPayload v = .ok a) ∧
        ∀ (text : String) (v : Json.Value) (a : AuditResult), decoder.decodeText text = .ok a →
          Json.Decoder.any.decodeText text = .ok v → ofPayload v = .ok a := by
  refine ⟨fun a text htext => ?_, fun v a => ofPayload_of_decodeValue, fun text v a hread hvalue =>
    ofPayload_of_decodeValue (steady_decoder.decodeText hvalue hread)⟩
  have hread : decoder.decodeText text = .ok a := by
    rw [Json.Decoder.decodeText_of_ofText (a.ofText_toJson text htext)]
    exact a.readsBack _ (by decide)
  have hvalue := steady_decoder.decodeText (any_decodeText_toJson a text htext) hread
  exact ⟨hread, any_decodeText_toJson a text htext, hvalue, ofPayload_of_decodeValue hvalue⟩

/-- An audit in which the fields stand in arrays, and one selector is a path. -/
def positional : Json.Value :=
  .array [.array [.array [.string "label", .string "serious", .string "", .string "", .null,
    .array [], .array [.array [.array [.string "#a", .ofStrings ["#host", "input"]]]]]]]

theorem ofPayload_positional :
    ∃ a, (decoder.decodeValue positional = .ok a ∧ ofPayload positional = .ok a) ∧
      decoder.decodeText positional.compact = .ok a ∧
        Json.Decoder.any.decodeText positional.compact = .ok positional ∧
          ofPayload positional = .ok a := by
  have hlegible : positional.Legible := by
    simp [positional]
  have htext := Json.Node.ofText_compact hlegible
  have hread (src : Json.Source) (hsrc : src = .value ∨ src = .text Json.depthLimit) :
      decoder src (.ofValue positional) =
        .ok ⟨[⟨"label", .serious, "", "", none, [], [⟨["#a", "#host >>> input"], none, none⟩]⟩], [],
          []⟩ := by
    rcases hsrc with rfl | rfl <;> rfl
  have hvalue := hread _ (.inl rfl)
  have hdecoded := (Json.Decoder.decodeText_of_ofText htext).trans (hread _ (.inr rfl))
  have hany : Json.Decoder.any.decodeText positional.compact = .ok positional :=
    (Json.Decoder.decodeText_of_ofText htext).trans rfl
  exact ⟨_, ⟨hvalue, ofPayload_extends_decoder.2.1 _ _ hvalue⟩, hdecoded, hany,
    ofPayload_extends_decoder.2.2 _ _ _ hdecoded hany⟩

end AuditResult

end PageScan

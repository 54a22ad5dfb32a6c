import PageScan.Screenshot
import PageScan.Proofs.Base64
import PageScan.Proofs.Json.Records
import PageScan.Proofs.Text.Find

/-!
# Screenshots are read back

A screenshot is written as a data URL, and that data URL is read as the screenshot. What else is
read as a screenshot differs from its data URL in nothing but the name of the format, which may be
left out, and in white space around the payload.

* `Carries`: the texts that carry the payload of an image.
* `splitDataUrl_eq_ok_iff`: they are the ones that are taken apart.
* `ofDataUrl_faithful`: what they are read as.
-/

namespace PageScan

namespace Screenshot

/-- The text carries the payload of an image: as a data URL with a media type, or bare, which is
taken for a JPEG image. -/
inductive Carries : String → ImageFormat → String → Prop
  | jpeg (payload : String) : Carries ("data:image/jpeg;base64," ++ payload) .jpeg payload
  | jpg (payload : String) : Carries ("data:image/jpg;base64," ++ payload) .jpeg payload
  | png (payload : String) : Carries ("data:image/png;base64," ++ payload) .png payload
  | bare {text : String} (h : ¬"data:".toList <+: text.toList) : Carries text .jpeg text

theorem carries_of_media {media payload : String} {format : ImageFormat}
    (h : ImageFormat.ofMediaType? media = some format) :
    Carries ("data:" ++ media ++ ";base64," ++ payload) format payload := by
  unfold ImageFormat.ofMediaType? at h
  split_ifs at h with hjpeg hpng <;> cases h
  · rcases hjpeg with rfl | rfl
    · exact .jpeg payload
    · exact .jpg payload
  · subst hpng
    exact .png payload

/-- A text is taken apart exactly if it carries a payload. -/
theorem splitDataUrl_eq_ok_iff {text payload : String} {format : ImageFormat} :
    splitDataUrl text.toList = .ok (format, payload.toList) ↔ Carries text format payload := by
  constructor
  · intro h
    rw [splitDataUrl] at h
    split at h
    · next hlead =>
      obtain ⟨rfl, htext⟩ := Prod.mk.inj (Except.ok.inj h)
      rw [← String.toList_inj.1 htext]
      exact .bare (Text.stripLead?_eq_none_iff.1 hlead)
    · next rest hlead =>
      split at h
      · cases h
      · next media payload' hsplit =>
        split at h
        · next format' hmedia =>
          obtain ⟨rfl, hpayload⟩ := Prod.mk.inj (Except.ok.inj h)
          have htext : text = "data:" ++ String.ofList media ++ ";base64," ++ payload := by
            rw [← String.toList_inj, Text.stripLead?_eq_some_iff.1 hlead,
              Text.splitOnce?_eq_some hsplit, hpayload]
            simp only [String.toList_append, String.toList_ofList, List.append_assoc]
          rw [htext]
          exact carries_of_media hmedia
        · cases h
  · rintro (_ | _ | _ | h)
    · rw [String.toList_append]
      rfl
    · rw [String.toList_append]
      rfl
    · rw [String.toList_append]
      rfl
    · rw [splitDataUrl, Text.stripLead?_eq_none_iff.2 h]

theorem ofDataUrl_eq_ok_iff {text : String} {s : Screenshot} :
    ofDataUrl text = .ok s ↔
      ∃ payload, Carries text s.format payload ∧ Base64.encode s.bytes = Text.trim payload := by
  constructor
  · intro h
    rcases hsplit : splitDataUrl text.toList with e | ⟨format, payload⟩
    · rw [ofDataUrl, hsplit] at h
      cases h
    · rw [ofDataUrl, hsplit] at h
      rcases hdecode : Base64.decode (Text.trim (String.ofList payload)) with e | bytes
      · simp only [bind, Except.bind, hdecode] at h
        cases h
      · simp only [bind, Except.bind, hdecode] at h
        cases h
        refine ⟨String.ofList payload, splitDataUrl_eq_ok_iff.1 ?_,
          (Base64.decode_eq_ok_iff.1 hdecode).symm⟩
        rw [String.toList_ofList, hsplit]
  · rintro ⟨payload, hcarries, hencode⟩
    rw [ofDataUrl, splitDataUrl_eq_ok_iff.2 hcarries]
    simp only [bind, Except.bind, String.ofList_toList, ← hencode, Base64.decode_encode]
    rfl

theorem carries_toDataUrl (s : Screenshot) :
    Carries s.toDataUrl s.format (Base64.encode s.bytes) := by
  rw [toDataUrl]
  cases s.format with
  | jpeg => exact .jpeg _
  | png => exact .png _

/-- What is written for a screenshot is read as that screenshot. -/
theorem ofDataUrl_toDataUrl (s : Screenshot) : ofDataUrl s.toDataUrl = .ok s :=
  ofDataUrl_eq_ok_iff.2 ⟨_, carries_toDataUrl s, (Base64.trim_encode s.bytes).symm⟩

/-- The texts that are read as a screenshot are those that carry the payload of its data URL with
white space around it. -/
theorem ofDataUrl_faithful :
    (∀ s : Screenshot, ofDataUrl s.toDataUrl = .ok s) ∧
      (∀ (text : String) (s : Screenshot), ofDataUrl text = .ok s ↔
        ∃ payload, Carries text s.format payload ∧
          s.toDataUrl = "data:" ++ s.format.mediaType ++ ";base64," ++ Text.trim payload) ∧
      ∀ (p q : String) (bytes : List UInt8), Base64.decode (Text.trim p) = .ok bytes →
        Base64.decode (Text.trim q) = .ok bytes → Text.trim p = Text.trim q := by
  refine ⟨ofDataUrl_toDataUrl, fun text s => ?_, fun p q bytes hp hq => ?_⟩
  · have hpayload (payload : String) : Base64.encode s.bytes = Text.trim payload ↔
        s.toDataUrl = "data:" ++ s.format.mediaType ++ ";base64," ++ Text.trim payload := by
      simp [toDataUrl, ← String.toList_inj]
    simp only [ofDataUrl_eq_ok_iff, hpayload]
  · rw [Base64.decode_eq_ok_iff.1 hp, Base64.decode_eq_ok_iff.1 hq]

theorem ofDataUrl_faithful_bare :
    ofDataUrl " AAEC\n" = .ok ⟨.jpeg, [0, 1, 2]⟩ ∧
      Base64.decode (Text.trim "AAEC\n") = .ok [0, 1, 2] ∧
      Base64.decode (Text.trim " AAEC") = .ok [0, 1, 2] ∧
      Text.trim "AAEC\n" = Text.trim " AAEC" := by
  obtain ⟨-, haccepted, hunique⟩ := ofDataUrl_faithful
  have hend : Base64.decode (Text.trim "AAEC\n") = .ok [0, 1, 2] :=
    Base64.decode_eq_ok_iff.2 (by decide)
  have hstart : Base64.decode (Text.trim " AAEC") = .ok [0, 1, 2] :=
    Base64.decode_eq_ok_iff.2 (by decide)
  exact ⟨(haccepted _ _).2 ⟨_, .bare (by decide), by decide⟩, hend, hstart,
    hunique _ _ _ hend hstart⟩

theorem readsBack (s : Screenshot) : decoder.ReadsBack 0 s.toJson s :=
  (Json.Decoder.readsBack_string s.toDataUrl).refine
    (congrArg (fun r => r.mapError Error.message) (ofDataUrl_toDataUrl s))

@[simp]
theorem legible_toJson (s : Screenshot) : s.toJson.Legible := by
  simp [toJson]

end Screenshot

end PageScan

import PageScan.Secondary.Result
import PageScan.Proofs.Json.Normal
import PageScan.Proofs.Json.Records

/-!
# Results of the secondary audit are read back

Scores are bytes, and what the engine wrote is kept as it was read. It may nest as deep as the
engine liked, so that it depends on where the result is written whether it is read back.
-/

namespace PageScan

open Json (presentMember)
open Json.Decoder (readsBack_natural)
open Json.Fields (InOrder)
open Json.Value (legible_object legible_ofNat forall_mem_presentMember mem_floats)

namespace CategoryScores

/-- Each score fits in a byte. -/
structure Fits (s : CategoryScores) : Prop where
  performance : s.performance < Nat.pow 2 8
  accessibility : s.accessibility < Nat.pow 2 8
  bestPractices : s.bestPractices < Nat.pow 2 8
  seo : s.seo < Nat.pow 2 8

theorem readsBack {s : CategoryScores} (h : s.Fits) : decoder.ReadsBack 1 s.toJson s := by
  rw [toJson, decoder]
  refine .record (s.performance, s.accessibility, s.bestPractices, s.seo, ()) rfl
    (fun src hsrc => ?_) (by decide)
  exact .field (readsBack_natural h.performance src hsrc) <|
    .field (readsBack_natural h.accessibility src hsrc) <|
    .field (readsBack_natural h.bestPractices src hsrc) <|
    .field (readsBack_natural h.seo src hsrc) .nil

theorem legible_toJson {s : CategoryScores} (h : s.Fits) : s.toJson.Legible := by
  have hscore {n : Nat} (hn : n < Nat.pow 2 8) : (Json.Value.ofNat n).Legible :=
    legible_ofNat (hn.trans (by decide))
  simp [toJson, hscore h.performance, hscore h.accessibility, hscore h.bestPractices, hscore h.seo]

end CategoryScores

namespace SecondaryResult

/-- How deep the engine nested what it wrote. -/
def rawDepth (r : SecondaryResult) : Nat :=
  (r.raw.map Json.Value.depth).getD 0

/-- The floats in what the engine wrote. -/
def rawFloats (r : SecondaryResult) : List Float :=
  (r.raw.map Json.Value.floats).getD []

/-- The scores and what the engine wrote are as an engine reports them. -/
structure Sound (r : SecondaryResult) : Prop where
  scores : ∀ s ∈ r.scores, s.Fits
  raw : ∀ v ∈ r.raw, v.FromText ∧ v ≠ .null

variable {r : SecondaryResult}

/-- A result is read back unless what the engine wrote is too deep. -/
theorem decoder_toJson (h : r.Sound) {src inner : Json.Source} (henter : src.enter = .ok inner)
    (hinner : inner.Admits 1) :
    decoder src (.ofValue r.toJson) = Json.Node.readTo inner r.rawDepth r := by
  obtain ⟨scores, raw, error, details, hint⟩ := r
  have hmembers : (⟨scores, raw, error, details, hint⟩ : SecondaryResult).toJson =
      .object (presentMember "scores" (scores.map CategoryScores.toJson) ++
        (presentMember "raw" raw ++ (presentMember "error" (error.map .string) ++
          (presentMember "details" (details.map .string) ++
            (presentMember "hint" (hint.map .string) ++ []))))) := by
    simp [toJson]
  have hscores : ∀ s ∈ scores, CategoryScores.decoder inner (.ofValue s.toJson) = .ok s :=
    fun s hs => CategoryScores.readsBack (h.scores s hs) inner hinner
  have hzero : inner.Admits 0 := hinner.mono (Nat.zero_le 1)
  have hrest : InOrder inner (.cons (.omissible "error" .string) <|
      .cons (.omissible "details" .string) <| .cons (.omissible "hint" .string) .nil)
      (presentMember "error" (error.map .string) ++ (presentMember "details" (details.map .string) ++
        (presentMember "hint" (hint.map .string) ++ []))) (.ok (error, details, hint, ())) :=
    .omissible (fun _ _ => rfl) nofun <| .omissible (fun _ _ => rfl) nofun <|
      .omissible (fun _ _ => rfl) nofun .nil
  rw [hmembers, decoder]
  rcases raw with _ | v
  · show _ = Json.Node.readTo inner 0 _
    rw [Json.Node.readTo_of_admits hzero]
    exact Json.Decoder.record_of_inOrder henter
      (.presentMember hscores nofun (.absent rfl hrest)) (by decide)
  · obtain ⟨hv, hnull⟩ := h.raw v rfl
    have hread : Json.Decoder.any.nullable inner (.ofValue v) =
        (Json.Node.readTo inner v.depth v).map some := by
      rw [Json.Decoder.nullable_ofValue hnull, Json.Decoder.any_ofValue hzero hv.normal]
    show _ = Json.Node.readTo inner v.depth _
    by_cases hdepth : inner.Admits v.depth
    · rw [Json.Node.readTo_of_admits hdepth] at hread ⊢
      exact Json.Decoder.record_of_inOrder henter
        (.presentMember hscores nofun (.present (f := .omissible "raw" .any) hread hrest))
        (by decide)
    · rw [Json.Node.readTo_of_not_admits hdepth] at hread ⊢
      exact Json.Decoder.record_of_inOrder henter
        (.presentMember hscores nofun
          (.refused (f := .omissible "raw" .any) hread hrest.mem_names)) (by decide)

theorem legible_toJson (h : r.Sound)
    (hfloat : ∀ x ∈ r.rawFloats, (Json.Number.float x).ReadsBack) :
    r.toJson.Legible := by
  obtain ⟨scores, raw, error, details, hint⟩ := r
  have hscores : ∀ v ∈ scores.map CategoryScores.toJson, v.Legible := by
    intro v hv
    obtain ⟨s, hs, rfl⟩ := Option.mem_map.1 hv
    exact CategoryScores.legible_toJson (h.scores s hs)
  have hraw : ∀ v ∈ raw, v.Legible := by
    rintro v rfl n hn
    exact ((h.raw v rfl).1.numbers n hn).readsBack fun x hx =>
      hfloat x (mem_floats.2 (hx ▸ hn))
  rw [toJson, legible_object]
  simp only [List.forall_mem_append, forall_mem_presentMember]
  exact ⟨⟨⟨⟨hscores, hraw⟩, by simp⟩, by simp⟩, by simp⟩

end SecondaryResult

end PageScan

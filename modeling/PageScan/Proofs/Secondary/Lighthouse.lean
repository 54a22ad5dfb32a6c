import PageScan.Secondary.Lighthouse
import PageScan.Proofs.Secondary.Documents
import PageScan.Proofs.Text.Bytes

/-!
# What the engine reports

What the program prints is kept as it was read, less the bulky parts. So its report is an object
that was read from a text, and its scores are bytes.
-/

namespace PageScan

open Json.Node (bind_eq_ok)

namespace EngineReport

/-- The scores are bytes, and what the engine wrote is an object as it is read from a text. -/
structure Sound (r : EngineReport) : Prop where
  scores : r.scores.Fits
  raw : r.raw.FromText
  isObject : ∃ members, r.raw = .object members

theorem percent_lt (x : Float) : percent x < Nat.pow 2 8 := by
  unfold percent
  dsimp only
  split
  · decide
  · split
    · decide
    · exact UInt8.toNat_lt _

theorem scoreOf_lt {report : Json.Value} {c : AuditCategory} {n : Nat}
    (h : scoreOf report c = .ok n) : n < Nat.pow 2 8 := by
  unfold scoreOf at h
  dsimp only at h
  split at h
  · cases h
    exact percent_lt _
  · cases h

/-- Only objects have scores. -/
theorem exists_members_of_scoreOf {report : Json.Value} {c : AuditCategory} {n : Nat}
    (h : scoreOf report c = .ok n) : ∃ members, report = .object members := by
  cases report with
  | object members => exact ⟨members, rfl⟩
  | _ => cases h

theorem sound_of_ofJson {v : Json.Value} (hv : v.FromText) {report : EngineReport}
    (h : ofJson v = .ok report) : report.Sound := by
  unfold ofJson at h
  split at h
  · cases h
  · obtain ⟨performance, hperformance, h⟩ := bind_eq_ok.1 h
    obtain ⟨accessibility, haccessibility, h⟩ := bind_eq_ok.1 h
    obtain ⟨bestPractices, hbestPractices, h⟩ := bind_eq_ok.1 h
    obtain ⟨seo, hseo, h⟩ := bind_eq_ok.1 h
    obtain ⟨members, rfl⟩ := exists_members_of_scoreOf hperformance
    cases h
    exact ⟨⟨scoreOf_lt hperformance, scoreOf_lt haccessibility, scoreOf_lt hbestPractices,
      scoreOf_lt hseo⟩, hv.filter _, _, rfl⟩

/-- What a program prints is read as what it meant, if that is legible and not too deep. -/
theorem ofRun_compact (binary : String) {v : Json.Value} (hlegible : v.Legible)
    (hnormal : v.normal = v) (hdepth : v.depth < Json.depthLimit) (stderr : List UInt8) :
    ofRun binary (.ok ⟨Text.utf8 v.compact, stderr, some 0⟩) = ofJson v := by
  have hzero : (Json.Source.text Json.depthLimit).Admits 0 := Nat.zero_lt_succ _
  have hread : Json.Decoder.any.decodeText v.compact = .ok v := by
    rw [Json.Decoder.decodeText_of_ofText (Json.Node.ofText_compact hlegible),
      Json.Decoder.any_ofValue hzero hnormal]
    exact Json.Node.readTo_of_admits hdepth
  simp only [ofRun, Text.ofUtf8?_utf8, hread]
  rfl

theorem sound_of_ofRun {binary : String} {run : Except String ProgramOutput}
    {report : EngineReport} (h : ofRun binary run = .ok report) : report.Sound := by
  unfold ofRun at h
  split at h
  · cases h
  split at h
  · cases h
  split at h
  · cases h
  split at h
  · cases h
  · next v hread => exact sound_of_ofJson (Json.Value.fromText_of_decodeText hread) h

end EngineReport

/-- Whatever the program does, what the engine reports is sound. -/
theorem SecondaryEngine.sound_of_lighthouse {binary : String}
    {program : List String → Reply String ProgramOutput} {request : SecondaryRequest}
    {report : EngineReport}
    (h : (SecondaryEngine.lighthouse binary program request).outcome = some (.ok report)) :
    report.Sound := by
  obtain ⟨run, -, hrun⟩ := Option.map_eq_some_iff.1 h
  cases hreport : EngineReport.ofRun binary run with
  | error e =>
    rw [hreport] at hrun
    cases hrun
  | ok report' =>
    rw [hreport] at hrun
    cases hrun
    exact EngineReport.sound_of_ofRun hreport

end PageScan

import PageScan.Config
import PageScan.Proofs.Json.Parts

/-!
# Sound configurations

What the checks of a configuration come to together, and what a file says of it.

* `ScanConfig.IsReadFrom`: the sections that a file has, and defaults for the others.
* `ScanConfig.Sound`, `validate_eq_ok_iff`: the limits under which a scan can succeed.
-/

namespace PageScan

open Json

namespace ScanConfig

/-- The section is what the file says under this name, or the default if it says nothing. -/
def IsSection {α : Type} (members : List (Key × Node)) (name : String) (d : Json.Decoder α)
    (default value : α) : Prop :=
  (Field.defaulted name d default).Takes (.text (depthLimit - 1)) (nodesOf name members) value

/-- The configuration has the sections that stand in a file, and defaults for the others. -/
structure IsReadFrom (members : List (Key × Node)) (c : ScanConfig) : Prop where
  navigation : IsSection members "navigation" NavigationConfig.decoder {} c.navigation
  stabilizer : IsSection members "stabilizer" StabilizerConfig.decoder {} c.stabilizer
  capture : IsSection members "capture" CaptureConfig.decoder {} c.capture
  audit : IsSection members "audit" AuditConfig.decoder {} c.audit
  correlation : IsSection members "correlation" CorrelationConfig.decoder {} c.correlation
  secondary : IsSection members "secondary" SecondaryConfig.decoder {} c.secondary
  scheduler : IsSection members "scheduler" SchedulerConfig.decoder {} c.scheduler

theorem decodeText_eq_ok_iff {text : String} {members : List (Key × Node)} {c : ScanConfig}
    (htext : Node.ofText text = (.object members .closed, false))
    (hmembers : ∀ member ∈ members, Skippable member) :
    Decoder.decodeText decoder text = .ok c ↔ c.IsReadFrom members := by
  rw [Decoder.decodeText_of_ofText htext, decoder, Decoder.record_object_eq_ok_iff rfl (by decide) hmembers]
  constructor
  · rintro ⟨⟨_, _, _, _, _, _, _, _⟩, ⟨h₁, h₂, h₃, h₄, h₅, h₆, h₇, -⟩, rfl⟩
    exact ⟨h₁, h₂, h₃, h₄, h₅, h₆, h₇⟩
  · rintro ⟨h₁, h₂, h₃, h₄, h₅, h₆, h₇⟩
    exact ⟨(_, _, _, _, _, _, _, ()), ⟨h₁, h₂, h₃, h₄, h₅, h₆, h₇, trivial⟩, rfl⟩

/-! ## Limits -/

/-- The limits of a configuration under which a scan can succeed. -/
structure Sound (c : ScanConfig) : Prop where
  relaxed : 0 < c.navigation.relaxedTimeoutMs
  strict : c.navigation.relaxedTimeoutMs < c.navigation.strictTimeoutMs
  install : 0 < c.navigation.interceptInstallTimeoutMs
  scroll : 0 < c.stabilizer.scrollStepPx
  step : 0 < c.stabilizer.stepTimeoutMs
  quality : 1 ≤ c.capture.quality ∧ c.capture.quality ≤ 100
  capture : 0 < c.capture.timeoutMs
  audit : 0 < c.audit.timeoutMs
  lookup : 0 < c.correlation.lookupTimeoutMs
  stage : 0 < c.correlation.stageCeilingMs
  secondary : c.secondary.enabled = true → 0 < c.secondary.ceilingMs
  browsers : 0 < c.scheduler.maxConcurrentBrowsers

/-- There is no objection if a check does not object and no later one does. -/
theorem ite_some_eq_none {p : Prop} [Decidable p] {reason : String} {later : Option String} :
    (if p then some reason else later) = none ↔ ¬p ∧ later = none := by
  split_ifs with h <;> simp [h]

theorem objection?_eq_none_iff {c : ScanConfig} : c.objection? = none ↔ c.Sound := by
  simp only [objection?, ite_some_eq_none]
  constructor
  · rintro ⟨hzero, hrelaxed, hscroll, hquality, hstage, hsecondary, hbrowsers, -⟩
    constructor
    case secondary => exact fun h => Nat.pos_of_ne_zero fun hceiling => hsecondary ⟨h, hceiling⟩
    all_goals omega
  · intro h
    have hrelaxed := h.relaxed
    have hstrict := h.strict
    refine ⟨by omega, by omega, h.scroll.ne', ?_, ?_, ?_, h.browsers.ne', trivial⟩
    · have := h.quality
      omega
    · simp [h.audit.ne', h.capture.ne', h.step.ne', h.install.ne', h.lookup.ne', h.stage.ne']
    · exact fun ⟨henabled, hceiling⟩ => (h.secondary henabled).ne' hceiling

theorem validate_eq_ok_iff {c : ScanConfig} : c.validate = .ok () ↔ c.Sound := by
  rw [← objection?_eq_none_iff, validate]
  cases c.objection? <;> simp

/-- The defaults pass the checks. -/
theorem sound_default : Sound {} :=
  objection?_eq_none_iff.1 (by decide)

end ScanConfig

end PageScan

import PageScan.Proofs.Scan.Run

/-!
# The second engine touches its own slice only

Two scans of one page that differ in nothing but the second engine. Whatever the two engines do,
the page is called alike, the scans fail alike, and their reports are told apart by the slice of
the second engine at most.

* `fills_secondaryAudit`: what an engine does to its slice. The slice is completed exactly if the
  engine is wanted and delivers under its ceiling.
* `run_secondaryEngine`: the two runs side by side.
-/

namespace PageScan

/-- The reports are told apart by the slice of the second engine at most. -/
structure ScanReport.Agrees (r r' : ScanReport) : Prop where
  scanId : r.scanId = r'.scanId
  url : r.url = r'.url
  timestamp : r.timestamp = r'.timestamp
  pageWidth : r.pageWidth = r'.pageWidth
  pageHeight : r.pageHeight = r'.pageHeight
  screenshot : r.screenshot = r'.screenshot
  audit : r.audit = r'.audit
  heatmap : r.heatmap = r'.heatmap

/-- Two scans fail alike, or both report and agree. -/
inductive Concordant : Except ScanError ScanReport → Except ScanError ScanReport → Prop
  | failed (err : ScanError) : Concordant (.error err) (.error err)
  | reported {r r' : ScanReport} (h : r.Agrees r') : Concordant (.ok r) (.ok r')

namespace SecondaryResult

/-- There are scores and what the engine wrote, and no error. -/
def IsCompleted (r : SecondaryResult) : Prop :=
  r.scores.isSome ∧ r.raw.isSome ∧ r.error = none

/-- There is an error, and nothing of the engine. -/
def IsBare (r : SecondaryResult) : Prop :=
  r.error.isSome ∧ r.scores = none ∧ r.raw = none

theorem IsBare.degraded (details : String) : (degraded details).IsBare :=
  ⟨rfl, rfl, rfl⟩

theorem IsBare.skipped : skipped.IsBare :=
  ⟨rfl, rfl, rfl⟩

theorem IsBare.not_isCompleted {r : SecondaryResult} (h : r.IsBare) : ¬r.IsCompleted := by
  rintro ⟨hscores, -, -⟩
  simp [h.2.1] at hscores

end SecondaryResult

namespace SecondaryConfig

/-- The engine is wanted, and its answer is this report, under the ceiling. -/
def Delivers (config : SecondaryConfig) (reply : Reply String EngineReport)
    (report : EngineReport) : Prop :=
  config.enabled = true ∧ reply.outcome = some (.ok report) ∧ reply.delayMs ≤ config.ceilingMs

/-- The slice is what such a reply of the engine makes of it. -/
structure Fills (config : SecondaryConfig) (reply : Reply String EngineReport)
    (slice : SecondaryResult) : Prop where
  completed_iff : slice.IsCompleted ↔ ∃ report, config.Delivers reply report
  bare : (¬∃ report, config.Delivers reply report) → slice.IsBare
  delivered : ∀ report, config.Delivers reply report →
    slice.scores = some report.scores ∧ slice.raw = some report.raw

variable {config : SecondaryConfig} {reply : Reply String EngineReport}

theorem Fills.of_delivers {report : EngineReport} (h : config.Delivers reply report) :
    config.Fills reply (.completed report.scores report.raw) where
  completed_iff := ⟨fun _ => ⟨report, h⟩, fun _ => ⟨rfl, rfl, rfl⟩⟩
  bare hnone := absurd ⟨report, h⟩ hnone
  delivered report' h' := by
    obtain ⟨-, heq⟩ := h'
    cases h.2.1.symm.trans heq.1
    exact ⟨rfl, rfl⟩

theorem Fills.of_isBare {slice : SecondaryResult} (hslice : slice.IsBare)
    (h : ¬∃ report, config.Delivers reply report) : config.Fills reply slice where
  completed_iff := ⟨fun hcompleted => absurd hcompleted hslice.not_isCompleted,
    fun hdelivers => absurd hdelivers h⟩
  bare _ := hslice
  delivered report hreport := absurd ⟨report, hreport⟩ h

/-- A ceiling that counts from now on is kept by a delay that is no longer. -/
theorem by?_ceiling (now : Nat) :
    reply.by? now (now + config.ceilingMs) =
      if reply.delayMs ≤ config.ceilingMs then reply.outcome else none := by
  have hiff : (reply.delayMs = 0 ∨ now + reply.delayMs ≤ now + config.ceilingMs) ↔
      reply.delayMs ≤ config.ceilingMs := by omega
  simp only [Reply.by?, hiff]

theorem fills_verdict (now : Nat) (henabled : config.enabled = true) :
    config.Fills reply (config.verdict (reply.by? now (now + config.ceilingMs))) := by
  rw [by?_ceiling]
  by_cases hdelay : reply.delayMs ≤ config.ceilingMs
  · rw [if_pos hdelay]
    rcases houtcome : reply.outcome with _ | reason | report
    · exact .of_isBare (.degraded _) (by simp [Delivers, houtcome])
    · exact .of_isBare (.degraded _) (by simp [Delivers, houtcome])
    · exact .of_delivers ⟨henabled, houtcome, hdelay⟩
  · rw [if_neg hdelay]
    exact .of_isBare (.degraded _) (by simp [Delivers, hdelay])

end SecondaryConfig

namespace Pipeline

open Scan (Yields Quiet)

variable {σ : Type} (p : Pipeline) (page : Page σ) (url : String) (endpoint : BrowserEndpoint)

/-- What the second engine replies in a scan, if it is asked. -/
def engineReply : Reply String EngineReport :=
  p.secondaryEngine (.ofConfig url endpoint p.config.secondary)

theorem fills_scan_secondaryAudit (w : World σ) :
    p.config.secondary.Fills (p.engineReply url endpoint)
      (Scan.secondaryAudit p.secondaryEngine url endpoint p.config.secondary w).1 := by
  by_cases henabled : p.config.secondary.enabled = true
  · obtain ⟨now, hasked⟩ := Scan.await_apply (w.now + p.config.secondary.ceilingMs)
      (p.engineReply url endpoint)
      { w with
        engineCalls := w.engineCalls ++ [.ofConfig url endpoint p.config.secondary] }
    have hresult :
        (Scan.secondaryAudit p.secondaryEngine url endpoint p.config.secondary w).1 =
          p.config.secondary.verdict ((p.engineReply url endpoint).by? w.now
            (w.now + p.config.secondary.ceilingMs)) := by
      simp only [Scan.secondaryAudit, henabled, Bool.not_true, Bool.false_eq_true, if_false]
      exact congrArg (fun answer => p.config.secondary.verdict answer.1) hasked
    rw [hresult]
    exact SecondaryConfig.fills_verdict w.now henabled
  · have hresult : (Scan.secondaryAudit p.secondaryEngine url endpoint p.config.secondary w).1 =
        .skipped := by
      simp only [Scan.secondaryAudit, henabled, Bool.not_false, if_true]
      rfl
    rw [hresult]
    exact .of_isBare SecondaryResult.IsBare.skipped (by simp [SecondaryConfig.Delivers, henabled])

theorem fills_secondaryAudit (w : World σ) :
    p.config.secondary.Fills (p.engineReply url endpoint) (p.secondaryAudit url endpoint w).1 := by
  have hresult : (p.secondaryAudit url endpoint w).1 =
      (Scan.secondaryAudit p.secondaryEngine url endpoint p.config.secondary w).1 := by
    rw [secondaryAudit, Scan.bind_apply]
    split
    · rfl
    · rfl
  rw [hresult]
  exact fills_scan_secondaryAudit p url endpoint w

/-! ## Two engines side by side -/

/-- The pipeline with another second engine. -/
def withEngine (engine : SecondaryEngine) : Pipeline :=
  { p with secondaryEngine := engine }

@[simp] theorem install_withEngine (engine : SecondaryEngine) :
    (p.withEngine engine).install page url = p.install page url := by
  unfold install withEngine
  apply bind_congr
  rintro (_ | _)
  · rfl
  · rfl

@[simp] theorem inspect_withEngine (engine : SecondaryEngine) :
    (p.withEngine engine).inspect page url = p.inspect page url := by
  unfold inspect
  rw [install_withEngine]
  rfl

@[simp] theorem correlate_withEngine (engine : SecondaryEngine) (audit : AuditResult) :
    (p.withEngine engine).correlate page audit = p.correlate page audit :=
  rfl

/-- Two results of the stages that differ in what the second engine adds at most. -/
inductive Alike : Except ScanError Findings → Except ScanError Findings → Prop
  | failed (err : ScanError) : Alike (.error err) (.error err)
  | found (f : Findings) (secondary : SecondaryResult) :
    Alike (.ok f) (.ok { f with secondary })

theorem Alike.concordant {r r' : Except ScanError Findings} (h : Alike r r')
    (identity : ScanIdentity) (request : ScanRequest) :
    Concordant (r.map (·.report identity request)) (r'.map (·.report identity request)) := by
  cases h with
  | failed err => exact .failed err
  | found f secondary => exact .reported ⟨rfl, rfl, rfl, rfl, rfl, rfl, rfl, rfl⟩

theorem stages_of_error {err : ScanError} {w w₁ : World σ}
    (h : p.inspect page url w = (.error err, w₁)) :
    p.stages page endpoint url w = (.error err, w₁) := by
  rw [stages, Scan.bind_apply, h]
  rfl

/-- After the stages that can end a scan the elements are looked up, and then the second engine is
asked. -/
theorem stages_of_ok {capture : PageCapture} {audit : AuditResult} {w w₁ : World σ}
    (h : p.inspect page url w = (.ok (capture, audit), w₁)) :
    p.stages page endpoint url w =
      (.ok ⟨capture, audit, (p.correlate page audit w₁).1,
          (p.secondaryAudit url endpoint (p.correlate page audit w₁).2).1⟩,
        (p.secondaryAudit url endpoint (p.correlate page audit w₁).2).2) := by
  rw [stages, Scan.bind_apply, h]
  rfl

/-- Up to the second engine the stages are the same, and no call to the page comes behind it. -/
theorem stages_alike (engine engine' : SecondaryEngine) (w : World σ) :
    ∃ r r' w₁ w₁', (p.withEngine engine).stages page endpoint url w = (r, w₁) ∧
      (p.withEngine engine').stages page endpoint url w = (r', w₁') ∧
      w₁.calls = w₁'.calls ∧ w₁.page = w₁'.page ∧ Alike r r' := by
  obtain ⟨es, r, w₁, h, -⟩ := yields_inspect p page url w
  have hinspect (e : SecondaryEngine) : (p.withEngine e).inspect page url w = (r, w₁) := by
    rw [inspect_withEngine, h.run]
  rcases r with err | ⟨capture, audit⟩
  · exact ⟨_, _, w₁, w₁, stages_of_error _ page url endpoint (hinspect engine),
      stages_of_error _ page url endpoint (hinspect engine'), rfl, rfl, .failed err⟩
  · have hstages (e : SecondaryEngine) := stages_of_ok _ page url endpoint (hinspect e)
    simp only [correlate_withEngine] at hstages
    set w₂ := (p.correlate page audit w₁).2
    obtain ⟨slice, w₃, hasked, hpage, hcalls, -⟩ :=
      secondaryAudit_keeps (p.withEngine engine) page url endpoint w₂
    obtain ⟨slice', w₃', hasked', hpage', hcalls', -⟩ :=
      secondaryAudit_keeps (p.withEngine engine') page url endpoint w₂
    refine ⟨_, _, w₃, w₃', ?_, ?_, hcalls.trans hcalls'.symm, hpage.trans hpage'.symm,
      .found ⟨capture, audit, (p.correlate page audit w₁).1, slice⟩ slice'⟩
    · rw [hstages engine, hasked]
    · rw [hstages engine', hasked']

/-- The slice of the second engine in what the stages find. -/
theorem fills_of_stages {f : Findings} {w w₁ : World σ}
    (h : p.stages page endpoint url w = (.ok f, w₁)) :
    p.config.secondary.Fills (p.engineReply url endpoint) f.secondary := by
  obtain ⟨es, r, w₂, hinspect, -⟩ := yields_inspect p page url w
  rcases r with err | ⟨capture, audit⟩
  · rw [stages_of_error p page url endpoint hinspect.run] at h
    cases h
  · rw [stages_of_ok p page url endpoint hinspect.run] at h
    cases h
    exact fills_secondaryAudit p url endpoint _

/-- A run is its stages between two announcements, which leave the page and the second engine
alone. -/
theorem run_of_stages (identity : ScanIdentity) (request : ScanRequest) (s : σ) :
    ∃ w : World σ, w.engineCalls = [] ∧ ∀ (q : Pipeline) r w₁,
      q.stages page endpoint request.url w = (r, w₁) →
      ∃ w₂, q.run identity page endpoint request (World.start s) =
          (r.map (·.report identity request), w₂) ∧
        w₂.page = w₁.page ∧ w₂.calls = w₁.calls ∧ w₂.engineCalls = w₁.engineCalls := by
  obtain ⟨w₁, counted⟩ := Quiet.notice page (.counter .started) (World.start s)
  obtain ⟨w, told⟩ := Quiet.notice page (.event (.started request.url)) w₁
  have started := counted.heard.trans told.heard
  refine ⟨w, started.engineCalls, fun q r w₂ hstages => ?_⟩
  obtain ⟨w₃, concluded⟩ := quiet_conclude page identity request r w₂
  refine ⟨w₃, ?_, concluded.heard.page_eq, concluded.heard.calls_eq, concluded.heard.engineCalls⟩
  calc
    q.run identity page endpoint request (World.start s)
      = (q.stages page endpoint request.url >>= conclude identity request) w := by
        rw [run, Scan.count, Scan.bind_apply, counted.run]
        show (Scan.tell (.started request.url) >>= _) w₁ = _
        rw [Scan.tell, Scan.bind_apply, told.run]
    _ = conclude identity request r w₂ := by rw [Scan.bind_apply, hstages]
    _ = (r.map (·.report identity request), w₃) := concluded.run

/-- Two second engines on one page: the page is called alike, the scans fail alike, and reports
agree but for the slice of the second engine. That slice is what the reply of the engine makes of
it, and an engine that is not wanted is not asked. -/
theorem run_secondaryEngine (engine engine' : SecondaryEngine) (identity : ScanIdentity)
    (request : ScanRequest) (s : σ) :
    ∃ r r' w w',
      (p.withEngine engine).run identity page endpoint request (World.start s) = (r, w) ∧
      (p.withEngine engine').run identity page endpoint request (World.start s) = (r', w') ∧
      w.calls = w'.calls ∧ w.page = w'.page ∧ Concordant r r' ∧
      (∀ report, r = .ok report → p.config.secondary.Fills
        (engine (.ofConfig request.url endpoint p.config.secondary)) report.secondaryAudit) ∧
      (p.config.secondary.enabled = false → w.engineCalls = []) := by
  obtain ⟨w, hengine, hrun⟩ := run_of_stages page endpoint identity request s
  obtain ⟨r, r', w₁, w₁', hstages, hstages', hcalls, hpage, halike⟩ :=
    stages_alike p page request.url endpoint engine engine' w
  obtain ⟨w₂, hran, hpage₂, hcalls₂, hengine₂⟩ := hrun _ _ _ hstages
  obtain ⟨w₂', hran', hpage₂', hcalls₂', -⟩ := hrun _ _ _ hstages'
  refine ⟨_, _, w₂, w₂', hran, hran', ?_, ?_, halike.concordant identity request, ?_, ?_⟩
  · rw [hcalls₂, hcalls₂', hcalls]
  · rw [hpage₂, hpage₂', hpage]
  · rintro report hreport
    rcases r with err | f
    · cases hreport
    · cases hreport
      exact fills_of_stages (p.withEngine engine) page request.url endpoint hstages
  · intro hdisabled
    obtain ⟨_, _, _, hstages₃, -, -, -, hasked⟩ :=
      stages_itinerary (p.withEngine engine) page request.url endpoint w
    cases hstages.symm.trans hstages₃
    rw [hengine₂, hasked, hengine]
    rcases r with err | f
    · rfl
    · exact if_neg (by simp [withEngine, hdisabled])

end Pipeline

end PageScan

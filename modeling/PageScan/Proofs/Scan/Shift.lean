import PageScan.Proofs.Heatmap.Correlation
import PageScan.Proofs.Scan.Transcript
import PageScan.Scan.Pipeline

/-!
# Scans that begin later

All limits of a scan count from its own clock. A scan that begins later does the same things later,
and finds the same.

* `World.later`: the same happened later.
* `Later`: a computation does later what another one does, and their results are related.
* `later_run`: a run that begins later comes to the same, but for its identifier and its timestamp.
-/

namespace PageScan

variable {σ α β γ δ : Type}

/-- The same happened so much later. -/
def World.later (d : Nat) (w : World σ) : World σ where
  now := w.now + d
  page := w.page
  calls := w.calls.map fun (time, call) => (time + d, call)
  engineCalls := w.engineCalls
  notices := w.notices.map fun (time, n) => (time + d, n)

/-- The same capture, taken so much later. -/
def PageCapture.later (d : Nat) (c : PageCapture) : PageCapture :=
  { c with takenAt := c.takenAt + d }

namespace Scan

variable {d : Nat}

/-- The second computation does so much later what the first one does, and their results are
related. -/
def Later (d : Nat) (R : α → β → Prop) (m : Scan σ α) (m' : Scan σ β) : Prop :=
  ∀ w, R (m w).1 (m' (w.later d)).1 ∧ (m' (w.later d)).2 = (m w).2.later d

namespace Later

theorem pure {R : α → β → Prop} {a : α} {b : β} (h : R a b) :
    Later d R (Pure.pure a : Scan σ α) (Pure.pure b) :=
  fun _ => ⟨h, rfl⟩

theorem bind {R : α → β → Prop} {S : γ → δ → Prop} {m : Scan σ α} {m' : Scan σ β}
    {f : α → Scan σ γ} {f' : β → Scan σ δ} (h : Later d R m m')
    (h' : ∀ a b, R a b → Later d S (f a) (f' b)) : Later d S (m >>= f) (m' >>= f') := by
  intro w
  obtain ⟨hresult, hworld⟩ := h w
  obtain ⟨hresult', hworld'⟩ := h' _ _ hresult (m w).2
  rw [bind_apply, bind_apply, hworld]
  exact ⟨hresult', hworld'⟩

/-- The first computations have the same result. -/
theorem bind_same {S : γ → δ → Prop} {m m' : Scan σ α} {f : α → Scan σ γ} {f' : α → Scan σ δ}
    (h : Later d Eq m m') (h' : ∀ a, Later d S (f a) (f' a)) :
    Later d S (m >>= f) (m' >>= f') :=
  h.bind fun a _ hab => hab ▸ h' a

theorem mapM {f f' : α → Scan σ β} (h : ∀ a, Later d Eq (f a) (f' a)) (as : List α) :
    Later d Eq (as.mapM f) (as.mapM f') := by
  induction as with
  | nil => exact .pure rfl
  | cons a as ih =>
    rw [List.mapM_cons, List.mapM_cons]
    exact (h a).bind_same fun _ => ih.bind_same fun _ => .pure rfl

theorem now : Later d (fun time time' => time' = time + d) (now : Scan σ Nat) now :=
  fun _ => ⟨rfl, rfl⟩

theorem sleep (ms : Nat) : Later d Eq (sleep ms : Scan σ Unit) (sleep ms) := by
  refine fun w => ⟨rfl, ?_⟩
  simp only [Scan.sleep, World.later, Nat.add_right_comm]

theorem notice (n : Notice) : Later d Eq (notice n : Scan σ Unit) (notice n) := by
  refine fun w => ⟨rfl, ?_⟩
  simp [Scan.notice, World.later]

/-- The same is made known first. -/
theorem noticed {R : α → β → Prop} (n : Notice) {m : Scan σ α} {m' : Scan σ β}
    (h : Later d R m m') :
    Later d R (Scan.notice n >>= fun _ => m) (Scan.notice n >>= fun _ => m') :=
  (notice n).bind_same fun _ => h

theorem await {ε : Type} (deadline : Nat) (reply : Reply ε α) :
    Later d Eq (await deadline reply : Scan σ _) (await (deadline + d) reply) := by
  intro w
  obtain ⟨delay, outcome⟩ := reply
  have hmax : max (w.now + d) (deadline + d) = max w.now deadline + d := by omega
  rcases outcome with _ | outcome
  · simp [Scan.await, World.later, hmax]
  · have hiff : (delay = 0 ∨ w.now + d + delay ≤ deadline + d) ↔
        (delay = 0 ∨ w.now + delay ≤ deadline) := by omega
    by_cases h : delay = 0 ∨ w.now + delay ≤ deadline
    · simp [Scan.await, arrival?, World.later, hiff, h, Nat.add_right_comm]
    · simp [Scan.await, arrival?, World.later, hiff, h, hmax]

theorem askBy (page : Page σ) (deadline : Nat) (call : PageCall) :
    Later d Eq (askBy page deadline call) (askBy page (deadline + d) call) := by
  intro w
  have h := Later.await (d := d) deadline (page.answer call w.page).1
    { w with page := (page.answer call w.page).2, calls := w.calls ++ [(w.now, call)] }
  simp only [World.later, List.map_append, List.map_cons, List.map_nil] at h
  exact h

theorem ask (page : Page σ) (limitMs : Nat) (operation : String) (call : PageCall) :
    Later d Eq (ask page limitMs operation call) (ask page limitMs operation call) := by
  refine now.bind fun start start' hstart => ?_
  have hdeadline : start' + limitMs = start + limitMs + d := by omega
  rw [hdeadline]
  refine (askBy page _ call).bind_same ?_
  rintro (_ | outcome)
  · exact .pure rfl
  · exact .pure rfl

theorem askEngine (engine : SecondaryEngine) (limitMs : Nat) (request : SecondaryRequest) :
    Later d Eq (askEngine engine limitMs request : Scan σ _)
      (askEngine engine limitMs request) := by
  intro w
  have h := Later.await (d := d) (w.now + limitMs) (engine request)
    { w with engineCalls := w.engineCalls ++ [request] }
  rw [Nat.add_right_comm] at h
  exact h

end Later

variable (page : Page σ)

theorem later_navigate (url : String) (config : NavigationConfig) :
    Later d Eq (navigate page url config) (navigate page url config) := by
  refine (Later.ask page _ _ _).bind_same ?_
  rintro (strict | outcome)
  · refine (Later.ask page _ _ _).bind_same ?_
    rintro (relaxed | outcome)
    · exact .pure rfl
    · exact .pure rfl
  · exact .pure rfl

theorem later_sweep (config : StabilizerConfig) (stepsLeft : Nat) (report : StabilizationReport) :
    Later d Eq (sweep page config stepsLeft report) (sweep page config stepsLeft report) := by
  induction stepsLeft generalizing report with
  | zero => exact .pure rfl
  | succ stepsLeft ih =>
    refine (Later.sleep _).bind_same fun _ => (Later.ask page _ _ _).bind_same ?_
    rintro (failure | answer)
    · exact .pure rfl
    dsimp only
    split
    · exact .pure rfl
    · exact ih _

theorem later_stabilize (config : StabilizerConfig) :
    Later d Eq (stabilize page config) (stabilize page config) := by
  refine ((Later.ask page _ _ _).bind_same ?_).bind_same fun _ => (Later.sleep _).bind_same fun _ =>
    (later_sweep page _ _ _).bind_same fun _ => (Later.ask page _ _ _).bind_same fun _ =>
      (Later.sleep _).bind_same fun _ => .pure rfl
  rintro (failure | answer)
  · exact .pure rfl
  · exact .pure rfl

theorem later_capture (config : CaptureConfig) (url : String) :
    Later d (fun r r' => r' = r.map (·.later d)) (capture page config url)
      (capture page config url) := by
  refine (Later.ask page _ _ _).bind_same ?_
  rintro (failure | answer)
  · exact .pure rfl
  dsimp only
  split
  · exact .pure rfl
  refine (Later.ask page _ _ _).bind_same ?_
  rintro (failure | bytes)
  · exact .pure rfl
  dsimp only
  split
  · exact .pure rfl
  · exact Later.now.bind fun time time' htime => .pure (htime ▸ rfl)

theorem later_runBy (deadline : Nat) :
    Later d Eq (runBy page deadline) (runBy page (deadline + d)) := by
  refine (Later.askBy page _ _).bind_same ?_
  rintro (_ | styled)
  · exact .pure rfl
  refine (Later.askBy page _ _).bind_same ?_
  rintro (_ | failure | payload)
  · exact .pure rfl
  · exact .pure rfl
  · exact .pure rfl

theorem later_auditBy (engine : RuleEngine) (deadline : Nat) :
    Later d Eq (auditBy page engine deadline) (auditBy page engine (deadline + d)) := by
  refine (Later.askBy page _ _).bind_same ?_
  rintro (_ | failure | ⟨⟩)
  · exact .pure rfl
  · exact .pure rfl
  refine (Later.askBy page _ _).bind_same ?_
  rintro (_ | failure | answer)
  · exact .pure rfl
  · exact .pure rfl
  dsimp only
  split
  · exact later_runBy page deadline
  · exact .pure rfl

theorem later_audit (engine : RuleEngine) (config : AuditConfig) (url : String) :
    Later d Eq (audit page engine config url) (audit page engine config url) := by
  refine Later.now.bind fun start start' hstart => ?_
  have hdeadline : start' + config.timeoutMs = start + config.timeoutMs + d := by omega
  dsimp only
  rw [hdeadline]
  refine (later_auditBy page engine _).bind_same ?_
  rintro (_ | outcome)
  · exact .pure rfl
  · exact .pure rfl

theorem later_lookUp (lookupTimeoutMs ceiling : Nat) (selector : String) :
    Later d Eq (lookUp page lookupTimeoutMs ceiling selector)
      (lookUp page lookupTimeoutMs (ceiling + d) selector) := by
  refine Later.now.bind fun start start' hstart => ?_
  have hleft : ceiling + d - start' = ceiling - start := by omega
  dsimp only
  rw [hleft]
  split
  · exact .pure rfl
  · exact (Later.ask page _ _ _).bind_same fun _ => .pure rfl

theorem later_correlate (config : CorrelationConfig) (audit : AuditResult) :
    Later d Eq (correlate page config audit) (correlate page config audit) := by
  refine Later.now.bind fun start start' hstart => ?_
  have hceiling : start' + config.stageCeilingMs = start + config.stageCeilingMs + d := by omega
  rw [correlateFrom, correlateFrom, hceiling, Correlation.ofAudit_eq, Correlation.ofAudit_eq,
    map_eq_pure_bind, map_eq_pure_bind]
  refine (Later.mapM (fun l => ?_) audit.lookups).bind_same fun _ => .pure rfl
  rw [Correlation.pointAt, Correlation.pointAt, map_eq_pure_bind, map_eq_pure_bind]
  exact (later_lookUp page _ _ _).bind_same fun _ => .pure rfl

theorem later_secondaryAudit (engine : SecondaryEngine) (url : String)
    (endpoint : BrowserEndpoint) (config : SecondaryConfig) :
    Later d Eq (secondaryAudit engine url endpoint config : Scan σ _)
      (secondaryAudit engine url endpoint config) := by
  rw [secondaryAudit]
  split
  · exact .pure rfl
  · exact (Later.askEngine _ _ _).bind_same fun _ => .pure rfl

end Scan

/-! ## The whole scan -/

/-- The same report, but for the identifier and the time. -/
def ScanReport.Matches (r r' : ScanReport) : Prop :=
  r' = { r with scanId := r'.scanId, timestamp := r'.timestamp }

/-- Two scans fail alike, or report the same but for identifier and time. -/
inductive SameScan : Except ScanError ScanReport → Except ScanError ScanReport → Prop
  | failed (err : ScanError) : SameScan (.error err) (.error err)
  | reported {r r' : ScanReport} (h : r.Matches r') : SameScan (.ok r) (.ok r')

namespace SameScan

variable {r r' r'' : Except ScanError ScanReport}

theorem symm (h : SameScan r r') : SameScan r' r := by
  rcases h with err | h
  · exact .failed err
  · refine .reported ?_
    rw [ScanReport.Matches] at *
    rw [h]

theorem trans (h : SameScan r r') (h' : SameScan r' r'') : SameScan r r'' := by
  rcases h with err | h
  · exact h'
  · rcases h' with _ | h'
    refine .reported ?_
    rw [ScanReport.Matches] at *
    rw [h', h]

end SameScan

/-- The same findings, captured so much later. -/
def Findings.later (d : Nat) (f : Findings) : Findings :=
  { f with capture := f.capture.later d }

namespace Pipeline

open Scan (Later)

variable (p : Pipeline) (page : Page σ) {d : Nat}

theorem later_install (url : String) :
    Later d Eq (p.install page url) (p.install page url) := by
  refine (Later.ask page _ _ _).bind_same ?_
  rintro (failure | ⟨⟩)
  · exact .pure rfl
  · exact .pure rfl

theorem later_navigate (url : String) :
    Later d Eq (p.navigate page url) (p.navigate page url) := by
  refine (Scan.later_navigate page url _).bind_same ?_
  rintro (failure | report)
  · exact .pure rfl
  dsimp only
  split
  · exact .noticed _ (.noticed _ (.noticed _ (.pure rfl)))
  · exact .noticed _ (.pure rfl)

theorem later_correlate (audit : AuditResult) :
    Later d Eq (p.correlate page audit) (p.correlate page audit) := by
  refine (Scan.later_correlate page _ audit).bind_same fun correlation => ?_
  dsimp only
  split
  · exact .noticed _ (.noticed _ (.noticed _ (.pure rfl)))
  · exact .noticed _ (.noticed _ (.pure rfl))

theorem later_secondaryAudit (url : String) (endpoint : BrowserEndpoint) :
    Later d Eq (p.secondaryAudit url endpoint : Scan σ _) (p.secondaryAudit url endpoint) := by
  refine (Scan.later_secondaryAudit _ url endpoint _).bind_same fun result => ?_
  dsimp only
  split
  · exact .noticed _ (.noticed _ (.noticed _ (.pure rfl)))
  · exact .noticed _ (.pure rfl)

theorem later_inspect (url : String) :
    Later d (fun r r' => r' = r.map fun (capture, audit) => (capture.later d, audit))
      (p.inspect page url) (p.inspect page url) := by
  refine (later_install p page url).bind_same ?_
  rintro (failure | ⟨⟩)
  · exact .pure rfl
  refine (later_navigate p page url).bind_same ?_
  rintro (failure | report)
  · exact .pure rfl
  refine (Scan.later_stabilize page _).bind_same fun _ =>
    .noticed _ ((Scan.later_capture page _ url).bind ?_)
  rintro (failure | capture) _ rfl
  · exact .pure rfl
  refine .noticed _ ((Scan.later_audit page _ _ url).bind_same ?_)
  rintro (failure | audit)
  · exact .pure rfl
  · exact .noticed _ (.pure rfl)

theorem later_stages (endpoint : BrowserEndpoint) (url : String) :
    Later d (fun r r' => r' = r.map (·.later d)) (p.stages page endpoint url)
      (p.stages page endpoint url) := by
  refine (later_inspect p page url).bind ?_
  rintro (failure | ⟨capture, audit⟩) _ rfl
  · exact .pure rfl
  · exact (later_correlate p page audit).bind_same fun correlation =>
      (later_secondaryAudit p url endpoint).bind_same fun secondary => .pure rfl

/-- A run that begins later does the same things later. It fails alike, or reports the same but for
its identifier and its time. -/
theorem later_run (identity identity' : ScanIdentity) (endpoint : BrowserEndpoint)
    (request : ScanRequest) :
    Later d SameScan (p.run identity page endpoint request)
      (p.run identity' page endpoint request) := by
  refine .noticed _ (.noticed _ ((later_stages p page endpoint request.url).bind ?_))
  rintro (failure | findings) _ rfl
  · exact .noticed _ (.noticed _ (.pure (.failed failure)))
  · exact .noticed _ (.noticed _ (.pure (.reported rfl)))

end Pipeline

end PageScan

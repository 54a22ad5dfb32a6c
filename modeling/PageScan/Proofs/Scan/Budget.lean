import Mathlib.Tactic.Set
import PageScan.Proofs.Heatmap.Correlation
import PageScan.Proofs.Scan.Transcript
import PageScan.Scan.Pipeline

/-!
# How long a scan takes

A scan waits for its page, for the second engine, and for the page to come to rest. Each of these
waits has a limit, so that a scan is over after a time that its configuration tells beforehand,
whatever the page and the engine do, and if they never answer.

* `Timed`: from one world to the next no more time passes than there is until a moment, by which
  all calls have their deadline.
* `Before`, `Takes`: the same of a computation, for a moment of the clock and for a length of time.
* `run_within`: a run takes no longer than its budget, `ScanConfig.budgetMs`.
-/

namespace PageScan

/-- The time in milliseconds by which a page is at rest. -/
def StabilizerConfig.budgetMs (c : StabilizerConfig) : Nat :=
  c.fontCeilingMs + c.settleMs + c.maxScrollSteps * (c.scrollIntervalMs + c.stepTimeoutMs) +
    c.stepTimeoutMs + c.postSweepSettleMs

/-- The time in milliseconds by which a scan is over. -/
def ScanConfig.budgetMs (c : ScanConfig) : Nat :=
  c.navigation.interceptInstallTimeoutMs + c.navigation.strictTimeoutMs +
    c.navigation.relaxedTimeoutMs + c.stabilizer.budgetMs + 2 * c.capture.timeoutMs +
    c.audit.timeoutMs + c.correlation.stageCeilingMs +
    if c.secondary.enabled then c.secondary.ceilingMs else 0

/-- The deadline of an exchange lies between the call and this moment. An exchange that came to
nothing was waited for until its deadline. -/
structure Exchange.IsLimited (e : Exchange) (limit now : Nat) : Prop where
  asked : e.askedAt ≤ e.deadline
  deadline_le : e.deadline ≤ limit
  awaited : e.outcome = none → e.deadline ≤ now

theorem Exchange.IsLimited.mono {e : Exchange} {limit limit' now now' : Nat}
    (h : e.IsLimited limit now) (hlimit : limit ≤ limit') (hnow : now ≤ now') :
    e.IsLimited limit' now' :=
  ⟨h.asked, Nat.le_trans h.deadline_le hlimit, fun hnone => Nat.le_trans (h.awaited hnone) hnow⟩

variable {σ α β : Type} {page : Page σ}

/-- From one world to the next the page had these exchanges and no others, the clock did not go
back, and it did not go past this moment, by which all the exchanges have their deadline. -/
structure Timed (page : Page σ) (w : World σ) (es : List Exchange) (limit : Nat) (w' : World σ) :
    Prop where
  conversation : Conversation page w.page es w'.page
  calls : w'.calls = w.calls ++ es.map Exchange.entry
  limited : ∀ e ∈ es, e.IsLimited limit w'.now
  now_le : w.now ≤ w'.now
  le_limit : w'.now ≤ limit

namespace Timed

variable {w w' w'' : World σ} {es es' : List Exchange} {limit limit' : Nat}

/-- Time passes without the page. -/
theorem quiet (hnow : w.now ≤ w'.now) (hlimit : w'.now ≤ limit) (hpage : w'.page = w.page)
    (hcalls : w'.calls = w.calls) : Timed page w [] limit w' where
  conversation := hpage ▸ .nil _
  calls := by simp [hcalls]
  limited := by simp
  now_le := hnow
  le_limit := hlimit

theorem trans (h : Timed page w es limit w') (h' : Timed page w' es' limit' w'')
    (hlimit : limit ≤ limit') : Timed page w (es ++ es') limit' w'' where
  conversation := h.conversation.append h'.conversation
  calls := by rw [h'.calls, h.calls, List.map_append, List.append_assoc]
  limited e he := by
    rcases List.mem_append.1 he with he | he
    · exact (h.limited e he).mono hlimit h'.now_le
    · exact h'.limited e he
  now_le := Nat.le_trans h.now_le h'.now_le
  le_limit := h'.le_limit

theorem mono (h : Timed page w es limit w') (hlimit : limit ≤ limit') :
    Timed page w es limit' w' where
  conversation := h.conversation
  calls := h.calls
  limited e he := (h.limited e he).mono hlimit (Nat.le_refl _)
  now_le := h.now_le
  le_limit := Nat.le_trans h.le_limit hlimit

end Timed

namespace Scan

/-- In this world the computation is over by this moment. -/
def EndsBy (page : Page σ) (m : Scan σ α) (w : World σ) (limit : Nat) : Prop :=
  ∃ es, Timed page w es limit (m w).2

theorem EndsBy.bind {m : Scan σ α} {f : α → Scan σ β} {w : World σ} {limit limit' : Nat}
    (h : EndsBy page m w limit) (hlimit : limit ≤ limit')
    (h' : ∀ a w', w'.now ≤ limit → EndsBy page (f a) w' limit') :
    EndsBy page (m >>= f) w limit' := by
  obtain ⟨es, h⟩ := h
  obtain ⟨es', h'⟩ := h' (m w).1 (m w).2 h.le_limit
  exact ⟨es ++ es', h.trans h' hlimit⟩

/-- A wait is over at its deadline, or when the answer is there. -/
theorem await_within {ε : Type} (deadline : Nat) (reply : Reply ε α) (w : World σ)
    (hw : w.now ≤ deadline) :
    ∃ now, await deadline reply w = (reply.by? w.now deadline, { w with now }) ∧ w.now ≤ now ∧
      now ≤ deadline ∧ (reply.by? w.now deadline = none → deadline ≤ now) := by
  obtain ⟨delay, outcome⟩ := reply
  rcases outcome with _ | outcome
  · exact ⟨max w.now deadline, by simp [await, Reply.by?], by omega, by omega, by omega⟩
  · by_cases h : delay = 0 ∨ w.now + delay ≤ deadline
    · refine ⟨w.now + delay, by simp [await, arrival?, Reply.by?, h], by omega, by omega, ?_⟩
      simp [Reply.by?, h]
    · exact ⟨max w.now deadline, by simp [await, arrival?, Reply.by?, h], by omega, by omega,
        by omega⟩

/-! ## Until a moment -/

/-- Begun before this moment the computation is over by then. -/
def Before (page : Page σ) (m : Scan σ α) (limit : Nat) : Prop :=
  ∀ w, w.now ≤ limit → EndsBy page m w limit

namespace Before

variable {limit : Nat}

theorem pure (a : α) : Before page (Pure.pure a : Scan σ α) limit :=
  fun _ hw => ⟨[], .quiet (Nat.le_refl _) hw rfl rfl⟩

theorem bind {m : Scan σ α} {f : α → Scan σ β} (h : Before page m limit)
    (h' : ∀ a, Before page (f a) limit) : Before page (m >>= f) limit :=
  fun w hw => (h w hw).bind (Nat.le_refl _) fun a w' => h' a w'

theorem mapM {f : α → Scan σ β} (h : ∀ a, Before page (f a) limit) (as : List α) :
    Before page (as.mapM f) limit := by
  induction as with
  | nil => exact .pure _
  | cons a as ih =>
    rw [List.mapM_cons]
    exact (h a).bind fun _ => ih.bind fun _ => .pure _

end Before

theorem before_askBy (deadline : Nat) (call : PageCall) :
    Before page (askBy page deadline call) deadline := by
  intro w hw
  obtain ⟨now, hrun, hnow, hdeadline, hnone⟩ := await_within deadline (page.answer call w.page).1
    { w with page := (page.answer call w.page).2, calls := w.calls ++ [(w.now, call)] } hw
  have hasked : askBy page deadline call w = _ := hrun
  rw [EndsBy, hasked]
  exact ⟨[⟨w.now, deadline, call, _⟩], .cons rfl (.nil _), rfl,
    List.forall_mem_singleton.2 ⟨hw, Nat.le_refl _, hnone⟩, hnow, hdeadline⟩

/-! ## For a time -/

/-- The computation takes no more than this many milliseconds, whenever it is begun. -/
def Takes (page : Page σ) (m : Scan σ α) (ms : Nat) : Prop :=
  ∀ w, EndsBy page m w (w.now + ms)

namespace Takes

variable {m : Scan σ α} {f : α → Scan σ β} {t u : Nat}

theorem pure (a : α) : Takes page (Pure.pure a : Scan σ α) t :=
  fun w => ⟨[], .quiet (Nat.le_refl _) (Nat.le_add_right w.now t) rfl rfl⟩

theorem mono (h : Takes page m t) (hle : t ≤ u) : Takes page m u := fun w => by
  obtain ⟨es, h⟩ := h w
  exact ⟨es, h.mono (Nat.add_le_add_left hle w.now)⟩

theorem bind (h : Takes page m t) (h' : ∀ a, Takes page (f a) u) :
    Takes page (m >>= f) (t + u) := by
  refine fun w => (h w).bind (by omega) fun a w' hw' => ?_
  obtain ⟨es, h'⟩ := h' a w'
  exact ⟨es, h'.mono (by omega)⟩

/-- What follows takes no time. -/
theorem bind_instant (h : Takes page m t) (h' : ∀ a, Takes page (f a) 0) :
    Takes page (m >>= f) t :=
  h.bind h'

theorem notice (n : Notice) : Takes page (notice n) 0 :=
  fun _ => ⟨[], .quiet (Nat.le_refl _) (Nat.le_refl _) rfl rfl⟩

/-- What is made known takes no time. -/
theorem noticed (n : Notice) (h : Takes page m t) :
    Takes page (Scan.notice n >>= fun _ => m) t :=
  ((notice n).bind fun _ => h).mono (by omega)

theorem sleep (ms : Nat) : Takes page (sleep ms) ms :=
  fun w => ⟨[], .quiet (Nat.le_add_right w.now ms) (Nat.le_refl _) rfl rfl⟩

/-- A deadline is set that lies this far ahead. -/
theorem of_before {f : Nat → Scan σ α} (h : ∀ start, Before page (f start) (start + t)) :
    Takes page (now >>= f) t :=
  fun w => h w.now w (Nat.le_add_right w.now t)

theorem ask (limitMs : Nat) (operation : String) (call : PageCall) :
    Takes page (ask page limitMs operation call) limitMs := by
  refine .of_before fun start => (before_askBy _ call).bind ?_
  rintro (_ | outcome)
  · exact .pure _
  · exact .pure _

theorem askEngine (engine : SecondaryEngine) (limitMs : Nat) (request : SecondaryRequest) :
    Takes page (askEngine engine limitMs request) limitMs := by
  intro w
  obtain ⟨now, hrun, hnow, hlimit, -⟩ := await_within (w.now + limitMs) (engine request)
    { w with engineCalls := w.engineCalls ++ [request] } (Nat.le_add_right w.now limitMs)
  have hasked : Scan.askEngine engine limitMs request w = _ := hrun
  rw [EndsBy, hasked]
  exact ⟨[], .quiet hnow hlimit rfl rfl⟩

end Takes

/-! ## The stages -/

theorem takes_navigate (url : String) (config : NavigationConfig) :
    Takes page (navigate page url config) (config.strictTimeoutMs + config.relaxedTimeoutMs) := by
  refine (Takes.ask _ _ _).bind ?_
  rintro (strict | outcome)
  · refine (Takes.ask _ _ _).bind_instant ?_
    rintro (relaxed | outcome)
    · exact .pure _
    · exact .pure _
  · exact .pure _

theorem takes_sweep (config : StabilizerConfig) (stepsLeft : Nat) (report : StabilizationReport) :
    Takes page (sweep page config stepsLeft report)
      (stepsLeft * (config.scrollIntervalMs + config.stepTimeoutMs)) := by
  induction stepsLeft generalizing report with
  | zero => exact .pure _
  | succ stepsLeft ih =>
    have htime : (stepsLeft + 1) * (config.scrollIntervalMs + config.stepTimeoutMs) =
        config.scrollIntervalMs + (config.stepTimeoutMs +
          stepsLeft * (config.scrollIntervalMs + config.stepTimeoutMs)) := by
      rw [Nat.succ_mul]
      omega
    rw [htime]
    refine (Takes.sleep _).bind fun _ => (Takes.ask _ _ _).bind ?_
    rintro (failure | answer)
    · exact .pure _
    · -- whatever height the page tells, a step less is left
      dsimp only
      split
      · exact .pure _
      · exact ih _

theorem takes_awaitFonts (ceilingMs : Nat) :
    Takes page (awaitFonts page ceilingMs) ceilingMs := by
  refine (Takes.ask ceilingMs _ _).bind_instant ?_
  rintro (failure | answer)
  · exact .pure _
  · exact .pure _

theorem takes_stabilize (config : StabilizerConfig) :
    Takes page (stabilize page config) config.budgetMs := by
  refine Takes.mono ((takes_awaitFonts _).bind fun _ => (Takes.sleep _).bind fun _ =>
    (takes_sweep _ _ _).bind fun _ => (Takes.ask _ _ _).bind fun _ =>
      (Takes.sleep _).bind_instant fun _ => .pure _) ?_
  rw [StabilizerConfig.budgetMs]
  omega

theorem takes_capture (config : CaptureConfig) (url : String) :
    Takes page (capture page config url) (config.timeoutMs + config.timeoutMs) := by
  refine (Takes.ask _ _ _).bind ?_
  rintro (failure | answer)
  · exact .pure _
  dsimp only
  split
  · exact .pure _
  refine (Takes.ask _ _ _).bind_instant ?_
  rintro (failure | bytes)
  · exact .pure _
  dsimp only
  split
  · exact .pure _
  · exact .of_before fun _ => .pure _

theorem before_runBy (deadline : Nat) : Before page (runBy page deadline) deadline := by
  refine (before_askBy _ _).bind ?_
  rintro (_ | styled)
  · exact .pure _
  refine (before_askBy _ _).bind ?_
  rintro (_ | failure | payload)
  · exact .pure _
  · exact .pure _
  · exact .pure _

theorem before_auditBy (engine : RuleEngine) (deadline : Nat) :
    Before page (auditBy page engine deadline) deadline := by
  refine (before_askBy _ _).bind ?_
  rintro (_ | failure | ⟨⟩)
  · exact .pure _
  · exact .pure _
  refine (before_askBy _ _).bind ?_
  rintro (_ | failure | answer)
  · exact .pure _
  · exact .pure _
  dsimp only
  split
  · exact before_runBy deadline
  · exact .pure _

theorem takes_audit (engine : RuleEngine) (config : AuditConfig) (url : String) :
    Takes page (audit page engine config url) config.timeoutMs := by
  refine .of_before fun start => (before_auditBy engine _).bind ?_
  rintro (_ | outcome)
  · exact .pure _
  · exact .pure _

/-- A lookup is over by the ceiling, as its own limit is cut down to the time that is left. -/
theorem before_lookUp (lookupTimeoutMs ceiling : Nat) (selector : String) :
    Before page (lookUp page lookupTimeoutMs ceiling selector) ceiling := by
  intro w hw
  show EndsBy page (if ceiling - w.now = 0 then _ else _) w ceiling
  split
  · exact Before.pure _ w hw
  · refine EndsBy.bind (Takes.ask (min lookupTimeoutMs (ceiling - w.now)) _ _ w) (by omega) ?_
    exact fun _ w' hw' => Before.pure _ w' (by omega)

theorem takes_correlate (config : CorrelationConfig) (audit : AuditResult) :
    Takes page (correlate page config audit) config.stageCeilingMs := by
  refine .of_before fun start => ?_
  rw [correlateFrom, Correlation.ofAudit_eq, map_eq_pure_bind]
  refine (Before.mapM (fun l => ?_) audit.lookups).bind fun _ => .pure _
  rw [Correlation.pointAt, map_eq_pure_bind]
  exact (before_lookUp _ _ _).bind fun _ => .pure _

theorem takes_secondaryAudit (engine : SecondaryEngine) (url : String) (endpoint : BrowserEndpoint)
    (config : SecondaryConfig) :
    Takes page (secondaryAudit engine url endpoint config)
      (if config.enabled then config.ceilingMs else 0) := by
  rw [secondaryAudit]
  by_cases henabled : config.enabled = true
  · simp only [henabled, Bool.not_true, Bool.false_eq_true, if_false, if_true]
    exact (Takes.askEngine _ _ _).bind_instant fun _ => .pure _
  · simp only [henabled, Bool.not_false, if_true, Bool.false_eq_true, if_false]
    exact .pure _

end Scan

namespace Pipeline

open Scan (Takes)

variable (p : Pipeline)

theorem takes_install (url : String) :
    Takes page (p.install page url) p.config.navigation.interceptInstallTimeoutMs := by
  refine (Takes.ask _ _ _).bind_instant ?_
  rintro (failure | ⟨⟩)
  · exact .pure _
  · exact .pure _

theorem takes_navigate (url : String) :
    Takes page (p.navigate page url)
      (p.config.navigation.strictTimeoutMs + p.config.navigation.relaxedTimeoutMs) := by
  refine (Scan.takes_navigate _ _).bind_instant ?_
  rintro (failure | report)
  · exact .pure _
  dsimp only
  split
  · exact .noticed _ (.noticed _ (.noticed _ (.pure _)))
  · exact .noticed _ (.pure _)

theorem takes_inspect (url : String) :
    Takes page (p.inspect page url)
      (p.config.navigation.interceptInstallTimeoutMs +
        (p.config.navigation.strictTimeoutMs + p.config.navigation.relaxedTimeoutMs +
          (p.config.stabilizer.budgetMs +
            (p.config.capture.timeoutMs + p.config.capture.timeoutMs +
              p.config.audit.timeoutMs)))) := by
  refine (takes_install p url).bind ?_
  rintro (failure | ⟨⟩)
  · exact .pure _
  refine (takes_navigate p url).bind ?_
  rintro (failure | report)
  · exact .pure _
  refine (Scan.takes_stabilize _).bind fun _ => .noticed _ ((Scan.takes_capture _ _).bind ?_)
  rintro (failure | capture)
  · exact .pure _
  refine .noticed _ ((Scan.takes_audit _ _ _).bind_instant ?_)
  rintro (failure | audit)
  · exact .pure _
  · exact .noticed _ (.pure _)

theorem takes_correlate (audit : AuditResult) :
    Takes page (p.correlate page audit) p.config.correlation.stageCeilingMs := by
  refine (Scan.takes_correlate _ _).bind_instant fun correlation => ?_
  dsimp only
  split
  · exact .noticed _ (.noticed _ (.noticed _ (.pure _)))
  · exact .noticed _ (.noticed _ (.pure _))

theorem takes_secondaryAudit (url : String) (endpoint : BrowserEndpoint) :
    Takes page (p.secondaryAudit url endpoint)
      (if p.config.secondary.enabled then p.config.secondary.ceilingMs else 0) := by
  refine (Scan.takes_secondaryAudit _ _ _ _).bind_instant fun result => ?_
  dsimp only
  split
  · exact .noticed _ (.noticed _ (.noticed _ (.pure _)))
  · exact .noticed _ (.pure _)

theorem takes_stages (endpoint : BrowserEndpoint) (url : String) :
    Takes page (p.stages page endpoint url) p.config.budgetMs := by
  set afterwards := p.config.correlation.stageCeilingMs +
    if p.config.secondary.enabled then p.config.secondary.ceilingMs else 0 with hafterwards
  refine ((takes_inspect p url).bind (u := afterwards) ?_).mono ?_
  · rintro (failure | ⟨capture, audit⟩)
    · exact .pure _
    · exact (takes_correlate p audit).bind fun _ =>
        (takes_secondaryAudit p url endpoint).bind_instant fun _ => .pure _
  · rw [hafterwards, ScanConfig.budgetMs]
    omega

theorem takes_conclude (identity : ScanIdentity) (request : ScanRequest)
    (outcome : Except ScanError Findings) :
    Takes page (conclude identity request outcome) 0 := by
  rcases outcome with failure | findings
  · exact .noticed _ (.noticed _ (.pure _))
  · exact .noticed _ (.noticed _ (.pure _))

/-- A run is over within its budget. Each of its calls has a deadline by then, and is given up at
its deadline if the page does not answer. -/
theorem run_within (page : Page σ) (identity : ScanIdentity) (endpoint : BrowserEndpoint)
    (request : ScanRequest) (s : σ) :
    ∃ es r w, p.run identity page endpoint request (World.start s) = (r, w) ∧
      Conversation page s es w.page ∧ w.calls = es.map Exchange.entry ∧
      (∀ e ∈ es, e.IsLimited p.config.budgetMs w.now) ∧ w.now ≤ p.config.budgetMs := by
  have hrun : Takes page (p.run identity page endpoint request) p.config.budgetMs :=
    .noticed _ (.noticed _
      ((takes_stages p endpoint request.url).bind fun _ => takes_conclude identity request _))
  obtain ⟨es, h⟩ := hrun (World.start s)
  have hlimit : (World.start s).now + p.config.budgetMs = p.config.budgetMs := Nat.zero_add _
  rw [hlimit] at h
  exact ⟨es, _, _, rfl, h.conversation, h.calls, h.limited, h.le_limit⟩

/-- The default limits come to some 23 minutes. -/
example : ({} : ScanConfig).budgetMs = 1402000 := rfl

end Pipeline

end PageScan

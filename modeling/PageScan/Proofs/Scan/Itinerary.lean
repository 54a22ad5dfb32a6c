import Mathlib.Tactic.Set
import PageScan.Proofs.Heatmap.Correlation
import PageScan.Proofs.Scan.Transcript
import PageScan.Scan.Pipeline

/-!
# The itinerary of a scan

In which order a scan calls its page. Each stage has its words, that is, the transcripts that it can
have with what they make of the stage: `Installing`, `Loading`, `Resting`, `Capturing`, `Auditing`
and `LookingUp`. An `Itinerary` puts the words of the stages behind one another and ends with the
first stage that fails.

* `yields_install`, `yields_navigate`, `yields_stabilize`, `yields_capture`, `yields_audit`,
  `yields_correlate`: each stage keeps to its words, whatever the page does.
-/

namespace PageScan

namespace Pipeline

open Scan (Asked Yields Quiet yields_ask yields_askBy yields_now yields_sleep)

variable {σ : Type}

/-! ## The words of the stages -/

section Words

variable (p : Pipeline) (url : String)

/-- The policy is installed by one call. -/
inductive Installing : List Exchange → Except ScanError Unit → Prop
  | done {e : Exchange}
      (h : Asked p.config.navigation.interceptInstallTimeoutMs "request interception install"
        (.interceptRequests p.policy) (.ok ()) e) :
      Installing [e] (.ok ())
  | failed {e : Exchange} {err : PageError}
      (h : Asked p.config.navigation.interceptInstallTimeoutMs "request interception install"
        (.interceptRequests p.policy) (.error err) e) :
      Installing [e]
        (.error (.session url ("failed to install request interception: " ++ err.message)))

/-- The exchange is the attempt to load the page under a policy. -/
def Attempt (policy : WaitPolicy) (limitMs : Nat) (result : Except PageError NavigationOutcome)
    (e : Exchange) : Prop :=
  Asked limitMs ("navigation (" ++ policy.name ++ ")") (.navigate url policy limitMs) result e

/-- The page is loaded by one strict attempt, which is followed by one relaxed attempt exactly if it
failed. -/
inductive Loading : List Exchange → Except ScanError Unit → Prop
  | strict {e : Exchange} {outcome : NavigationOutcome}
      (h : Attempt url .networkIdle p.config.navigation.strictTimeoutMs (.ok outcome) e) :
      Loading [e] (.ok ())
  | relaxed {e e' : Exchange} {err : PageError} {outcome : NavigationOutcome}
      (h : Attempt url .networkIdle p.config.navigation.strictTimeoutMs (.error err) e)
      (h' : Attempt url .domContentLoaded p.config.navigation.relaxedTimeoutMs (.ok outcome) e') :
      Loading [e, e'] (.ok ())
  | failed {e e' : Exchange} {err err' : PageError}
      (h : Attempt url .networkIdle p.config.navigation.strictTimeoutMs (.error err) e)
      (h' : Attempt url .domContentLoaded p.config.navigation.relaxedTimeoutMs (.error err') e') :
      Loading [e, e'] (.error (.navigation url err.message err'.message))

/-- Whatever comes of it, the exchange runs a script with a limit of its own. -/
def Ran (limitMs : Nat) (operation : String) (script : Script) (e : Exchange) : Prop :=
  ∃ result, Asked limitMs operation (.evaluate script) result e

/-- The page is brought to rest: its fonts are awaited, it is scrolled down for at most so many
steps, and up again. -/
inductive Resting : List Exchange → Prop
  | mk {fonts top : Exchange} {steps : List Exchange}
      (hfonts : Ran p.config.stabilizer.fontCeilingMs "fonts" .fontsReady fonts)
      (hsteps : ∀ e ∈ steps, Ran p.config.stabilizer.stepTimeoutMs "scroll step"
        (.scrollBy p.config.stabilizer.scrollStepPx) e)
      (hlength : steps.length ≤ p.config.stabilizer.maxScrollSteps)
      (htop : Ran p.config.stabilizer.stepTimeoutMs "scroll to top" .scrollToTop top) :
      Resting (fonts :: steps ++ [top])

/-- The exchange measures the page. -/
def Measured (result : Except PageError Json.Value) (e : Exchange) : Prop :=
  Asked p.config.capture.timeoutMs "document size" (.evaluate .documentSize) result e

/-- The exchange takes the screenshot. -/
def Pictured (result : Except PageError (List UInt8)) (e : Exchange) : Prop :=
  Asked p.config.capture.timeoutMs "screenshot"
    (.screenshot ⟨true, p.config.capture.format, p.config.capture.quality⟩) result e

/-- The page is measured, and then its screenshot is taken. -/
inductive Capturing : List Exchange → Except ScanError Unit → Prop
  | unanswered {e : Exchange} {err : PageError} (h : Measured p (.error err) e) :
      Capturing [e] (.error (.capture url ("failed to measure document: " ++ err.message)))
  | misshapen {e : Exchange} {answer : Json.Value} {err : Json.Error}
      (h : Measured p (.ok answer) e)
      (hsize : Json.Decoder.decodeValue DocumentSize.decoder answer = .error err) :
      Capturing [e] (.error (.capture url ("unexpected document size: " ++ err.message)))
  | unpictured {e e' : Exchange} {answer : Json.Value} {size : DocumentSize} {err : PageError}
      (h : Measured p (.ok answer) e)
      (hsize : Json.Decoder.decodeValue DocumentSize.decoder answer = .ok size)
      (h' : Pictured p (.error err) e') :
      Capturing [e, e'] (.error (.capture url err.message))
  | empty {e e' : Exchange} {answer : Json.Value} {size : DocumentSize}
      (h : Measured p (.ok answer) e)
      (hsize : Json.Decoder.decodeValue DocumentSize.decoder answer = .ok size)
      (h' : Pictured p (.ok []) e') :
      Capturing [e, e'] (.error (.capture url "screenshot was empty"))
  | done {e e' : Exchange} {answer : Json.Value} {size : DocumentSize} {bytes : List UInt8}
      (h : Measured p (.ok answer) e)
      (hsize : Json.Decoder.decodeValue DocumentSize.decoder answer = .ok size)
      (h' : Pictured p (.ok bytes) e') (hbytes : bytes ≠ []) :
      Capturing [e, e'] (.ok ())

/-- The rule engine is injected, looked for, given its styles, and run. All four calls share the
deadline that the first one sets; styles may fail, but not stay away. -/
inductive Auditing : List Exchange → Except ScanError AuditResult → Prop
  | uninjected {t d : Nat} {o : Option (Except PageError Unit)} {reason : String}
      (hd : d = t + p.config.audit.timeoutMs) (ho : o ≠ some (.ok ())) :
      Auditing [⟨t, d, .injectScript p.ruleEngine.source, o⟩] (.error (.audit url reason))
  | absent {t t₁ d : Nat} {o : Option (Except PageError Json.Value)} {reason : String}
      (hd : d = t + p.config.audit.timeoutMs)
      (ho : ∀ answer, o = some (.ok answer) → isTrue answer = false) :
      Auditing
        [⟨t, d, .injectScript p.ruleEngine.source, some (.ok ())⟩,
          ⟨t₁, d, .evaluate .auditProbe, o⟩]
        (.error (.audit url reason))
  | unstyled {t t₁ t₂ d : Nat} {answer : Json.Value} {reason : String}
      (hd : d = t + p.config.audit.timeoutMs) (hanswer : isTrue answer = true) :
      Auditing
        [⟨t, d, .injectScript p.ruleEngine.source, some (.ok ())⟩,
          ⟨t₁, d, .evaluate .auditProbe, some (.ok answer)⟩,
          ⟨t₂, d, .injectStyle highlightStyles, none⟩]
        (.error (.audit url reason))
  | unrun {t t₁ t₂ t₃ d : Nat} {answer : Json.Value} {styles : Except PageError Unit}
      {o : Option (Except PageError Json.Value)} {reason : String}
      (hd : d = t + p.config.audit.timeoutMs) (hanswer : isTrue answer = true)
      (ho : ∀ payload audit, o = some (.ok payload) → AuditResult.ofPayload payload ≠ .ok audit) :
      Auditing
        [⟨t, d, .injectScript p.ruleEngine.source, some (.ok ())⟩,
          ⟨t₁, d, .evaluate .auditProbe, some (.ok answer)⟩,
          ⟨t₂, d, .injectStyle highlightStyles, some styles⟩,
          ⟨t₃, d, .evaluate .auditRun, o⟩]
        (.error (.audit url reason))
  | done {t t₁ t₂ t₃ d : Nat} {answer payload : Json.Value} {styles : Except PageError Unit}
      {audit : AuditResult}
      (hd : d = t + p.config.audit.timeoutMs) (hanswer : isTrue answer = true)
      (hpayload : AuditResult.ofPayload payload = .ok audit) :
      Auditing
        [⟨t, d, .injectScript p.ruleEngine.source, some (.ok ())⟩,
          ⟨t₁, d, .evaluate .auditProbe, some (.ok answer)⟩,
          ⟨t₂, d, .injectStyle highlightStyles, some styles⟩,
          ⟨t₃, d, .evaluate .auditRun, some (.ok payload)⟩]
        (.ok audit)

/-- Elements are looked up. -/
def LookingUp (es : List Exchange) : Prop :=
  ∀ e ∈ es, ∃ selector, e.call = .evaluate (.resolve selector)

/-- The words of the stages one behind another, up to the first stage that fails. -/
inductive Itinerary : List Exchange → Except ScanError AuditResult → Prop
  | uninstalled {i : List Exchange} {err : ScanError} (hi : Installing p url i (.error err)) :
      Itinerary i (.error err)
  | unloaded {i l : List Exchange} {err : ScanError} (hi : Installing p url i (.ok ()))
      (hl : Loading p url l (.error err)) :
      Itinerary (i ++ l) (.error err)
  | uncaptured {i l r c : List Exchange} {err : ScanError} (hi : Installing p url i (.ok ()))
      (hl : Loading p url l (.ok ())) (hr : Resting p r) (hc : Capturing p url c (.error err)) :
      Itinerary (i ++ l ++ r ++ c) (.error err)
  | unaudited {i l r c a : List Exchange} {err : ScanError} (hi : Installing p url i (.ok ()))
      (hl : Loading p url l (.ok ())) (hr : Resting p r) (hc : Capturing p url c (.ok ()))
      (ha : Auditing p url a (.error err)) :
      Itinerary (i ++ l ++ r ++ c ++ a) (.error err)
  | complete {i l r c a u : List Exchange} {audit : AuditResult} (hi : Installing p url i (.ok ()))
      (hl : Loading p url l (.ok ())) (hr : Resting p r) (hc : Capturing p url c (.ok ()))
      (ha : Auditing p url a (.ok audit)) (hu : LookingUp u) :
      Itinerary (i ++ l ++ r ++ c ++ a ++ u) (.ok audit)

end Words

/-! ## The stages keep to their words -/

variable (p : Pipeline) (page : Page σ) (url : String) (w : World σ)

theorem yields_install :
    ∃ es r w', Yields page (p.install page url) w es r w' ∧ Installing p url es r := by
  obtain ⟨e, r, w', h, asked⟩ := yields_ask page p.config.navigation.interceptInstallTimeoutMs
    "request interception install" (.interceptRequests p.policy) w
  rcases r with err | ⟨⟩
  · exact ⟨[e], _, w', h.bind_quiet (.pure page _ w'), .failed asked⟩
  · exact ⟨[e], _, w', h.bind_quiet (.pure page _ w'), .done asked⟩

theorem yields_load (policy : WaitPolicy) (limitMs : Nat) :
    ∃ e r w', Yields page (Scan.load page url policy limitMs) w [e] r w' ∧
      Attempt url policy limitMs r e :=
  yields_ask page limitMs ("navigation (" ++ policy.name ++ ")") (.navigate url policy limitMs) w

/-- A page that was loaded tells whether that took a second attempt. -/
theorem yields_scan_navigate :
    ∃ es r w', Yields page (Scan.navigate page url p.config.navigation) w es r w' ∧
      Loading p url es (r.map fun _ => ()) ∧
      ∀ report, r = .ok report → (report.fellBack = true ↔ es.length = 2) := by
  obtain ⟨e, r, w₁, h, attempt⟩ :=
    yields_load page url w .networkIdle p.config.navigation.strictTimeoutMs
  rcases r with err | outcome
  · obtain ⟨e', r', w₂, h', attempt'⟩ :=
      yields_load page url w₁ .domContentLoaded p.config.navigation.relaxedTimeoutMs
    rcases r' with err' | outcome
    · exact ⟨[e, e'], _, w₂, h.bind (h'.bind_quiet (.pure page _ w₂)), .failed attempt attempt',
        by rintro report ⟨⟩⟩
    · exact ⟨[e, e'], _, w₂, h.bind (h'.bind_quiet (.pure page _ w₂)), .relaxed attempt attempt',
        by rintro report ⟨⟩; simp⟩
  · exact ⟨[e], _, w₁, h.bind_quiet (.pure page _ w₁), .strict attempt, by rintro report ⟨⟩; simp⟩

theorem quiet_completed (stage : Stage) : Quiet page (completed stage) () :=
  .notice page _

theorem yields_navigate :
    ∃ es r w', Yields page (p.navigate page url) w es r w' ∧
      Loading p url es (r.map fun _ => ()) := by
  obtain ⟨es, r, w', h, loading, -⟩ := yields_scan_navigate p page url w
  rcases r with err | report
  · exact ⟨es, _, w', h.bind_quiet (.pure page _ w'), loading⟩
  · have told : Quiet page (do
        completed .navigate
        return (.ok report : Except ScanError NavigationReport)) (.ok report) :=
      (quiet_completed page .navigate).bind (.pure _)
    obtain ⟨outcome, _ | _, strictError⟩ := report
    · obtain ⟨w'', told⟩ := told w'
      exact ⟨es, _, w'', h.bind_quiet told, loading⟩
    · obtain ⟨w₁, counted⟩ := Quiet.notice page (.counter .fallbacks) w'
      obtain ⟨w₂, fellBack⟩ := Quiet.notice page
        (.event (.navigationFallback (strictError.getD "unknown"))) w₁
      obtain ⟨w₃, told⟩ := told w₂
      exact ⟨es, _, w₃, h.bind_quiet (counted.quiet_bind (fellBack.quiet_bind told)), loading⟩

theorem yields_sweep (stepsLeft : Nat) (report : StabilizationReport) (w : World σ) :
    ∃ es r w', Yields page (Scan.sweep page p.config.stabilizer stepsLeft report) w es r w' ∧
      (∀ e ∈ es, Ran p.config.stabilizer.stepTimeoutMs "scroll step"
        (.scrollBy p.config.stabilizer.scrollStepPx) e) ∧ es.length ≤ stepsLeft := by
  induction stepsLeft generalizing report w with
  | zero => exact ⟨[], _, w, .pure page _ w, by simp, Nat.le_refl 0⟩
  | succ stepsLeft ih =>
    obtain ⟨w₁, slept⟩ := yields_sleep page p.config.stabilizer.scrollIntervalMs w
    obtain ⟨e, r, w₂, h, asked⟩ := yields_ask page p.config.stabilizer.stepTimeoutMs "scroll step"
      (.evaluate (.scrollBy p.config.stabilizer.scrollStepPx)) w₁
    have ran : Ran p.config.stabilizer.stepTimeoutMs "scroll step"
      (.scrollBy p.config.stabilizer.scrollStepPx) e := ⟨r, asked⟩
    rcases r with err | answer
    · exact ⟨[e], _, w₂, slept.quiet_bind (h.bind_quiet (.pure page _ w₂)), by simpa using ran,
        by simp⟩
    · set report' : StabilizationReport :=
        { report with
          scrollSteps := report.scrollSteps + 1
          sweptPx := report.sweptPx + p.config.stabilizer.scrollStepPx } with hreport
      -- the sweep goes on until the page is no longer than what was swept
      by_cases hc : Float.ofNat report'.sweptPx ≥ Scan.heightOf answer
      · refine ⟨[e], report', w₂, slept.quiet_bind (h.bind_quiet ?_), by simpa using ran, by simp⟩
        show Yields page (if _ then _ else _) w₂ [] _ w₂
        rw [if_pos hc]
        exact .pure page _ w₂
      · obtain ⟨es, r, w₃, h', rans, hlength⟩ := ih report' w₂
        refine ⟨e :: es, r, w₃, slept.quiet_bind (h.bind ?_), ?_, by simpa using hlength⟩
        · show Yields page (if _ then _ else _) w₂ es r w₃
          rw [if_neg hc]
          exact h'
        · exact List.forall_mem_cons.2 ⟨ran, rans⟩

theorem yields_stabilize :
    ∃ es r w', Yields page (Scan.stabilize page p.config.stabilizer) w es r w' ∧ Resting p es := by
  obtain ⟨fonts, r, w₁, hfonts, asked⟩ := yields_ask page p.config.stabilizer.fontCeilingMs "fonts"
    (.evaluate .fontsReady) w
  obtain ⟨ready, awaited⟩ : ∃ ready,
      Yields page (Scan.awaitFonts page p.config.stabilizer.fontCeilingMs) w [fonts] ready w₁ := by
    rcases r with err | answer
    · exact ⟨false, hfonts.bind_quiet (.pure page _ w₁)⟩
    · exact ⟨true, hfonts.bind_quiet (.pure page _ w₁)⟩
  obtain ⟨w₂, slept⟩ := yields_sleep page p.config.stabilizer.settleMs w₁
  obtain ⟨steps, report, w₃, swept, rans, hlength⟩ := yields_sweep p page
    p.config.stabilizer.maxScrollSteps ⟨ready, 0, 0, false⟩ w₂
  obtain ⟨top, r', w₄, htop, asked'⟩ := yields_ask page p.config.stabilizer.stepTimeoutMs
    "scroll to top" (.evaluate .scrollToTop) w₃
  obtain ⟨w₅, slept'⟩ := yields_sleep page p.config.stabilizer.postSweepSettleMs w₄
  refine ⟨fonts :: steps ++ [top], report, w₅, ?_, .mk ⟨r, asked⟩ rans hlength ⟨r', asked'⟩⟩
  exact awaited.bind (slept.quiet_bind (swept.bind (htop.bind_quiet
    (slept'.quiet_bind (.pure page report w₅)))))

theorem yields_capture :
    ∃ es r w', Yields page (Scan.capture page p.config.capture url) w es r w' ∧
      Capturing p url es (r.map fun _ => ()) := by
  obtain ⟨e, r, w₁, h, measured⟩ := yields_ask page p.config.capture.timeoutMs "document size"
    (.evaluate .documentSize) w
  rcases r with err | answer
  · exact ⟨[e], _, w₁, h.bind_quiet (.pure page _ w₁), .unanswered measured⟩
  · rcases hsize : Json.Decoder.decodeValue DocumentSize.decoder answer with err | size
    · refine ⟨[e], .error _, w₁, h.bind_quiet ?_, .misshapen measured hsize⟩
      simp only [hsize]
      exact .pure page _ w₁
    · obtain ⟨e', r', w₂, h', pictured⟩ := yields_ask page p.config.capture.timeoutMs "screenshot"
        (.screenshot ⟨true, p.config.capture.format, p.config.capture.quality⟩) w₁
      rcases r' with err | _ | ⟨byte, bytes⟩
      · refine ⟨[e, e'], .error _, w₂, h.bind ?_, .unpictured measured hsize pictured⟩
        simp only [hsize]
        exact h'.bind_quiet (.pure page _ w₂)
      · refine ⟨[e, e'], .error _, w₂, h.bind ?_, .empty measured hsize pictured⟩
        simp only [hsize]
        exact h'.bind_quiet (.pure page _ w₂)
      · refine ⟨[e, e'], .ok ⟨⟨p.config.capture.format, byte :: bytes⟩,
          DocumentSize.pixels size.width, DocumentSize.pixels size.height, w₂.now⟩, w₂,
          h.bind ?_, .done measured hsize pictured (by simp)⟩
        simp only [hsize]
        exact h'.bind_quiet ((yields_now page w₂).quiet_bind (.pure page _ w₂))

/-- What becomes of an audit when its deadline has come. -/
def auditVerdict (o : Option (Except AuditFailure AuditResult)) : Except ScanError AuditResult :=
  match o with
  | some outcome => outcome.mapError fun f => .audit url f.message
  | none => .error (.audit url (AuditFailure.budget p.config.audit.timeoutMs).message)

theorem yields_audit_of_auditBy {es : List Exchange}
    {o : Option (Except AuditFailure AuditResult)} {w w' : World σ}
    (h : Yields page (Scan.auditBy page p.ruleEngine (w.now + p.config.audit.timeoutMs)) w es o
      w') :
    Yields page (Scan.audit page p.ruleEngine p.config.audit url) w es (auditVerdict p url o)
      w' := by
  refine (yields_now page w).quiet_bind (h.bind_quiet ?_)
  rcases o with _ | outcome
  · exact .pure page _ w'
  · exact .pure page _ w'

/-- An engine that is there is given its styles and run, and all of this takes its exchanges behind
those that found the engine. -/
theorem auditing_of_run {t t₁ d : Nat} {answer : Json.Value} (w : World σ)
    (hd : d = t + p.config.audit.timeoutMs) (hanswer : isTrue answer = true) :
    ∃ es o w', Yields page (Scan.runBy page d) w es o w' ∧
      Auditing p url
        (⟨t, d, .injectScript p.ruleEngine.source, some (.ok ())⟩ ::
          ⟨t₁, d, .evaluate .auditProbe, some (.ok answer)⟩ :: es)
        (auditVerdict p url o) := by
  obtain ⟨o, w₁, styled⟩ := yields_askBy page d (.injectStyle highlightStyles) w
  rcases o with _ | styles
  · exact ⟨_, none, w₁, styled.bind_quiet (.pure page none w₁), .unstyled hd hanswer⟩
  obtain ⟨o, w₂, ran⟩ := yields_askBy page d (.evaluate .auditRun) w₁
  rcases o with _ | err | payload
  · exact ⟨_, none, w₂, styled.bind (ran.bind_quiet (.pure page none w₂)),
      .unrun hd hanswer (by simp)⟩
  · exact ⟨_, some (.error (.execution err)), w₂, styled.bind (ran.bind_quiet (.pure page _ w₂)),
      .unrun hd hanswer (by simp)⟩
  · refine ⟨_, some ((AuditResult.ofPayload payload).mapError .payload), w₂,
      styled.bind (ran.bind_quiet (.pure page _ w₂)), ?_⟩
    rcases hpayload : AuditResult.ofPayload payload with err | audit
    · refine .unrun hd hanswer ?_
      rintro _ audit ⟨⟩
      simp [hpayload]
    · exact .done hd hanswer hpayload

theorem yields_audit :
    ∃ es r w', Yields page (Scan.audit page p.ruleEngine p.config.audit url) w es r w' ∧
      Auditing p url es r := by
  suffices h : ∃ es o w', Yields page
      (Scan.auditBy page p.ruleEngine (w.now + p.config.audit.timeoutMs)) w es o w' ∧
      Auditing p url es (auditVerdict p url o) by
    obtain ⟨es, o, w', h, auditing⟩ := h
    exact ⟨es, _, w', yields_audit_of_auditBy p page url h, auditing⟩
  set d := w.now + p.config.audit.timeoutMs with hd
  obtain ⟨o, w₁, injected⟩ := yields_askBy page d (.injectScript p.ruleEngine.source) w
  rcases o with _ | err | ⟨⟩
  · exact ⟨_, none, w₁, injected.bind_quiet (.pure page none w₁), .uninjected hd (by simp)⟩
  · exact ⟨_, some (.error (.injection err)), w₁, injected.bind_quiet (.pure page _ w₁),
      .uninjected hd (by simp)⟩
  obtain ⟨o, w₂, probed⟩ := yields_askBy page d (.evaluate .auditProbe) w₁
  rcases o with _ | err | answer
  · exact ⟨_, none, w₂, injected.bind (probed.bind_quiet (.pure page none w₂)),
      .absent hd (by simp)⟩
  · exact ⟨_, some (.error (.probe err)), w₂, injected.bind (probed.bind_quiet (.pure page _ w₂)),
      .absent hd (by simp)⟩
  by_cases hanswer : isTrue answer = true
  · obtain ⟨es, o, w₃, ran, auditing⟩ := auditing_of_run p page url w₂ hd hanswer
    refine ⟨_, o, w₃, injected.bind (probed.bind ?_), auditing⟩
    show Yields page (if _ then _ else _) w₂ es o w₃
    rw [if_pos hanswer]
    exact ran
  · refine ⟨_, some (.error .engineMissing), w₂, injected.bind (probed.bind_quiet ?_),
      .absent hd (by simpa using hanswer)⟩
    show Yields page (if _ then _ else _) w₂ [] _ w₂
    rw [if_neg hanswer]
    exact .pure page _ w₂

/-- An element that is looked up takes one exchange, or none once the ceiling is reached. -/
theorem yields_lookUp (limitMs ceiling : Nat) (selector : String) (w : World σ) :
    ∃ es found w', Yields page (Scan.lookUp page limitMs ceiling selector) w es found w' ∧
      LookingUp es := by
  by_cases hleft : ceiling - w.now = 0
  · refine ⟨[], none, w, (yields_now page w).quiet_bind ?_, by simp [LookingUp]⟩
    show Yields page (if _ then _ else _) w [] _ w
    rw [if_pos hleft]
    exact .pure page _ w
  · obtain ⟨e, r, w', h, asked⟩ := yields_ask page (min limitMs (ceiling - w.now)) "lookup"
      (.evaluate (.resolve selector)) w
    have hcall : e.call = .evaluate (.resolve selector) := by
      obtain ⟨time, outcome, rfl, -⟩ := asked
      rfl
    refine ⟨[e], Scan.foundBox r, w', (yields_now page w).quiet_bind ?_,
      by simp [LookingUp, hcall]⟩
    show Yields page (if _ then _ else _) w [e] _ w'
    rw [if_neg hleft]
    exact h.bind_quiet (.pure page _ w')

theorem yields_lookups (limitMs ceiling : Nat) (lookups : List Lookup) (w : World σ) :
    ∃ es found w', Yields page
      (lookups.mapM (Correlation.pointAt (Scan.lookUp page limitMs ceiling))) w es found w' ∧
      LookingUp es := by
  induction lookups generalizing w with
  | nil => exact ⟨[], [], w, .pure page _ w, by simp [LookingUp]⟩
  | cons l rest ih =>
    obtain ⟨es, found, w₁, h, hes⟩ := yields_lookUp page limitMs ceiling l.selector w
    obtain ⟨es', points, w₂, h', hes'⟩ := ih w₁
    refine ⟨es ++ es', l.point found :: points, w₂, ?_, ?_⟩
    · rw [List.mapM_cons]
      exact (h.map l.point).bind (h'.bind_quiet (.pure page _ w₂))
    · exact List.forall_mem_append.2 ⟨hes, hes'⟩

theorem yields_scan_correlate (audit : AuditResult) :
    ∃ es c w', Yields page (Scan.correlate page p.config.correlation audit) w es c w' ∧
      LookingUp es ∧ c.visited = audit.nodeCount := by
  obtain ⟨es, found, w', h, hes⟩ := yields_lookups page p.config.correlation.lookupTimeoutMs
    (w.now + p.config.correlation.stageCeilingMs) audit.lookups w
  refine ⟨es, ⟨found.filterMap id, audit.nodeCount⟩, w', (yields_now page w).quiet_bind ?_, hes,
    rfl⟩
  rw [Scan.correlateFrom, Correlation.ofAudit_eq]
  exact h.map _

theorem yields_correlate (audit : AuditResult) :
    ∃ es r w', Yields page (p.correlate page audit) w es r w' ∧ LookingUp es := by
  obtain ⟨es, correlation, w₁, correlated, hes, -⟩ := yields_scan_correlate p page w audit
  have told : Quiet page (do
      Scan.tell (.heatmapCorrelated correlation.points.length correlation.dropped)
      completed .correlate
      return correlation) correlation :=
    (Quiet.notice page _).bind ((quiet_completed page .correlate).bind (.pure _))
  by_cases hdropped : correlation.dropped ≠ 0
  · obtain ⟨w₂, counted⟩ := Quiet.notice page (.counter (.dropped correlation.dropped)) w₁
    obtain ⟨w₃, told⟩ := told w₂
    refine ⟨es, correlation, w₃, correlated.bind_quiet ?_, hes⟩
    rw [if_pos hdropped]
    exact counted.quiet_bind told
  · obtain ⟨w₂, told⟩ := told w₁
    refine ⟨es, correlation, w₂, correlated.bind_quiet ?_, hes⟩
    rw [if_neg hdropped]
    exact told

end Pipeline

end PageScan

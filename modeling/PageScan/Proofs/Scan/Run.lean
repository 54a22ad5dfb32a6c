import PageScan.Proofs.Scan.Itinerary

/-!
# Runs keep to the itinerary

* `stages_itinerary`: the transcript of all stages is an itinerary, for every page, and the second
  engine is not asked if a stage has failed.
* `Itinerary.reported_iff`: an itinerary ends well exactly if the page has given each of the four
  stages that can end a scan what it needs.
* `run_itinerary`: both hold for what a run makes known of itself.
-/

namespace PageScan

namespace Pipeline

open Scan (Asked Yields Quiet)

variable {σ : Type}

section Inspection

variable (p : Pipeline) (page : Page σ) (url : String) (w : World σ)

/-- The words of the stages that can end a scan, up to the first one that fails, or all of them. -/
def Inspected (es : List Exchange) : Except ScanError (PageCapture × AuditResult) → Prop
  | .error err => Itinerary p url es (.error err)
  | .ok (_, audit) => ∀ u, LookingUp u → Itinerary p url (es ++ u) (.ok audit)

theorem yields_inspect :
    ∃ es r w', Yields page (p.inspect page url) w es r w' ∧ Inspected p url es r := by
  obtain ⟨i, r, w₁, hinstall, hi⟩ := yields_install p page url w
  rcases r with err | ⟨⟩
  · exact ⟨i, .error err, w₁, hinstall.bind_quiet (.pure page _ w₁), .uninstalled hi⟩
  obtain ⟨l, r, w₂, hload, hl⟩ := yields_navigate p page url w₁
  rcases r with err | report
  · exact ⟨i ++ l, .error err, w₂, hinstall.bind (hload.bind_quiet (.pure page _ w₂)),
      .unloaded hi hl⟩
  obtain ⟨r, rest, w₃, hrest, hr⟩ := yields_stabilize p page w₂
  obtain ⟨w₄, stabilized⟩ := quiet_completed page .stabilize w₃
  obtain ⟨c, result, w₅, hcapture, hc⟩ := yields_capture p page url w₄
  rcases result with err | capture
  · refine ⟨i ++ (l ++ (r ++ c)), .error err, w₅, ?_, ?_⟩
    · exact hinstall.bind (hload.bind (hrest.bind (stabilized.quiet_bind
        (hcapture.bind_quiet (.pure page _ w₅)))))
    · simpa only [Inspected, List.append_assoc] using Itinerary.uncaptured hi hl hr hc
  obtain ⟨w₆, captured⟩ := quiet_completed page .capture w₅
  obtain ⟨a, result, w₇, haudit, ha⟩ := yields_audit p page url w₆
  rcases result with err | audit
  · refine ⟨i ++ (l ++ (r ++ (c ++ a))), .error err, w₇, ?_, ?_⟩
    · exact hinstall.bind (hload.bind (hrest.bind (stabilized.quiet_bind
        (hcapture.bind (captured.quiet_bind (haudit.bind_quiet (.pure page _ w₇)))))))
    · simpa only [Inspected, List.append_assoc] using Itinerary.unaudited hi hl hr hc ha
  obtain ⟨w₈, audited⟩ := quiet_completed page .audit w₇
  refine ⟨i ++ (l ++ (r ++ (c ++ a))), .ok (capture, audit), w₈, ?_, fun u hu => ?_⟩
  · exact hinstall.bind (hload.bind (hrest.bind (stabilized.quiet_bind
      (hcapture.bind (captured.quiet_bind (haudit.bind_quiet
        (audited.quiet_bind (.pure page _ w₈))))))))
  · simpa only [List.append_assoc] using Itinerary.complete hi hl hr hc ha hu

end Inspection

/-! ## What the stages need -/

/-- The stages as far as the calls of a scan tell them apart. -/
inductive Part
  | installing
  | loading
  | resting
  | capturing
  | auditing
  | lookingUp
  deriving DecidableEq

/-- The stage that makes a call. -/
def Part.ofCall : PageCall → Part
  | .interceptRequests _ => .installing
  | .navigate .. => .loading
  | .evaluate .fontsReady | .evaluate (.scrollBy _) | .evaluate .scrollToTop => .resting
  | .evaluate .documentSize | .screenshot _ => .capturing
  | .injectScript _ | .injectStyle _ | .evaluate .auditProbe | .evaluate .auditRun => .auditing
  | .evaluate (.resolve _) => .lookingUp

theorem part_of_asked {limitMs : Nat} {operation : String} {call : PageCall}
    {result : Except PageError call.Answer} {e : Exchange}
    (h : Asked limitMs operation call result e) : Part.ofCall e.call = Part.ofCall call :=
  congrArg Part.ofCall h.call_eq

/-- The policy was installed. -/
def Installed (p : Pipeline) : Exchange → Prop :=
  Asked p.config.navigation.interceptInstallTimeoutMs "request interception install"
    (.interceptRequests p.policy) (.ok ())

/-- The page was loaded. -/
def Loaded (url : String) (e : Exchange) : Prop :=
  ∃ policy limitMs outcome, Attempt url policy limitMs (.ok outcome) e

/-- The page gave its size. -/
def Sized (p : Pipeline) (e : Exchange) : Prop :=
  ∃ answer size, Measured p (.ok answer) e ∧
    Json.Decoder.decodeValue DocumentSize.decoder answer = .ok size

/-- The page gave a screenshot that is not empty. -/
def Seen (p : Pipeline) (e : Exchange) : Prop :=
  ∃ bytes, Pictured p (.ok bytes) e ∧ bytes ≠ []

/-- The rule engine ran in time, and what it wrote can be read. -/
def Audited (e : Exchange) : Prop :=
  ∃ time deadline payload audit, e = ⟨time, deadline, .evaluate .auditRun, some (.ok payload)⟩ ∧
    AuditResult.ofPayload payload = .ok audit

/-- The page gave every stage that can end a scan what it needs. -/
structure Served (p : Pipeline) (url : String) (es : List Exchange) : Prop where
  installed : ∃ e ∈ es, Installed p e
  loaded : ∃ e ∈ es, Loaded url e
  sized : ∃ e ∈ es, Sized p e
  seen : ∃ e ∈ es, Seen p e
  audited : ∃ e ∈ es, Audited e

section Needs

variable {p : Pipeline} {url : String} {es : List Exchange}

theorem Installing.part {r : Except ScanError Unit} (h : Installing p url es r) :
    ∀ e ∈ es, Part.ofCall e.call = .installing := by
  rcases h with h | h
  · exact List.forall_mem_singleton.2 (part_of_asked h)
  · exact List.forall_mem_singleton.2 (part_of_asked h)

theorem Loading.part {r : Except ScanError Unit} (h : Loading p url es r) :
    ∀ e ∈ es, Part.ofCall e.call = .loading := by
  rcases h with h | ⟨h, h'⟩ | ⟨h, h'⟩
  · exact List.forall_mem_singleton.2 (part_of_asked h)
  · exact List.forall_mem_cons.2 ⟨part_of_asked h,
      List.forall_mem_singleton.2 (part_of_asked h')⟩
  · exact List.forall_mem_cons.2 ⟨part_of_asked h,
      List.forall_mem_singleton.2 (part_of_asked h')⟩

theorem Ran.part {limitMs : Nat} {operation : String} {script : Script} {e : Exchange}
    (h : Ran limitMs operation script e) :
    Part.ofCall e.call = Part.ofCall (.evaluate script) := by
  obtain ⟨result, h⟩ := h
  exact part_of_asked h

theorem Resting.part (h : Resting p es) : ∀ e ∈ es, Part.ofCall e.call = .resting := by
  obtain ⟨hfonts, hsteps, -, htop⟩ := h
  intro e he
  rcases List.mem_append.1 he with he | he
  · rcases List.mem_cons.1 he with rfl | he
    · exact hfonts.part
    · exact (hsteps e he).part
  · rw [List.mem_singleton.1 he]
    exact htop.part

theorem Capturing.part {r : Except ScanError Unit} (h : Capturing p url es r) :
    ∀ e ∈ es, Part.ofCall e.call = .capturing := by
  have measured {result : Except PageError Json.Value} {e : Exchange} (h : Measured p result e) :
      Part.ofCall e.call = .capturing := part_of_asked h
  have pictured {result : Except PageError (List UInt8)} {e : Exchange} (h : Pictured p result e) :
      Part.ofCall e.call = .capturing := part_of_asked h
  rcases h with h | ⟨h, -⟩ | ⟨h, -, h'⟩ | ⟨h, -, h'⟩ | ⟨h, -, h', -⟩
  · exact List.forall_mem_singleton.2 (measured h)
  · exact List.forall_mem_singleton.2 (measured h)
  all_goals exact List.forall_mem_cons.2 ⟨measured h, List.forall_mem_singleton.2 (pictured h')⟩

theorem Auditing.part {r : Except ScanError AuditResult} (h : Auditing p url es r) :
    ∀ e ∈ es, Part.ofCall e.call = .auditing := by
  cases h <;> simp [Part.ofCall]

theorem LookingUp.part (h : LookingUp es) : ∀ e ∈ es, Part.ofCall e.call = .lookingUp := by
  intro e he
  obtain ⟨selector, hcall⟩ := h e he
  rw [hcall]
  rfl

theorem Installing.ok_iff {r : Except ScanError Unit} (h : Installing p url es r) :
    r = .ok () ↔ ∃ e ∈ es, Installed p e := by
  rcases h with h | h
  · exact ⟨fun _ => ⟨_, List.mem_singleton_self _, h⟩, fun _ => rfl⟩
  · constructor
    · rintro ⟨⟩
    · rintro ⟨e, he, h'⟩
      rw [List.mem_singleton.1 he] at h'
      cases h.result_unique h'

theorem Attempt.not_loaded {policy : WaitPolicy} {limitMs : Nat} {err : PageError} {e : Exchange}
    (h : Attempt url policy limitMs (.error err) e) : ¬Loaded url e := by
  rintro ⟨policy', limitMs', outcome, h'⟩
  obtain ⟨-, rfl, rfl⟩ := PageCall.navigate.inj ((Asked.call_eq h).symm.trans (Asked.call_eq h'))
  cases Asked.result_unique h h'

theorem Loading.ok_iff {r : Except ScanError Unit} (h : Loading p url es r) :
    r = .ok () ↔ ∃ e ∈ es, Loaded url e := by
  rcases h with h | ⟨h, h'⟩ | ⟨h, h'⟩
  · exact ⟨fun _ => ⟨_, by simp, _, _, _, h⟩, fun _ => rfl⟩
  · exact ⟨fun _ => ⟨_, by simp, _, _, _, h'⟩, fun _ => rfl⟩
  · constructor
    · rintro ⟨⟩
    · rintro ⟨e, he, hloaded⟩
      rcases List.mem_cons.1 he with rfl | he
      · exact absurd hloaded h.not_loaded
      · rw [List.mem_singleton.1 he] at hloaded
        exact absurd hloaded h'.not_loaded

/-- A page is measured by a script, so that this is no screenshot. -/
theorem Measured.not_seen {result : Except PageError Json.Value} {e : Exchange}
    (h : Measured p result e) : ¬Seen p e := by
  rintro ⟨bytes, h', -⟩
  cases (Asked.call_eq h).symm.trans (Asked.call_eq h')

theorem Pictured.not_seen {result : Except PageError (List UInt8)} {e : Exchange}
    (h : Pictured p result e) (hresult : ∀ bytes, result = .ok bytes → bytes = []) :
    ¬Seen p e := by
  rintro ⟨bytes, h', hbytes⟩
  exact hbytes (hresult bytes (Asked.result_unique h h'))

theorem Capturing.ok_iff {r : Except ScanError Unit} (h : Capturing p url es r) :
    r = .ok () ↔ (∃ e ∈ es, Sized p e) ∧ ∃ e ∈ es, Seen p e := by
  rcases h with h | ⟨h, hsize⟩ | ⟨h, hsize, h'⟩ | ⟨h, hsize, h'⟩ | ⟨h, hsize, h', hbytes⟩
  · simp [h.not_seen]
  · simp [h.not_seen]
  · simp [h.not_seen, h'.not_seen]
  · simp [h.not_seen, h'.not_seen]
  · exact ⟨fun _ => ⟨⟨_, by simp, _, _, h, hsize⟩, ⟨_, by simp, _, h', hbytes⟩⟩, fun _ => rfl⟩

theorem Auditing.ok_iff {r : Except ScanError AuditResult} (h : Auditing p url es r) :
    (∃ audit, r = .ok audit) ↔ ∃ e ∈ es, Audited e := by
  rcases h with _ | _ | _ | ⟨-, -, ho⟩ | ⟨-, -, hpayload⟩
  · simp [Audited]
  · simp [Audited]
  · simp [Audited]
  · constructor
    · rintro ⟨audit, ⟨⟩⟩
    · rintro ⟨e, he, time, deadline, payload, audit, rfl, hpayload⟩
      rcases he with _ | ⟨_, _ | ⟨_, _ | ⟨_, _ | ⟨_, ⟨⟩⟩⟩⟩⟩
      exact absurd hpayload (ho payload audit rfl)
  · exact ⟨fun _ => ⟨_, .tail _ (.tail _ (.tail _ (.head _))), _, _, _, _, rfl, hpayload⟩,
      fun _ => ⟨_, rfl⟩⟩

theorem Installed.part {e : Exchange} (h : Installed p e) : Part.ofCall e.call = .installing :=
  part_of_asked h

theorem Loaded.part {e : Exchange} (h : Loaded url e) : Part.ofCall e.call = .loading := by
  obtain ⟨policy, limitMs, outcome, h⟩ := h
  exact part_of_asked h

theorem Sized.part {e : Exchange} (h : Sized p e) : Part.ofCall e.call = .capturing := by
  obtain ⟨answer, size, h, -⟩ := h
  exact part_of_asked h

theorem Seen.part {e : Exchange} (h : Seen p e) : Part.ofCall e.call = .capturing := by
  obtain ⟨bytes, h, -⟩ := h
  exact part_of_asked h

theorem Audited.part {e : Exchange} (h : Audited e) : Part.ofCall e.call = .auditing := by
  obtain ⟨time, deadline, payload, audit, rfl, -⟩ := h
  rfl

/-- What no stage before has made is a matter of the stage that comes last. -/
theorem exists_mem_of_part {P : Exchange → Prop} {part : Part} {before last : List Exchange}
    (hP : ∀ e, P e → Part.ofCall e.call = part)
    (hbefore : ∀ e ∈ before, Part.ofCall e.call ≠ part) (h : ∃ e ∈ before ++ last, P e) :
    ∃ e ∈ last, P e := by
  obtain ⟨e, he, hp⟩ := h
  rcases List.mem_append.1 he with he | he
  · exact absurd (hP e hp) (hbefore e he)
  · exact ⟨e, he, hp⟩

/-- All calls are made by stages other than this one. -/
def Apart (part : Part) (es : List Exchange) : Prop :=
  ∀ e ∈ es, Part.ofCall e.call ≠ part

theorem apart_of_part {part part' : Part} (h : ∀ e ∈ es, Part.ofCall e.call = part')
    (hne : part' ≠ part) : Apart part es :=
  fun e he => h e he ▸ hne

theorem Apart.append {part : Part} {es' : List Exchange} (h : Apart part es)
    (h' : Apart part es') : Apart part (es ++ es') :=
  List.forall_mem_append.2 ⟨h, h'⟩

theorem Itinerary.reported_iff {r : Except ScanError AuditResult} (h : Itinerary p url es r) :
    (∃ audit, r = .ok audit) ↔ Served p url es := by
  rcases h with hi | ⟨hi, hl⟩ | ⟨hi, hl, hr, hc⟩ | ⟨hi, hl, hr, hc, ha⟩ | ⟨hi, hl, hr, hc, ha, hu⟩
  · refine ⟨by rintro ⟨_, ⟨⟩⟩, fun hs => ?_⟩
    cases hi.ok_iff.2 hs.installed
  · -- an exchange that loads the page would have to be among those of the stage that failed
    refine ⟨by rintro ⟨_, ⟨⟩⟩, fun hs => ?_⟩
    have hi := apart_of_part hi.part (by decide : Part.installing ≠ .loading)
    cases hl.ok_iff.2 (exists_mem_of_part (fun _ => Loaded.part) hi hs.loaded)
  · refine ⟨by rintro ⟨_, ⟨⟩⟩, fun hs => ?_⟩
    have before := ((apart_of_part hi.part (by decide : Part.installing ≠ .capturing)).append
      (apart_of_part hl.part (by decide))).append (apart_of_part hr.part (by decide))
    cases hc.ok_iff.2 ⟨exists_mem_of_part (fun _ => Sized.part) before hs.sized,
      exists_mem_of_part (fun _ => Seen.part) before hs.seen⟩
  · refine ⟨by rintro ⟨_, ⟨⟩⟩, fun hs => ?_⟩
    have before := (((apart_of_part hi.part (by decide : Part.installing ≠ .auditing)).append
      (apart_of_part hl.part (by decide))).append (apart_of_part hr.part (by decide))).append
      (apart_of_part hc.part (by decide))
    obtain ⟨audit, ⟨⟩⟩ :=
      ha.ok_iff.2 (exists_mem_of_part (fun _ => Audited.part) before hs.audited)
  · refine ⟨fun _ => ?_, fun _ => ⟨_, rfl⟩⟩
    obtain ⟨e₁, h₁, installed⟩ := hi.ok_iff.1 rfl
    obtain ⟨e₂, h₂, loaded⟩ := hl.ok_iff.1 rfl
    obtain ⟨⟨e₃, h₃, sized⟩, e₄, h₄, seen⟩ := hc.ok_iff.1 rfl
    obtain ⟨e₅, h₅, audited⟩ := ha.ok_iff.1 ⟨_, rfl⟩
    exact ⟨⟨e₁, by simp [h₁], installed⟩, ⟨e₂, by simp [h₂], loaded⟩, ⟨e₃, by simp [h₃], sized⟩,
      ⟨e₄, by simp [h₄], seen⟩, ⟨e₅, by simp [h₅], audited⟩⟩

end Needs

/-! ## The whole run -/

section Whole

variable (p : Pipeline) (page : Page σ)

/-- What the second engine is asked in a scan with this result. -/
def engineRequests {α : Type} (url : String) (endpoint : BrowserEndpoint) :
    Except ScanError α → List SecondaryRequest
  | .ok _ =>
    if p.config.secondary.enabled then [.ofConfig url endpoint p.config.secondary] else []
  | .error _ => []

/-- The second engine is asked without the page, and once if at all. -/
theorem scan_secondaryAudit_keeps (url : String) (endpoint : BrowserEndpoint) (w : World σ) :
    ∃ result w', Scan.secondaryAudit p.secondaryEngine url endpoint p.config.secondary w =
        (result, w') ∧ w'.page = w.page ∧ w'.calls = w.calls ∧
      w'.engineCalls = w.engineCalls ++ p.engineRequests url endpoint (.ok result) := by
  by_cases henabled : p.config.secondary.enabled = true
  · set request := SecondaryRequest.ofConfig url endpoint p.config.secondary
    obtain ⟨now, hasked⟩ : ∃ now, Scan.askEngine p.secondaryEngine p.config.secondary.ceilingMs
        request w = _ := Scan.await_apply (w.now + p.config.secondary.ceilingMs)
      (p.secondaryEngine request) { w with engineCalls := w.engineCalls ++ [request] }
    have hrequests : p.engineRequests url endpoint (.ok ()) = [request] := if_pos henabled
    have hrun : Scan.secondaryAudit p.secondaryEngine url endpoint p.config.secondary w =
        (p.config.secondary.verdict ((p.secondaryEngine request).by? w.now
            (w.now + p.config.secondary.ceilingMs)),
          { w with now, engineCalls := w.engineCalls ++ [request] }) := by
      simp only [Scan.secondaryAudit, henabled, Bool.not_true, Bool.false_eq_true, if_false]
      rw [Scan.bind_apply, hasked]
      rfl
    exact ⟨_, _, hrun, rfl, rfl, congrArg (w.engineCalls ++ ·) hrequests.symm⟩
  · refine ⟨.skipped, w, ?_, rfl, rfl, by simp [engineRequests, henabled]⟩
    simp only [Scan.secondaryAudit, henabled, Bool.not_false, if_true]
    rfl

include page in
theorem secondaryAudit_keeps (url : String) (endpoint : BrowserEndpoint) (w : World σ) :
    ∃ result w', p.secondaryAudit url endpoint w = (result, w') ∧ w'.page = w.page ∧
      w'.calls = w.calls ∧
      w'.engineCalls = w.engineCalls ++ p.engineRequests url endpoint (.ok result) := by
  obtain ⟨result, w₁, h, hpage, hcalls, hengine⟩ := scan_secondaryAudit_keeps p url endpoint w
  have told : Quiet page (do
      completed .secondaryAudit
      return result) result :=
    (quiet_completed page .secondaryAudit).bind (.pure _)
  obtain ⟨w', told⟩ : ∃ w', Yields page (do
      if p.config.secondary.enabled && result.isDegraded then
        Scan.count .degraded
        Scan.tell (.secondaryDegraded (result.details.getD ""))
      completed .secondaryAudit
      return result) w₁ [] result w' := by
    by_cases hdegraded : (p.config.secondary.enabled && result.isDegraded) = true
    · rw [if_pos hdegraded]
      exact ((Quiet.notice page _).bind ((Quiet.notice page _).bind told)) w₁
    · rw [if_neg hdegraded]
      exact told w₁
  refine ⟨result, w', ?_, told.heard.page_eq.trans hpage, told.heard.calls_eq.trans hcalls,
    told.heard.engineCalls.trans hengine⟩
  rw [secondaryAudit, Scan.bind_apply, h]
  exact told.run

/-- The transcript of all stages is an itinerary, whatever the page does. -/
theorem stages_itinerary (url : String) (endpoint : BrowserEndpoint) (w : World σ) :
    ∃ es r w', p.stages page endpoint url w = (r, w') ∧ Conversation page w.page es w'.page ∧
      w'.calls = w.calls ++ es.map Exchange.entry ∧ Itinerary p url es (r.map Findings.audit) ∧
      w'.engineCalls = w.engineCalls ++ p.engineRequests url endpoint r := by
  obtain ⟨es, r, w₁, h, hes⟩ := yields_inspect p page url w
  rcases r with err | ⟨capture, audit⟩
  · have h : Yields page (p.stages page endpoint url) w es (.error err) w₁ :=
      h.bind_quiet (.pure page _ w₁)
    exact ⟨es, .error err, w₁, h.run, h.heard.conversation, h.heard.calls, hes,
      h.heard.engineCalls.trans (List.append_nil _).symm⟩
  · obtain ⟨u, correlation, w₂, h', hu⟩ := yields_correlate p page w₁ audit
    obtain ⟨secondary, w₃, hrun, hpage, hcalls, hengine⟩ :=
      secondaryAudit_keeps p page url endpoint w₂
    have heard := h.heard.trans h'.heard
    refine ⟨es ++ u, .ok ⟨capture, audit, correlation, secondary⟩, w₃, ?_, ?_, ?_, hes u hu, ?_⟩
    · rw [stages, Scan.bind_apply, h.run]
      show (p.correlate page audit >>= _) w₁ = _
      rw [Scan.bind_apply, h'.run]
      show (p.secondaryAudit url endpoint >>= _) w₂ = _
      rw [Scan.bind_apply, hrun]
      rfl
    · rw [hpage]
      exact heard.conversation
    · rw [hcalls]
      exact heard.calls
    · rw [hengine, heard.engineCalls]
      rfl

theorem quiet_conclude (identity : ScanIdentity) (request : ScanRequest)
    (r : Except ScanError Findings) :
    Quiet page (conclude identity request r) (r.map (·.report identity request)) := by
  rcases r with err | findings
  · exact (Quiet.notice page _).bind ((Quiet.notice page _).bind (.pure _))
  · exact (Quiet.notice page _).bind ((Quiet.notice page _).bind (.pure _))

/-- A run has one transcript with its page, which is an itinerary that ends as the run does. There
is a report exactly if the page gave what the stages need, and without one the second engine is not
asked. -/
theorem run_itinerary (identity : ScanIdentity) (endpoint : BrowserEndpoint) (request : ScanRequest)
    (s : σ) :
    ∃ es r w, p.run identity page endpoint request (World.start s) = (r, w) ∧
      Conversation page s es w.page ∧ w.calls = es.map Exchange.entry ∧
      Itinerary p request.url es (r.map ScanReport.audit) ∧
      ((∃ report, r = .ok report) ↔ Served p request.url es) ∧
      w.engineCalls = p.engineRequests request.url endpoint r := by
  obtain ⟨w₁, counted⟩ := Quiet.notice page (.counter .started) (World.start s)
  obtain ⟨w₂, told⟩ := Quiet.notice page (.event (.started request.url)) w₁
  obtain ⟨es, r, w₃, hstages, hconversation, hcalls, hitinerary, hengine⟩ :=
    stages_itinerary p page request.url endpoint w₂
  obtain ⟨w₄, concluded⟩ := quiet_conclude page identity request r w₃
  have started := counted.heard.trans told.heard
  rw [started.page_eq, ← concluded.heard.page_eq] at hconversation
  rw [started.calls_eq, ← concluded.heard.calls_eq] at hcalls
  rw [started.engineCalls, ← concluded.heard.engineCalls] at hengine
  refine ⟨es, r.map (·.report identity request), w₄, ?_, hconversation, hcalls, ?_, ?_, ?_⟩
  · rw [run, Scan.count, Scan.bind_apply, counted.run]
    show (Scan.tell (.started request.url) >>= _) w₁ = _
    rw [Scan.tell, Scan.bind_apply, told.run]
    show (p.stages page endpoint request.url >>= _) w₂ = _
    rw [Scan.bind_apply, hstages]
    exact concluded.run
  · rcases r with err | findings
    · exact hitinerary
    · exact hitinerary
  · rw [← hitinerary.reported_iff]
    rcases r with err | findings
    · exact ⟨by rintro ⟨_, ⟨⟩⟩, by rintro ⟨_, ⟨⟩⟩⟩
    · exact ⟨fun _ => ⟨_, rfl⟩, fun _ => ⟨_, rfl⟩⟩
  · rcases r with err | findings
    · exact hengine
    · exact hengine

end Whole

end Pipeline

end PageScan

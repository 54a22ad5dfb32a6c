import Mathlib.Tactic.Set
import PageScan.Proofs.Scan.Notices
import PageScan.Proofs.Scan.Run

/-!
# The story of a scan

A scan makes its course known by events and by counters, and both are scattered over its stages.
They tell the same story as its outcome and as its transcript with the page.

* `Story`: what events and counts have to do with outcome and transcript.
* `Tale`: the notices of the stages, by how far the scan got. Its parts are `Chapter`s.
* `stages_tale`: every scan has its tale, whatever the page and the second engine do.
* `run_story`: every run has its story.
-/

namespace PageScan

variable {σ α : Type}

/-! ## Which events there are -/

/-- The stages of a scan in their order. -/
def Stage.all : List Stage :=
  [.navigate, .stabilize, .capture, .audit, .correlate, .secondaryAudit]

/-- What the stages are called, in their order. -/
def Stage.names : List String :=
  ["navigate", "stabilize", "capture", "audit", "correlate", "secondary_audit"]

theorem Stage.map_name_all : Stage.all.map Stage.name = Stage.names :=
  rfl

namespace ScanEvent

/-- The event begins or ends a story. -/
@[simp]
def IsFrame : ScanEvent → Prop
  | .started _ | .finished .. | .failed .. => True
  | _ => False

/-- The stage that is over with an event. -/
@[simp]
def completed? : ScanEvent → Option String
  | .stageCompleted stage => some stage
  | _ => none

/-- What an event tells of elements that were looked up: how many were found, and how many not. -/
@[simp]
def correlated? : ScanEvent → Option (Nat × Nat)
  | .heatmapCorrelated points dropped => some (points, dropped)
  | _ => none

/-- The event that ends the story of a scan with this outcome. -/
def ending : Except ScanError ScanReport → ScanEvent
  | .ok report => .finished report.audit.violations.length report.heatmap.length
  | .error e => .failed e.kind e.message

end ScanEvent

namespace Pipeline

open Scan (Silent Yields Asked)

/-- The page was loaded by the relaxed attempt after the strict one had failed. -/
structure FellBack (p : Pipeline) (url : String) (es : List Exchange) : Prop where
  strict : ∃ e ∈ es, ∃ err,
    Attempt url .networkIdle p.config.navigation.strictTimeoutMs (.error err) e
  relaxed : ∃ e ∈ es, ∃ outcome,
    Attempt url .domContentLoaded p.config.navigation.relaxedTimeoutMs (.ok outcome) e

/-- How many of the elements of an audit are not in the heatmap. Without a report no element was
looked up. -/
def nodesDropped : Except ScanError ScanReport → Nat
  | .ok report => report.audit.nodeCount - report.heatmap.length
  | .error _ => 0

/-- What has to be told of the elements that were looked up. -/
def correlationsOf : Except ScanError ScanReport → List (Nat × Nat)
  | .ok report => [(report.heatmap.length, nodesDropped (.ok report))]
  | .error _ => []

/-- Events and counts tell of a scan what its outcome and its transcript tell. -/
structure Story (p : Pipeline) (url : String) (es : List Exchange)
    (outcome : Except ScanError ScanReport) (events : List ScanEvent) (growth : Metrics) :
    Prop where
  /-- The first event begins the story; the last one, and no other, ends it. -/
  framed : ∃ middle, events = .started url :: middle ++ [.ending outcome] ∧
    ∀ e ∈ middle, ¬e.IsFrame
  stages : events.filterMap ScanEvent.completed? <+: Stage.names
  stages_all_iff : events.filterMap ScanEvent.completed? = Stage.names ↔
    ∃ report, outcome = .ok report
  started : growth.started = 1
  concluded : (growth.completed, growth.failed) =
    match outcome with
    | .ok _ => (1, 0)
    | .error _ => (0, 1)
  fallbacks_le : growth.fallbacks ≤ 1
  fallbacks_iff : growth.fallbacks = 1 ↔ FellBack p url es
  fallback_told_iff : (∃ reason, .navigationFallback reason ∈ events) ↔ FellBack p url es
  correlations : events.filterMap ScanEvent.correlated? = correlationsOf outcome
  dropped : growth.dropped = nodesDropped outcome
  degraded_le : growth.degraded ≤ 1
  degraded_iff : growth.degraded = 1 ↔ p.config.secondary.enabled = true ∧
    ∃ report, outcome = .ok report ∧ report.secondaryAudit.isDegraded = true
  degraded_told_iff : (∃ details, .secondaryDegraded details ∈ events) ↔
    p.config.secondary.enabled = true ∧
      ∃ report, outcome = .ok report ∧ report.secondaryAudit.isDegraded = true

/-! ## The page was loaded at the second attempt -/

section Loads

variable {p : Pipeline} {url : String} {es : List Exchange}

/-- An attempt under one policy is no attempt under the other. -/
theorem Attempt.policy_unique {policy policy' : WaitPolicy} {limitMs limitMs' : Nat}
    {result result' : Except PageError NavigationOutcome} {e : Exchange}
    (h : Attempt url policy limitMs result e) (h' : Attempt url policy' limitMs' result' e) :
    policy = policy' :=
  (PageCall.navigate.inj ((Asked.call_eq h).symm.trans (Asked.call_eq h'))).2.1

/-- Whether it was so is a matter of the exchanges that load the page. -/
theorem FellBack.congr {es' : List Exchange}
    (h : ∀ e, Part.ofCall e.call = .loading → (e ∈ es ↔ e ∈ es')) :
    FellBack p url es ↔ FellBack p url es' := by
  have hmem {P : Exchange → Prop} (hP : ∀ e, P e → Part.ofCall e.call = .loading) :
      (∃ e ∈ es, P e) ↔ ∃ e ∈ es', P e :=
    exists_congr fun e => and_congr_left fun hp => h e (hP e hp)
  refine ⟨fun hes => ⟨(hmem ?_).1 hes.strict, (hmem ?_).1 hes.relaxed⟩,
    fun hes => ⟨(hmem ?_).2 hes.strict, (hmem ?_).2 hes.relaxed⟩⟩
  all_goals
    rintro e ⟨result, hattempt⟩
    exact part_of_asked hattempt

theorem apart_nil (part : Part) : Apart part [] :=
  fun _ he => absurd he List.not_mem_nil

theorem fellBack_iff_of_apart {before after : List Exchange} (hbefore : Apart .loading before)
    (hafter : Apart .loading after) :
    FellBack p url (before ++ (es ++ after)) ↔ FellBack p url es := by
  refine FellBack.congr fun e he => ?_
  have hnot_before : e ∉ before := fun hmem => hbefore e hmem he
  have hnot_after : e ∉ after := fun hmem => hafter e hmem he
  simp [hnot_before, hnot_after]

theorem not_fellBack_of_apart (h : Apart .loading es) : ¬FellBack p url es := by
  rintro ⟨⟨e, he, err, hattempt⟩, -⟩
  exact h e he (part_of_asked hattempt)

/-- A page that was loaded was loaded at the second attempt exactly if there were two. -/
theorem Loading.fellBack_iff (h : Loading p url es (.ok ())) :
    FellBack p url es ↔ es.length = 2 := by
  rcases h with hstrict | ⟨hstrict, hrelaxed⟩
  · refine ⟨?_, by simp⟩
    rintro ⟨⟨e, he, err, hattempt⟩, -⟩
    obtain rfl := List.mem_singleton.1 he
    cases Asked.result_unique hstrict hattempt
  · exact ⟨fun _ => rfl, fun _ => ⟨⟨_, by simp, _, hstrict⟩, _, by simp, _, hrelaxed⟩⟩

theorem Loading.not_fellBack {err : ScanError} (h : Loading p url es (.error err)) :
    ¬FellBack p url es := by
  rcases h with _ | _ | ⟨hstrict, hfailed⟩
  rintro ⟨-, e, he, outcome, hrelaxed⟩
  rcases List.mem_cons.1 he with rfl | he
  · cases Attempt.policy_unique hstrict hrelaxed
  · obtain rfl := List.mem_singleton.1 he
    cases Asked.result_unique hfailed hrelaxed

end Loads

/-! ## What the stages make known -/

/-- The end of a stage is made known. -/
def done (stage : Stage) : Notice :=
  .event (.stageCompleted stage.name)

/-- What is made known of a page that was loaded. -/
def loadNotices (report : NavigationReport) : List Notice :=
  (if report.fellBack then
    [.counter .fallbacks, .event (.navigationFallback (report.strictError.getD "unknown"))]
  else []) ++ [done .navigate]

/-- What is made known of the elements that were looked up. -/
def correlationNotices (c : Correlation) : List Notice :=
  (if c.dropped ≠ 0 then [.counter (.dropped c.dropped)] else []) ++
    [.event (.heatmapCorrelated c.points.length c.dropped), done .correlate]

/-- What is made known of the second engine. -/
def secondaryNotices (config : SecondaryConfig) (result : SecondaryResult) : List Notice :=
  (if config.enabled && result.isDegraded then
    [.counter .degraded, .event (.secondaryDegraded (result.details.getD ""))]
  else []) ++ [done .secondaryAudit]

/-- What is made known of the stages, up to the first one that fails. The page told whether it fell
back, unless it was not loaded at all. -/
inductive Tale (p : Pipeline) (url : String) (es : List Exchange) :
    List Notice → Except ScanError Findings → Prop
  | unloaded {err : ScanError} (hload : ¬FellBack p url es) : Tale p url es [] (.error err)
  | uncaptured {err : ScanError} {report : NavigationReport}
      (hload : report.fellBack = true ↔ FellBack p url es) :
      Tale p url es (loadNotices report ++ [done .stabilize]) (.error err)
  | unaudited {err : ScanError} {report : NavigationReport}
      (hload : report.fellBack = true ↔ FellBack p url es) :
      Tale p url es (loadNotices report ++ [done .stabilize, done .capture]) (.error err)
  | complete {findings : Findings} {report : NavigationReport}
      (hload : report.fellBack = true ↔ FellBack p url es)
      (hvisited : findings.correlation.visited = findings.audit.nodeCount) :
      Tale p url es
        (loadNotices report ++ [done .stabilize, done .capture, done .audit] ++
          correlationNotices findings.correlation ++
          secondaryNotices p.config.secondary findings.secondary)
        (.ok findings)

/-! ## A tale makes a story -/

/-- What a part of a tale comes to: the stages that are over with it, how the counts grow, what it
tells of elements that were looked up, and whether it tells that the page fell back and that the
second engine degraded. -/
structure Chapter (ns : List Notice) (stages : List Stage) (growth : Metrics)
    (correlations : List (Nat × Nat)) (fellBack degraded : Bool) : Prop where
  unframed : ∀ e ∈ Notice.events ns, ¬e.IsFrame
  stages : (Notice.events ns).filterMap ScanEvent.completed? = stages.map Stage.name
  growth : Notice.total ns = growth
  correlations : (Notice.events ns).filterMap ScanEvent.correlated? = correlations
  proper : ∀ n ∈ ns, n.IsProper
  fellBack : (∃ reason, .navigationFallback reason ∈ Notice.events ns) ↔ fellBack = true
  degraded : (∃ details, .secondaryDegraded details ∈ Notice.events ns) ↔ degraded = true

namespace Chapter

variable {ns ns' : List Notice} {stages stages' : List Stage} {growth growth' : Metrics}
  {correlations correlations' : List (Nat × Nat)} {fellBack degraded fellBack' degraded' : Bool}

theorem append (h : Chapter ns stages growth correlations fellBack degraded)
    (h' : Chapter ns' stages' growth' correlations' fellBack' degraded') :
    Chapter (ns ++ ns') (stages ++ stages') (growth + growth') (correlations ++ correlations')
      (fellBack || fellBack') (degraded || degraded') where
  unframed := by
    rw [Notice.events_append]
    exact List.forall_mem_append.2 ⟨h.unframed, h'.unframed⟩
  stages := by
    rw [Notice.events_append, List.filterMap_append, h.stages, h'.stages, List.map_append]
  growth := by rw [Notice.total_append, h.growth, h'.growth]
  correlations := by
    rw [Notice.events_append, List.filterMap_append, h.correlations, h'.correlations]
  proper := List.forall_mem_append.2 ⟨h.proper, h'.proper⟩
  fellBack := by
    simp only [Notice.events_append, List.mem_append, exists_or, h.fellBack, h'.fellBack,
      Bool.or_eq_true]
  degraded := by
    simp only [Notice.events_append, List.mem_append, exists_or, h.degraded, h'.degraded,
      Bool.or_eq_true]

theorem nil : Chapter [] [] {} [] false false :=
  ⟨by simp, rfl, rfl, rfl, by simp, by simp, by simp⟩

theorem done (stage : Stage) : Chapter [done stage] [stage] {} [] false false :=
  ⟨by simp [Pipeline.done], rfl, rfl, rfl, by simp [Pipeline.done, Notice.IsProper],
    by simp [Pipeline.done], by simp [Pipeline.done]⟩

theorem fallback (reason : String) :
    Chapter [.counter .fallbacks, .event (.navigationFallback reason)] [] { fallbacks := 1 } []
      true false :=
  ⟨by simp, rfl, rfl, rfl, by simp [Notice.IsProper], by simp, by simp⟩

theorem drop {n : Nat} (hn : n ≠ 0) :
    Chapter [.counter (.dropped n)] [] { dropped := n } [] false false :=
  ⟨by simp, rfl, rfl, rfl, by simp [Notice.IsProper, hn], by simp, by simp⟩

theorem correlate (points dropped : Nat) :
    Chapter [.event (.heatmapCorrelated points dropped)] [] {} [(points, dropped)] false false :=
  ⟨by simp, rfl, rfl, rfl, by simp [Notice.IsProper], by simp, by simp⟩

theorem degrade (details : String) :
    Chapter [.counter .degraded, .event (.secondaryDegraded details)] [] { degraded := 1 } []
      false true :=
  ⟨by simp, rfl, rfl, rfl, by simp [Notice.IsProper], by simp, by simp⟩

theorem load (report : NavigationReport) :
    Chapter (loadNotices report) [.navigate] { fallbacks := report.fellBack.toNat } []
      report.fellBack false := by
  rw [loadNotices]
  cases report.fellBack
  · exact nil.append (done .navigate)
  · exact (fallback _).append (done .navigate)

theorem correlation (c : Correlation) :
    Chapter (correlationNotices c) [.correlate] { dropped := c.dropped }
      [(c.points.length, c.dropped)] false false := by
  have told := (correlate c.points.length c.dropped).append (done .correlate)
  rw [correlationNotices]
  by_cases h : c.dropped = 0
  · rw [if_neg (not_not_intro h), h]
    exact nil.append (h ▸ told)
  · rw [if_pos h]
    exact (drop h).append told

theorem secondary (config : SecondaryConfig) (result : SecondaryResult) :
    Chapter (secondaryNotices config result) [.secondaryAudit]
      { degraded := (config.enabled && result.isDegraded).toNat } [] false
      (config.enabled && result.isDegraded) := by
  rw [secondaryNotices]
  cases config.enabled && result.isDegraded
  · exact nil.append (done .secondaryAudit)
  · exact (degrade _).append (done .secondaryAudit)

end Chapter

/-- What is made known of the end of a scan. -/
def endNotices : Except ScanError ScanReport → List Notice
  | .ok report => [.counter .completed, .event (.ending (.ok report))]
  | .error e => [.counter .failed, .event (.ending (.error e))]

/-- What is made known of a whole scan. -/
def allNotices (url : String) (ns : List Notice) (outcome : Except ScanError ScanReport) :
    List Notice :=
  [.counter .started, .event (.started url)] ++ ns ++ endNotices outcome

theorem events_allNotices (url : String) (ns : List Notice)
    (outcome : Except ScanError ScanReport) :
    Notice.events (allNotices url ns outcome) =
      .started url :: Notice.events ns ++ [.ending outcome] := by
  rw [allNotices, Notice.events_append, Notice.events_append]
  cases outcome <;> rfl

theorem proper_allNotices {url : String} {ns : List Notice}
    {outcome : Except ScanError ScanReport} (h : ∀ n ∈ ns, n.IsProper) :
    ∀ n ∈ allNotices url ns outcome, n.IsProper := by
  have hopening : ∀ n ∈ [.counter .started, .event (.started url)], Notice.IsProper n := by
    simp [Notice.IsProper]
  have hend : ∀ n ∈ endNotices outcome, n.IsProper := by
    cases outcome <;> simp [endNotices, Notice.IsProper]
  exact List.forall_mem_append.2 ⟨List.forall_mem_append.2 ⟨hopening, h⟩, hend⟩

theorem total_allNotices (url : String) (ns : List Notice)
    (outcome : Except ScanError ScanReport) :
    Notice.total (allNotices url ns outcome) =
      { Notice.total ns with
        started := 1 + (Notice.total ns).started
        completed := (Notice.total ns).completed + (Notice.total (endNotices outcome)).completed
        failed := (Notice.total ns).failed + (Notice.total (endNotices outcome)).failed } := by
  rw [allNotices, Notice.total_append, Notice.total_append]
  cases outcome <;> simp [endNotices, Notice.total, Notice.growth, Metrics.add_def, Metrics.add]

section Whole

variable {p : Pipeline} {url : String} {es : List Exchange} {outcome : Except ScanError ScanReport}
  {ns : List Notice} {stages : List Stage} {growth : Metrics} {fellBack degraded : Bool}

/-- The chapters of the stages, and what begins and ends the scan, make a story. -/
theorem Chapter.story
    (h : Chapter ns stages growth (correlationsOf outcome) fellBack degraded)
    (hgrowth : growth =
      { fallbacks := fellBack.toNat, dropped := nodesDropped outcome, degraded := degraded.toNat })
    (hstages : stages <+: Stage.all)
    (hall : stages.map Stage.name = Stage.names ↔ ∃ report, outcome = .ok report)
    (hfellBack : fellBack = true ↔ FellBack p url es)
    (hdegraded : degraded = true ↔ p.config.secondary.enabled = true ∧
      ∃ report, outcome = .ok report ∧ report.secondaryAudit.isDegraded = true) :
    Story p url es outcome (Notice.events (allNotices url ns outcome))
      (Notice.total (allNotices url ns outcome)) := by
  have hcompleted : (Notice.events (allNotices url ns outcome)).filterMap ScanEvent.completed? =
      stages.map Stage.name := by
    rw [events_allNotices, List.cons_append, List.filterMap_cons_none rfl, List.filterMap_append,
      h.stages]
    cases outcome <;> exact List.append_nil _
  rw [total_allNotices, h.growth, hgrowth]
  constructor
  case framed => exact ⟨_, events_allNotices url ns outcome, h.unframed⟩
  case stages =>
    rw [hcompleted, ← Stage.map_name_all]
    exact hstages.map Stage.name
  case stages_all_iff => rw [hcompleted, hall]
  case started => rfl
  case concluded => cases outcome <;> rfl
  case fallbacks_le => exact Bool.toNat_le fellBack
  case fallbacks_iff => simpa using hfellBack
  case fallback_told_iff =>
    rw [← hfellBack, ← h.fellBack, events_allNotices]
    cases outcome <;> simp [ScanEvent.ending]
  case dropped => rfl
  case correlations =>
    rw [events_allNotices, List.cons_append, List.filterMap_cons_none rfl, List.filterMap_append,
      h.correlations]
    cases outcome <;> rfl
  case degraded_le => exact Bool.toNat_le degraded
  case degraded_iff => simpa using hdegraded
  case degraded_told_iff =>
    rw [← hdegraded, ← h.degraded, events_allNotices]
    cases outcome <;> simp [ScanEvent.ending]

/-- The chapters of stages of which the last one failed. -/
theorem Chapter.story_error {err : ScanError}
    (h : Chapter ns stages { fallbacks := fellBack.toNat } [] fellBack false)
    (hstages : stages <+: Stage.all)
    (hnot_all : stages.map Stage.name ≠ Stage.names)
    (hfellBack : fellBack = true ↔ FellBack p url es) :
    Story p url es (.error err) (Notice.events (allNotices url ns (.error err)))
      (Notice.total (allNotices url ns (.error err))) := by
  have h : Chapter ns stages _ (correlationsOf (.error err)) fellBack false := h
  exact h.story rfl hstages (by simp [hnot_all]) hfellBack (by simp)

theorem Tale.story {r : Except ScanError Findings} (h : Tale p url es ns r)
    (identity : ScanIdentity) (request : ScanRequest) :
    (∀ n ∈ ns, n.IsProper) ∧ Story p url es (r.map (·.report identity request))
      (Notice.events (allNotices url ns (r.map (·.report identity request))))
      (Notice.total (allNotices url ns (r.map (·.report identity request)))) := by
  cases h with
  | unloaded hload =>
    have h : Chapter [] [] { fallbacks := false.toNat } [] false false := .nil
    exact ⟨h.proper, h.story_error (by decide) (by decide) (by simpa using hload)⟩
  | @uncaptured err report hload =>
    have h : Chapter (loadNotices report ++ [Pipeline.done .stabilize]) [.navigate, .stabilize]
        { fallbacks := report.fellBack.toNat } [] report.fellBack false := by
      simpa using (Chapter.load report).append (.done .stabilize)
    exact ⟨h.proper, h.story_error (by decide) (by decide) hload⟩
  | @unaudited err report hload =>
    have h : Chapter (loadNotices report ++ [Pipeline.done .stabilize, Pipeline.done .capture])
        [.navigate, .stabilize, .capture] { fallbacks := report.fellBack.toNat } []
        report.fellBack false := by
      simpa using (Chapter.load report).append
        ((Chapter.done .stabilize).append (.done .capture))
    exact ⟨h.proper, h.story_error (by decide) (by decide) hload⟩
  | @complete f report hload hvisited =>
    have h : Chapter _ Stage.all _ [(f.correlation.points.length, f.correlation.dropped)] _ _ :=
      (((Chapter.load report).append ((Chapter.done .stabilize).append
        ((Chapter.done .capture).append (.done .audit)))).append
          (.correlation f.correlation)).append (.secondary p.config.secondary f.secondary)
    have hdropped : f.correlation.dropped =
        nodesDropped (.ok (f.report identity request)) := by
      rw [Correlation.dropped, hvisited]
      rfl
    have hcorrelations : [(f.correlation.points.length, f.correlation.dropped)] =
        correlationsOf (.ok (f.report identity request)) := by
      rw [hdropped]
      rfl
    rw [hcorrelations] at h
    refine ⟨h.proper, h.story ?_ (List.prefix_refl Stage.all) ?_ ?_ ?_⟩
    · simp [Metrics.add_def, Metrics.add, hdropped]
    · exact iff_of_true rfl ⟨_, rfl⟩
    · simpa using hload
    · simp [Findings.report]

end Whole

/-! ## The stages keep to their tale -/

/-- Without the page this is made known, and then this result is there. -/
def Announces (page : Page σ) (m : Scan σ α) (ns : List Notice) (a : α) : Prop :=
  ∀ w, ∃ w', Yields page m w [] a w' ∧ Told w ns w'

namespace Announces

variable {page : Page σ} {ns : List Notice}

theorem pure (a : α) : Announces page (Pure.pure a) [] a :=
  fun w => ⟨w, .pure page a w, (List.append_nil _).symm⟩

/-- One thing is made known before others. -/
theorem notice (n : Notice) {m : Scan σ α} {a : α} (h : Announces page m ns a) :
    Announces page (Scan.notice n >>= fun _ => m) (n :: ns) a := by
  intro w
  set w₁ : World σ := { w with notices := w.notices ++ [(w.now, n)] } with hw₁
  have hnoticed : Yields page (Scan.notice n) w [] () w₁ :=
    ⟨rfl, .quiet page w w.now (w.notices ++ [(w.now, n)])⟩
  have htold : Told w [n] w₁ := by simp [Told, hw₁]
  obtain ⟨w', h, htold'⟩ := h w₁
  exact ⟨w', hnoticed.quiet_bind h, htold.trans htold'⟩

end Announces

variable (p : Pipeline) (page : Page σ) (url : String) (w : World σ)

theorem tells_navigate :
    ∃ es ns r w', Yields page (p.navigate page url) w es r w' ∧ Told w ns w' ∧
      Loading p url es (r.map fun _ => ()) ∧
      match r with
      | .error _ => ns = []
      | .ok report => ns = loadNotices report ∧ (report.fellBack = true ↔ FellBack p url es) := by
  obtain ⟨es, r, w₁, h, loading, hfellBack⟩ := yields_scan_navigate p page url w
  have htold := (Scan.silent_navigate page url p.config.navigation).told h.run
  rcases r with err | report
  · exact ⟨es, [], .error err, w₁, h.bind_quiet (.pure page _ w₁), htold, loading, rfl⟩
  · have announced : Announces page (do
        if report.fellBack then
          Scan.count .fallbacks
          Scan.tell (.navigationFallback (report.strictError.getD "unknown"))
        completed .navigate
        return (.ok report : Except ScanError NavigationReport)) (loadNotices report)
        (.ok report) := by
      rw [loadNotices]
      split
      · exact .notice _ (.notice _ (.notice _ (.pure _)))
      · exact .notice _ (.pure _)
    obtain ⟨w', announced, htold'⟩ := announced w₁
    exact ⟨es, loadNotices report, .ok report, w', h.bind_quiet announced, htold.trans htold',
      loading, rfl, (hfellBack report rfl).trans loading.fellBack_iff.symm⟩

theorem tells_correlate (audit : AuditResult) :
    ∃ es c w', Yields page (p.correlate page audit) w es c w' ∧ Told w (correlationNotices c) w' ∧
      LookingUp es ∧ c.visited = audit.nodeCount := by
  obtain ⟨es, c, w₁, h, hes, hvisited⟩ := yields_scan_correlate p page w audit
  have htold := (Scan.silent_correlate page p.config.correlation audit).told h.run
  have announced : Announces page (do
      if c.dropped ≠ 0 then Scan.count (.dropped c.dropped)
      Scan.tell (.heatmapCorrelated c.points.length c.dropped)
      completed .correlate
      return c) (correlationNotices c) c := by
    rw [correlationNotices]
    split
    · exact .notice _ (.notice _ (.notice _ (.pure _)))
    · exact .notice _ (.notice _ (.pure _))
  obtain ⟨w', announced, htold'⟩ := announced w₁
  exact ⟨es, c, w', h.bind_quiet announced, htold.trans htold', hes, hvisited⟩

include page in
theorem tells_secondaryAudit (endpoint : BrowserEndpoint) :
    ∃ result w', p.secondaryAudit url endpoint w = (result, w') ∧ w'.page = w.page ∧
      w'.calls = w.calls ∧ Told w (secondaryNotices p.config.secondary result) w' := by
  obtain ⟨result, w₁, h, hpage, hcalls, -⟩ := scan_secondaryAudit_keeps p url endpoint w
  have htold := (Scan.silent_secondaryAudit _ url endpoint p.config.secondary).told h
  have announced : Announces page (do
      if p.config.secondary.enabled && result.isDegraded then
        Scan.count .degraded
        Scan.tell (.secondaryDegraded (result.details.getD ""))
      completed .secondaryAudit
      return result) (secondaryNotices p.config.secondary result) result := by
    rw [secondaryNotices]
    split
    · exact .notice _ (.notice _ (.notice _ (.pure _)))
    · exact .notice _ (.pure _)
  obtain ⟨w', announced, htold'⟩ := announced w₁
  refine ⟨result, w', ?_, announced.heard.page_eq.trans hpage,
    announced.heard.calls_eq.trans hcalls, htold.trans htold'⟩
  rw [secondaryAudit, Scan.bind_apply, h]
  exact announced.run

theorem silent_install : Silent (p.install page url) := by
  refine (Silent.ask page _ _ _).bind ?_
  rintro (failure | ⟨⟩)
  · exact .pure _
  · exact .pure _

theorem announces_completed (stage : Stage) :
    Announces page (completed stage) [done stage] () :=
  .notice _ (.pure ())

/-- The notices of the stages that can end a scan, if they do and if they do not. -/
theorem tells_inspect :
    ∃ es ns r w', Yields page (p.inspect page url) w es r w' ∧ Told w ns w' ∧
      match r with
      | .error err => Tale p url es ns (.error err)
      | .ok _ => ∃ report : NavigationReport,
        ns = loadNotices report ++ [done .stabilize, done .capture, done .audit] ∧
          (report.fellBack = true ↔ FellBack p url es) := by
  obtain ⟨i, r, w₁, hinstall, hi⟩ := yields_install p page url w
  have told₁ := (silent_install p page url).told hinstall.run
  have apart_i := apart_of_part hi.part (by decide : Part.installing ≠ .loading)
  rcases r with err | ⟨⟩
  · exact ⟨i, [], .error err, w₁, hinstall.bind_quiet (.pure page _ w₁), told₁,
      .unloaded (not_fellBack_of_apart apart_i)⟩
  obtain ⟨l, ns, r, w₂, hload, told₂, hl, hr⟩ := tells_navigate p page url w₁
  have told₂ := told₁.trans told₂
  rcases r with err | report
  · subst hr
    refine ⟨i ++ l, [], .error err, w₂, hinstall.bind (hload.bind_quiet (.pure page _ w₂)),
      told₂, .unloaded fun h => hl.not_fellBack ?_⟩
    rw [← List.append_nil l] at h
    exact (fellBack_iff_of_apart apart_i (apart_nil _)).1 h
  obtain ⟨rfl, hreport⟩ := hr
  obtain ⟨r, rest, w₃, hrest, hr⟩ := yields_stabilize p page w₂
  have told₃ := told₂.trans ((Scan.silent_stabilize page _).told hrest.run)
  have apart_r := apart_of_part hr.part (by decide : Part.resting ≠ .loading)
  obtain ⟨w₄, stabilized, told₄⟩ := announces_completed page .stabilize w₃
  have told₄ := told₃.trans told₄
  obtain ⟨c, result, w₅, hcapture, hc⟩ := yields_capture p page url w₄
  have told₅ := told₄.trans ((Scan.silent_capture page _ url).told hcapture.run)
  have apart_c := apart_of_part hc.part (by decide : Part.capturing ≠ .loading)
  have loaded (after : List Exchange) (hafter : Apart .loading after) :
      report.fellBack = true ↔ FellBack p url (i ++ (l ++ after)) :=
    hreport.trans (fellBack_iff_of_apart apart_i hafter).symm
  rcases result with err | capture
  · refine ⟨i ++ (l ++ (r ++ c)), _, .error err, w₅, ?_, told₅, ?_⟩
    · exact hinstall.bind (hload.bind (hrest.bind (stabilized.quiet_bind
        (hcapture.bind_quiet (.pure page _ w₅)))))
    · simpa using Tale.uncaptured (loaded _ (apart_r.append apart_c))
  obtain ⟨w₆, captured, told₆⟩ := announces_completed page .capture w₅
  have told₆ := told₅.trans told₆
  obtain ⟨a, result, w₇, haudit, ha⟩ := yields_audit p page url w₆
  have told₇ := told₆.trans ((Scan.silent_audit page p.ruleEngine _ url).told haudit.run)
  have apart_a := apart_of_part ha.part (by decide : Part.auditing ≠ .loading)
  have loaded := loaded (r ++ (c ++ a)) (apart_r.append (apart_c.append apart_a))
  rcases result with err | audit
  · refine ⟨i ++ (l ++ (r ++ (c ++ a))), _, .error err, w₇, ?_, told₇, ?_⟩
    · exact hinstall.bind (hload.bind (hrest.bind (stabilized.quiet_bind
        (hcapture.bind (captured.quiet_bind (haudit.bind_quiet (.pure page _ w₇)))))))
    · simpa using Tale.unaudited loaded
  obtain ⟨w₈, audited, told₈⟩ := announces_completed page .audit w₇
  refine ⟨i ++ (l ++ (r ++ (c ++ a))), _, .ok (capture, audit), w₈, ?_, told₇.trans told₈,
    report, by simp, loaded⟩
  exact hinstall.bind (hload.bind (hrest.bind (stabilized.quiet_bind
    (hcapture.bind (captured.quiet_bind (haudit.bind_quiet
      (audited.quiet_bind (.pure page _ w₈))))))))

/-- The stages make known how far they got, whatever the page and the second engine do. -/
theorem stages_tale (endpoint : BrowserEndpoint) :
    ∃ es ns r w', p.stages page endpoint url w = (r, w') ∧ Conversation page w.page es w'.page ∧
      w'.calls = w.calls ++ es.map Exchange.entry ∧ Told w ns w' ∧ Tale p url es ns r := by
  obtain ⟨es, ns, r, w₁, h, told, tale⟩ := tells_inspect p page url w
  rcases r with err | ⟨capture, audit⟩
  · have h : Yields page (p.stages page endpoint url) w es (.error err) w₁ :=
      h.bind_quiet (.pure page _ w₁)
    exact ⟨es, ns, .error err, w₁, h.run, h.heard.conversation, h.heard.calls, told, tale⟩
  · obtain ⟨report, rfl, hreport⟩ := tale
    obtain ⟨u, c, w₂, h', told', hu, hvisited⟩ := tells_correlate p page w₁ audit
    obtain ⟨secondary, w₃, hrun, hpage, hcalls, told''⟩ :=
      tells_secondaryAudit p page url w₂ endpoint
    have heard := h.heard.trans h'.heard
    have apart_u := apart_of_part hu.part (by decide : Part.lookingUp ≠ .loading)
    have loaded : report.fellBack = true ↔ FellBack p url (es ++ u) :=
      hreport.trans (fellBack_iff_of_apart (apart_nil _) apart_u).symm
    have tale : Tale p url (es ++ u) _ (.ok ⟨capture, audit, c, secondary⟩) :=
      .complete loaded hvisited
    refine ⟨es ++ u, _, .ok ⟨capture, audit, c, secondary⟩, w₃, ?_, hpage ▸ heard.conversation,
      hcalls.trans heard.calls, (told.trans told').trans told'', tale⟩
    rw [stages, Scan.bind_apply, h.run]
    show (p.correlate page audit >>= _) w₁ = _
    rw [Scan.bind_apply, h'.run]
    show (p.secondaryAudit url endpoint >>= _) w₂ = _
    rw [Scan.bind_apply, hrun]
    rfl

/-- The events of a run and the growth of the counts, whatever they were before, tell the story of
its outcome. -/
theorem run_story (identity : ScanIdentity) (endpoint : BrowserEndpoint) (request : ScanRequest)
    (s : σ) :
    ∃ es r w growth, p.run identity page endpoint request (World.start s) = (r, w) ∧
      Conversation page s es w.page ∧ w.calls = es.map Exchange.entry ∧
      (∀ m : Metrics, m.after w.notices = m.plus growth) ∧
      Story p request.url es r w.events growth := by
  set w₁ : World σ :=
    ⟨0, s, [], [], [(0, .counter .started), (0, .event (.started request.url))]⟩
  obtain ⟨es, ns, r, w₂, hstages, hconversation, hcalls, htold, tale⟩ :=
    stages_tale p page request.url w₁ endpoint
  set outcome := r.map (·.report identity request) with houtcome
  have concluded : Announces page (conclude identity request r) (endNotices outcome) outcome := by
    rw [houtcome]
    cases r with
    | error err => exact .notice _ (.notice _ (.pure _))
    | ok findings => exact .notice _ (.notice _ (.pure _))
  obtain ⟨w, hend, htold'⟩ := concluded w₂
  have hrun : p.run identity page endpoint request (World.start s) = (outcome, w) := by
    show (p.stages page endpoint request.url >>= conclude identity request) w₁ = _
    rw [Scan.bind_apply, hstages]
    exact hend.run
  have hnotices : w.notices.map Prod.snd = allNotices request.url ns outcome :=
    htold.trans htold'
  obtain ⟨hproper, story⟩ := tale.story identity request
  refine ⟨es, outcome, w, Notice.total (allNotices request.url ns outcome), hrun, ?_,
    hend.heard.calls_eq.trans hcalls, fun m => ?_, ?_⟩
  · rw [hend.heard.page_eq]
    exact hconversation
  · rw [m.after_eq w.notices (hnotices ▸ proper_allNotices hproper), hnotices]
  · rw [World.events_eq, hnotices]
    exact story

end Pipeline

end PageScan

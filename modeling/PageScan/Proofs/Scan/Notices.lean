import PageScan.Proofs.Heatmap.Correlation
import PageScan.Proofs.Scan.Transcript
import PageScan.Scan.Pipeline

/-!
# What a scan makes known

Events and counters both go into the notices of a world. The counts grow by what the notices add up
to, whenever they were given. All notices are given by the pipeline; the work of the stages is done
in silence.

* `Metrics.after_eq`: the counts grow by the total of the notices.
* `Told`: from one world to the next this was made known.
* `Silent`: a computation makes nothing known, as `silent_navigate` says of loading a page,
  `silent_stabilize` of bringing it to rest, and so on.
-/

namespace PageScan

/-! ## What notices add up to -/

namespace Metrics

/-- A count that has grown, if at all. -/
def raised (count n : Nat) : Nat :=
  if n = 0 then count else grown count n

theorem raised_raised (count a b : Nat) : raised (raised count a) b = raised count (a + b) := by
  by_cases ha : a = 0
  · simp [raised, ha]
  · by_cases hb : b = 0
    · simp [raised, hb]
    · simp [raised, ha, hb, grown, Nat.add_assoc]

/-- Each count has grown by the other one. -/
def plus (m growth : Metrics) : Metrics where
  started := raised m.started growth.started
  completed := raised m.completed growth.completed
  failed := raised m.failed growth.failed
  fallbacks := raised m.fallbacks growth.fallbacks
  dropped := raised m.dropped growth.dropped
  degraded := raised m.degraded growth.degraded

/-- The counts one by one. -/
protected def add (g g' : Metrics) : Metrics where
  started := g.started + g'.started
  completed := g.completed + g'.completed
  failed := g.failed + g'.failed
  fallbacks := g.fallbacks + g'.fallbacks
  dropped := g.dropped + g'.dropped
  degraded := g.degraded + g'.degraded

instance : Add Metrics := ⟨Metrics.add⟩

theorem add_def (g g' : Metrics) : g + g' = g.add g' :=
  rfl

theorem zero_add (g : Metrics) : ({} : Metrics) + g = g := by
  simp [add_def, Metrics.add]

@[simp]
theorem add_zero (g : Metrics) : g + ({} : Metrics) = g :=
  rfl

theorem add_assoc (g g' g'' : Metrics) : g + g' + g'' = g + (g' + g'') := by
  simp [add_def, Metrics.add, Nat.add_assoc]

theorem plus_plus (m g g' : Metrics) : (m.plus g).plus g' = m.plus (g + g') := by
  simp [plus, add_def, Metrics.add, raised_raised]

end Metrics

namespace Notice

/-- What a notice adds to the counts. -/
def growth : Notice → Metrics
  | .event _ => {}
  | .counter .started => { started := 1 }
  | .counter .completed => { completed := 1 }
  | .counter .failed => { failed := 1 }
  | .counter .fallbacks => { fallbacks := 1 }
  | .counter (.dropped n) => { dropped := n }
  | .counter .degraded => { degraded := 1 }

/-- What notices add to the counts. -/
def total (ns : List Notice) : Metrics :=
  ns.foldr (fun n g => n.growth + g) {}

theorem total_append (ns ns' : List Notice) : total (ns ++ ns') = total ns + total ns' := by
  induction ns with
  | nil => exact (Metrics.zero_add _).symm
  | cons n ns ih =>
    show n.growth + total (ns ++ ns') = n.growth + total ns + total ns'
    rw [ih, Metrics.add_assoc]

/-- The event of a notice. -/
def event? : Notice → Option ScanEvent
  | .event e => some e
  | .counter _ => none

/-- The events among notices. -/
def events (ns : List Notice) : List ScanEvent :=
  ns.filterMap event?

@[simp]
theorem events_nil : events [] = [] :=
  rfl

@[simp]
theorem events_event (e : ScanEvent) (ns : List Notice) :
    events (.event e :: ns) = e :: events ns :=
  rfl

@[simp]
theorem events_counter (c : Counter) (ns : List Notice) : events (.counter c :: ns) = events ns :=
  rfl

theorem events_append (ns ns' : List Notice) : events (ns ++ ns') = events ns ++ events ns' :=
  List.filterMap_append

/-- The counter is not raised for nothing. -/
def IsProper (n : Notice) : Prop :=
  n ≠ .counter (.dropped 0)

end Notice

theorem World.events_eq {σ : Type} (w : World σ) :
    w.events = Notice.events (w.notices.map Prod.snd) := by
  rw [World.events, Notice.events, List.filterMap_map]
  congr
  funext ⟨t, n⟩
  cases n <;> rfl

namespace Metrics

theorem count_eq (m : Metrics) {c : Counter} (hc : Notice.IsProper (.counter c)) :
    m.count c = m.plus (Notice.growth (.counter c)) := by
  cases c with
  | dropped n =>
    have hn : n ≠ 0 := fun h => hc (h ▸ rfl)
    simp [count, plus, Notice.growth, raised, hn]
  | _ => simp [count, plus, Notice.growth, raised]

theorem after_eq (m : Metrics) (notices : List (Nat × Notice))
    (h : ∀ n ∈ notices.map Prod.snd, n.IsProper) :
    m.after notices = m.plus (Notice.total (notices.map Prod.snd)) := by
  induction notices generalizing m with
  | nil => rfl
  | cons n rest ih =>
    obtain ⟨t, n⟩ := n
    obtain ⟨hn, hrest⟩ := List.forall_mem_cons.1 h
    have hstep : m.after ((t, n) :: rest) = (m.plus n.growth).after rest := by
      cases n with
      | event e => rfl
      | counter c => rw [← count_eq m hn]; rfl
    rw [hstep, ih _ hrest, plus_plus]
    rfl

end Metrics

/-! ## What is added to the notices -/

variable {σ α β : Type}

/-- From one world to the next this was made known. -/
def Told (w : World σ) (ns : List Notice) (w' : World σ) : Prop :=
  w'.notices.map Prod.snd = w.notices.map Prod.snd ++ ns

theorem Told.trans {w w' w'' : World σ} {ns ns' : List Notice} (h : Told w ns w')
    (h' : Told w' ns' w'') : Told w (ns ++ ns') w'' := by
  rw [Told] at *
  rw [h', h, List.append_assoc]

namespace Scan

/-- The computation makes nothing known. -/
def Silent (m : Scan σ α) : Prop :=
  ∀ w, (m w).2.notices = w.notices

namespace Silent

variable {m : Scan σ α} {f : α → Scan σ β}

theorem told (h : Silent m) {w w' : World σ} {a : α} (hrun : m w = (a, w')) : Told w [] w' := by
  have hw' : w'.notices = w.notices := by simpa [hrun] using h w
  rw [Told, hw', List.append_nil]

theorem pure (a : α) : Silent (Pure.pure a : Scan σ α) :=
  fun _ => rfl

theorem bind (h : Silent m) (h' : ∀ a, Silent (f a)) : Silent (m >>= f) :=
  fun w => (h' _ _).trans (h w)

theorem mapM {f : α → Scan σ β} (h : ∀ a, Silent (f a)) (as : List α) : Silent (as.mapM f) := by
  induction as with
  | nil => exact .pure _
  | cons a as ih =>
    rw [List.mapM_cons]
    exact (h a).bind fun _ => ih.bind fun _ => .pure _

theorem now : Silent (now : Scan σ Nat) :=
  fun _ => rfl

theorem sleep (ms : Nat) : Silent (sleep ms : Scan σ Unit) :=
  fun _ => rfl

theorem await {ε : Type} (deadline : Nat) (reply : Reply ε α) :
    Silent (await deadline reply : Scan σ _) := by
  intro w
  obtain ⟨now, h⟩ := await_apply deadline reply w
  rw [h]

theorem askBy (page : Page σ) (deadline : Nat) (call : PageCall) :
    Silent (askBy page deadline call) :=
  fun _ => Silent.await _ _ _

theorem ask (page : Page σ) (limitMs : Nat) (operation : String) (call : PageCall) :
    Silent (ask page limitMs operation call) := by
  refine now.bind fun start => (askBy page _ call).bind ?_
  rintro (_ | outcome)
  · exact .pure _
  · exact .pure _

theorem askEngine (engine : SecondaryEngine) (limitMs : Nat) (request : SecondaryRequest) :
    Silent (askEngine engine limitMs request : Scan σ _) :=
  fun _ => Silent.await _ _ _

end Silent

variable (page : Page σ)

theorem silent_navigate (url : String) (config : NavigationConfig) :
    Silent (navigate page url config) := by
  refine (Silent.ask page _ _ _).bind ?_
  rintro (strict | outcome)
  · refine (Silent.ask page _ _ _).bind ?_
    rintro (relaxed | outcome)
    · exact .pure _
    · exact .pure _
  · exact .pure _

theorem silent_sweep (config : StabilizerConfig) (stepsLeft : Nat) (report : StabilizationReport) :
    Silent (sweep page config stepsLeft report) := by
  induction stepsLeft generalizing report with
  | zero => exact .pure _
  | succ stepsLeft ih =>
    refine (Silent.sleep _).bind fun _ => (Silent.ask page _ _ _).bind ?_
    rintro (failure | answer)
    · exact .pure _
    dsimp only
    split
    · exact .pure _
    · exact ih _

theorem silent_stabilize (config : StabilizerConfig) : Silent (stabilize page config) := by
  refine ((Silent.ask page _ _ _).bind ?_).bind fun _ => (Silent.sleep _).bind fun _ =>
    (silent_sweep page _ _ _).bind fun _ => (Silent.ask page _ _ _).bind fun _ =>
      (Silent.sleep _).bind fun _ => .pure _
  rintro (failure | answer)
  · exact .pure _
  · exact .pure _

theorem silent_capture (config : CaptureConfig) (url : String) :
    Silent (capture page config url) := by
  refine (Silent.ask page _ _ _).bind ?_
  rintro (failure | answer)
  · exact .pure _
  dsimp only
  split
  · exact .pure _
  refine (Silent.ask page _ _ _).bind ?_
  rintro (failure | bytes)
  · exact .pure _
  dsimp only
  split
  · exact .pure _
  · exact Silent.now.bind fun _ => .pure _

theorem silent_runBy (deadline : Nat) : Silent (runBy page deadline) := by
  refine (Silent.askBy page _ _).bind ?_
  rintro (_ | styled)
  · exact .pure _
  refine (Silent.askBy page _ _).bind ?_
  rintro (_ | failure | payload)
  · exact .pure _
  · exact .pure _
  · exact .pure _

theorem silent_auditBy (engine : RuleEngine) (deadline : Nat) :
    Silent (auditBy page engine deadline) := by
  refine (Silent.askBy page _ _).bind ?_
  rintro (_ | failure | ⟨⟩)
  · exact .pure _
  · exact .pure _
  refine (Silent.askBy page _ _).bind ?_
  rintro (_ | failure | answer)
  · exact .pure _
  · exact .pure _
  dsimp only
  split
  · exact silent_runBy page deadline
  · exact .pure _

theorem silent_audit (engine : RuleEngine) (config : AuditConfig) (url : String) :
    Silent (audit page engine config url) := by
  refine Silent.now.bind fun start => (silent_auditBy page engine _).bind ?_
  rintro (_ | outcome)
  · exact .pure _
  · exact .pure _

theorem silent_lookUp (lookupTimeoutMs ceiling : Nat) (selector : String) :
    Silent (lookUp page lookupTimeoutMs ceiling selector) := by
  refine Silent.now.bind fun start => ?_
  dsimp only
  split
  · exact .pure _
  · exact (Silent.ask page _ _ _).bind fun _ => .pure _

theorem silent_correlate (config : CorrelationConfig) (audit : AuditResult) :
    Silent (correlate page config audit) := by
  refine Silent.now.bind fun start => ?_
  rw [correlateFrom, Correlation.ofAudit_eq, map_eq_pure_bind]
  refine (Silent.mapM (fun l => ?_) audit.lookups).bind fun _ => .pure _
  rw [Correlation.pointAt, map_eq_pure_bind]
  exact (silent_lookUp page _ _ _).bind fun _ => .pure _

theorem silent_secondaryAudit (engine : SecondaryEngine) (url : String)
    (endpoint : BrowserEndpoint) (config : SecondaryConfig) :
    Silent (secondaryAudit engine url endpoint config : Scan σ _) := by
  rw [secondaryAudit]
  split
  · exact .pure _
  · exact (Silent.askEngine _ _ _).bind fun _ => .pure _

end Scan

end PageScan

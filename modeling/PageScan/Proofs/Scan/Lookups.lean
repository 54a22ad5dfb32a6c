import PageScan.Proofs.Heatmap.Correlation
import PageScan.Proofs.Scan.Waiting
import PageScan.Scan.Correlation

/-!
# Lookups against the clock

The lookups of an audit share a ceiling, and each has a limit of its own, which is cut down to what
is left until the ceiling. So the time that one lookup takes decides how long the next one may take,
and in the end which of them are made at all.

* `Probe`: a lookup that was made, with what the page replied; how long it lasts, and what it finds.
* `Probing`: lookups made one after another, until there are no more or the ceiling is reached.
* `correlateFrom_probed`: correlation is such a course of lookups, and its points are the boxes that
  were found in time.
-/

namespace PageScan

variable {σ : Type}

/-- A lookup that a page was asked for, with the time at which it was asked and its reply. -/
structure Probe where
  lookup : Lookup
  askedAt : Nat
  reply : Reply PageError Json.Value

namespace Probe

/-- The entry of a lookup in the record of calls. -/
def entry (p : Probe) : Nat × PageCall :=
  (p.askedAt, .evaluate (.resolve p.lookup.selector))

variable (lookupTimeoutMs ceiling : Nat) (p : Probe)

/-- How long the reply is waited for. -/
def limitMs : Nat :=
  min lookupTimeoutMs (ceiling - p.askedAt)

/-- How long a lookup lasts. -/
def durationMs : Nat :=
  p.reply.waitMs (p.limitMs lookupTimeoutMs ceiling)

/-- The page gives this box within the limit. -/
structure Finds (g : ElementGeometry) : Prop where
  inTime : p.reply.delayMs ≤ p.limitMs lookupTimeoutMs ceiling
  answered : ∃ answer, p.reply.outcome = some (.ok answer) ∧ answer ≠ .null ∧
    Json.Decoder.decodeValue ElementGeometry.decoder answer = .ok g

/-- The box that the page gives within the limit, if it gives one. -/
def box? : Option ElementGeometry :=
  (p.reply.within? (p.limitMs lookupTimeoutMs ceiling)).bind Scan.foundBox

end Probe

theorem Scan.foundBox_eq_some_iff {r : Except PageError Json.Value} {g : ElementGeometry} :
    Scan.foundBox r = some g ↔ ∃ answer, r = .ok answer ∧ answer ≠ .null ∧
      Json.Decoder.decodeValue ElementGeometry.decoder answer = .ok g := by
  have hdecoded (answer : Json.Value) :
      (Json.Decoder.decodeValue ElementGeometry.decoder answer).toOption = some g ↔
        Json.Decoder.decodeValue ElementGeometry.decoder answer = .ok g := by
    cases Json.Decoder.decodeValue ElementGeometry.decoder answer <;> simp [Except.toOption]
  rcases r with err | answer
  · simp [Scan.foundBox]
  · cases answer <;> simp [Scan.foundBox, hdecoded]

theorem Probe.box?_eq_some_iff {lookupTimeoutMs ceiling : Nat} {p : Probe} {g : ElementGeometry} :
    p.box? lookupTimeoutMs ceiling = some g ↔ p.Finds lookupTimeoutMs ceiling g := by
  rw [Probe.box?, Option.bind_eq_some_iff]
  constructor
  · rintro ⟨r, hr, hbox⟩
    obtain ⟨hintime, houtcome⟩ := Option.ite_none_right_eq_some.1 hr
    obtain ⟨answer, rfl, hanswer⟩ := Scan.foundBox_eq_some_iff.1 hbox
    exact ⟨hintime, answer, houtcome, hanswer⟩
  · rintro ⟨hintime, answer, houtcome, hanswer⟩
    exact ⟨.ok answer, Option.ite_none_right_eq_some.2 ⟨hintime, houtcome⟩,
      Scan.foundBox_eq_some_iff.2 ⟨answer, rfl, hanswer⟩⟩

/-! ## One after another -/

/-- From a moment on, with the page in a state, these lookups are made one after another, each as
soon as the one before is over, and none from the ceiling on. -/
inductive Probing (page : Page σ) (lookupTimeoutMs ceiling : Nat) :
    List Lookup → Nat → σ → List Probe → Nat → σ → Prop
  | done (now : Nat) (s : σ) : Probing page lookupTimeoutMs ceiling [] now s [] now s
  | late {now : Nat} (h : ceiling ≤ now) (lookups : List Lookup) (s : σ) :
      Probing page lookupTimeoutMs ceiling lookups now s [] now s
  | probe {p : Probe} {lookups : List Lookup} {ps : List Probe} {s s₁ s' : σ} {now' : Nat}
      (h : p.askedAt < ceiling)
      (hreply : page.answer (.evaluate (.resolve p.lookup.selector)) s = (p.reply, s₁))
      (rest : Probing page lookupTimeoutMs ceiling lookups
        (p.askedAt + p.durationMs lookupTimeoutMs ceiling) s₁ ps now' s') :
      Probing page lookupTimeoutMs ceiling (p.lookup :: lookups) p.askedAt s (p :: ps) now' s'

namespace Probing

variable {page : Page σ} {lookupTimeoutMs ceiling now now' : Nat} {lookups : List Lookup}
  {s s' : σ} {probes : List Probe}

theorem askedAt_lt (h : Probing page lookupTimeoutMs ceiling lookups now s probes now' s') :
    ∀ p ∈ probes, p.askedAt < ceiling := by
  induction h with
  | done | late => simp
  | probe hlt _ _ ih => exact List.forall_mem_cons.2 ⟨hlt, ih⟩

/-- A lookup that is made is over by the ceiling. -/
theorem now_le (h : Probing page lookupTimeoutMs ceiling lookups now s probes now' s') :
    now' ≤ max now ceiling := by
  induction h with
  | done | late => exact Nat.le_max_left _ _
  | @probe p _ _ _ _ _ _ hlt _ _ ih =>
    have hduration : p.durationMs lookupTimeoutMs ceiling ≤ p.limitMs lookupTimeoutMs ceiling :=
      p.reply.waitMs_le _
    have hlimit : p.limitMs lookupTimeoutMs ceiling ≤ ceiling - p.askedAt := Nat.min_le_right _ _
    omega

theorem lookups_isPrefix (h : Probing page lookupTimeoutMs ceiling lookups now s probes now' s') :
    probes.map Probe.lookup <+: lookups := by
  induction h with
  | done | late => exact List.nil_prefix
  | probe _ _ _ ih => exact List.cons_prefix_cons.2 ⟨rfl, ih⟩

/-- Lookups are left out for the ceiling only. -/
theorem eq_or_ceiling_le
    (h : Probing page lookupTimeoutMs ceiling lookups now s probes now' s') :
    probes.map Probe.lookup = lookups ∨ ceiling ≤ now' := by
  induction h with
  | done => exact .inl rfl
  | late h => exact .inr h
  | probe _ _ _ ih => exact ih.imp_left fun h => by rw [List.map_cons, h]

end Probing

namespace Scan

variable (page : Page σ) (lookupTimeoutMs ceiling : Nat)

/-- From the ceiling on an element counts as not found, and the page is left alone. -/
theorem lookUp_over {w : World σ} (h : ceiling ≤ w.now) (selector : String) :
    lookUp page lookupTimeoutMs ceiling selector w = (none, w) := by
  show (if ceiling - w.now = 0 then (pure none : Scan σ _) else _) w = _
  rw [if_pos (Nat.sub_eq_zero_of_le h)]
  rfl

/-- Before the ceiling the page is asked, and an element is found if its box comes in time. -/
theorem lookUp_asked {w : World σ} {s : σ} {p : Probe} (h : p.askedAt < ceiling)
    (hasked : p.askedAt = w.now)
    (hreply : page.answer (.evaluate (.resolve p.lookup.selector)) w.page = (p.reply, s)) :
    lookUp page lookupTimeoutMs ceiling p.lookup.selector w =
      (p.box? lookupTimeoutMs ceiling,
        w.asked (.evaluate (.resolve p.lookup.selector)) s
          (p.durationMs lookupTimeoutMs ceiling)) := by
  have hfound (answered : Option (Except PageError Json.Value)) (e : PageError) :
      foundBox (answered.getD (.error e)) = answered.bind foundBox := by
    cases answered <;> rfl
  show (if ceiling - w.now = 0 then (pure none : Scan σ _) else _) w = _
  rw [if_neg (by omega), bind_apply, ask_apply _ _ hreply, hfound, ← hasked]
  rfl

/-- A traversal of lookups makes them one after another. -/
theorem mapM_probing (lookups : List Lookup) (w : World σ) :
    ∃ probes found w',
      lookups.mapM (Correlation.pointAt (lookUp page lookupTimeoutMs ceiling)) w = (found, w') ∧
      Probing page lookupTimeoutMs ceiling lookups w.now w.page probes w'.now w'.page ∧
      w'.calls = w.calls ++ probes.map Probe.entry ∧
      found.filterMap id =
        probes.filterMap fun p => p.lookup.point (p.box? lookupTimeoutMs ceiling) := by
  induction lookups generalizing w with
  | nil => exact ⟨[], [], w, rfl, .done _ _, by simp, rfl⟩
  | cons l rest ih =>
    by_cases h : ceiling ≤ w.now
    · -- the clock stands still, so that none of the rest is made either
      have hover (ls : List Lookup) :
          ls.mapM (Correlation.pointAt (lookUp page lookupTimeoutMs ceiling)) w =
            (ls.map fun l => l.point none, w) := by
        induction ls with
        | nil => rfl
        | cons l ls ih =>
          exact Correlation.mapM_cons_apply
            (Correlation.map_apply (lookUp_over page lookupTimeoutMs ceiling h l.selector)) ih
      exact ⟨[], _, w, hover _, .late h _ _, by simp, by simp [Lookup.point]⟩
    · obtain ⟨reply, s₁, hreply⟩ : ∃ reply s₁,
          page.answer (.evaluate (.resolve l.selector)) w.page = (reply, s₁) := ⟨_, _, rfl⟩
      have hlt : w.now < ceiling := Nat.lt_of_not_le h
      have hpoint := Correlation.map_apply (f := l.point)
        (lookUp_asked page lookupTimeoutMs ceiling (p := ⟨l, w.now, reply⟩) hlt rfl hreply)
      obtain ⟨probes, found, w', hrest, hprobing, hcalls, hfound⟩ := ih _
      refine ⟨⟨l, w.now, reply⟩ :: probes, _, w', Correlation.mapM_cons_apply hpoint hrest,
        .probe (p := ⟨l, w.now, reply⟩) hlt hreply hprobing, ?_, ?_⟩
      · rw [hcalls, World.asked, List.map_cons, List.append_assoc, List.singleton_append]
        rfl
      · rw [List.filterMap_cons, List.filterMap_cons, hfound]
        rfl

end Scan

/-! ## The points of a correlation -/

/-- A lookup is that of the element at its position, which has the selector. -/
theorem AuditResult.mem_lookups_iff {audit : AuditResult} {l : Lookup} :
    l ∈ audit.lookups ↔ ∃ n,
      (Violation.elements audit.violations)[l.index]? = some (l.violation, n) ∧
        n.primarySelector = some l.selector := by
  rw [AuditResult.lookups, Lookup.listFrom, List.mem_filterMap]
  constructor
  · rintro ⟨⟨⟨v, n⟩, i⟩, hmem, hl⟩
    obtain ⟨selector, hselector, rfl⟩ := Option.map_eq_some_iff.1 hl
    exact ⟨n, List.mk_mem_zipIdx_iff_getElem?.1 hmem, hselector⟩
  · rintro ⟨n, hget, hselector⟩
    exact ⟨((l.violation, n), l.index), List.mk_mem_zipIdx_iff_getElem?.2 hget,
      Option.map_eq_some_iff.2 ⟨l.selector, hselector, rfl⟩⟩

/-- What a correlation of an audit does against the clock, with these lookups made, and what comes
of it. -/
structure Probed (page : Page σ) (lookupTimeoutMs ceiling : Nat) (audit : AuditResult)
    (w : World σ) (probes : List Probe) (c : Correlation) (w' : World σ) : Prop where
  /-- The lookups are made one after another, and the page answers them in turn. -/
  probing : Probing page lookupTimeoutMs ceiling audit.lookups w.now w.page probes w'.now w'.page
  calls : w'.calls = w.calls ++ probes.map Probe.entry
  now_le : w'.now ≤ max w.now ceiling
  lasts : ∀ p ∈ probes, p.durationMs lookupTimeoutMs ceiling ≤
    min lookupTimeoutMs (ceiling - p.askedAt)
  askedAt_lt : ∀ p ∈ probes, p.askedAt < ceiling
  isPrefix : probes.map Probe.lookup <+: audit.lookups
  /-- If lookups are left out, the ceiling has been reached. -/
  left_out : probes.map Probe.lookup = audit.lookups ∨ ceiling ≤ w'.now
  visited : c.visited = audit.nodeCount
  /-- The points, in order, are those of the lookups that found a box. -/
  points : c.points =
    probes.filterMap fun p => p.lookup.point (p.box? lookupTimeoutMs ceiling)
  /-- The element at a position has a point exactly if it has a selector, its lookup was made and
  found its box. -/
  point_iff : ∀ i v n, (Violation.elements audit.violations)[i]? = some (v, n) →
    ∀ q, (q ∈ c.points ∧ q.index = i) ↔ ∃ selector p g, n.primarySelector = some selector ∧
      p ∈ probes ∧ p.lookup = ⟨i, v, selector⟩ ∧ p.Finds lookupTimeoutMs ceiling g ∧
      q = HeatmapPoint.ofElement i v g

theorem mem_points_iff {probes : List Probe} {lookupTimeoutMs ceiling : Nat} {q : HeatmapPoint} :
    q ∈ probes.filterMap (fun p => p.lookup.point (p.box? lookupTimeoutMs ceiling)) ↔
      ∃ p ∈ probes, ∃ g, p.Finds lookupTimeoutMs ceiling g ∧
        HeatmapPoint.ofElement p.lookup.index p.lookup.violation g = q := by
  rw [List.mem_filterMap]
  refine exists_congr fun p => and_congr_right fun _ => ?_
  rw [Lookup.point, Option.map_eq_some_iff]
  exact exists_congr fun g => and_congr_left fun _ => Probe.box?_eq_some_iff

/-- Correlation is over by its ceiling, and makes the lookups of the audit in order as long as the
ceiling is not reached; no lookup takes longer than its limit and what is left until the ceiling. An
element has a point exactly if its lookup was made and its box came within that time. -/
theorem Scan.correlateFrom_probed (page : Page σ) (config : CorrelationConfig) (start : Nat)
    (audit : AuditResult) (w : World σ) :
    ∃ probes c w', correlateFrom page config start audit w = (c, w') ∧
      Probed page config.lookupTimeoutMs (start + config.stageCeilingMs) audit w probes c w' := by
  obtain ⟨probes, found, w', hrun, hprobing, hcalls, hfound⟩ :=
    mapM_probing page config.lookupTimeoutMs (start + config.stageCeilingMs) audit.lookups w
  refine ⟨probes, ⟨found.filterMap id, audit.nodeCount⟩, w', ?_, hprobing, hcalls,
    hprobing.now_le, fun p _ => p.reply.waitMs_le _, hprobing.askedAt_lt, hprobing.lookups_isPrefix,
    hprobing.eq_or_ceiling_le, rfl, hfound, ?_⟩
  · rw [correlateFrom, Correlation.ofAudit_eq]
    exact Correlation.map_apply hrun
  · rintro i v n hget q
    dsimp only
    rw [hfound, mem_points_iff]
    constructor
    · rintro ⟨⟨p, hp, g, hfinds, rfl⟩, rfl⟩
      -- the lookup is one of the audit, and so that of the element with its number
      obtain ⟨n', hget', hselector⟩ := AuditResult.mem_lookups_iff.1
        (hprobing.lookups_isPrefix.subset (List.mem_map_of_mem hp))
      obtain ⟨rfl, rfl⟩ := Prod.mk.inj (Option.some.inj (hget'.symm.trans hget))
      exact ⟨p.lookup.selector, p, g, hselector, hp, rfl, hfinds, rfl⟩
    · rintro ⟨selector, p, g, -, hp, hlookup, hfinds, rfl⟩
      refine ⟨⟨p, hp, g, hfinds, ?_⟩, rfl⟩
      rw [hlookup]

end PageScan

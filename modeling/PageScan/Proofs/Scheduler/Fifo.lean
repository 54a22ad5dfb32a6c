import PageScan.Proofs.Scheduler.Order

/-!
# Scans are served in order

A scheduler that runs scans for a list of requests serves them first come, first served, for every
launcher: whatever launches, scans and closings take, and whatever comes of them.

* `Served`: what is the case at every moment.
* `Orderly.finished`, `Orderly.launches_eq`, `Orderly.free_eq`: what is the case when there are no
  more steps.
* `scanAll_fifo`: both hold for `Timeline.scanAll`.
-/

namespace PageScan.Scheduler.Timeline

variable {launcher : Launcher} {bound : Nat} {requests : List ScanRequest} {t t' : Timeline}

/-- A browser has been asked for on behalf of a task. -/
def Begun (t : Timeline) (task : Nat) : Prop :=
  ∃ phase, t.state.tasks[task]? = some phase ∧ phase ≠ .queued

/-- Service in order with so many permits. -/
structure Served (bound : Nat) (t : Timeline) : Prop where
  /-- Each open browser takes up a permit. -/
  bounded : t.state.openCount + t.state.free ≤ bound
  /-- A task begins after all tasks before it. -/
  ordered : ∀ j k, j < k → t.Begun k → t.Begun j
  /-- Time does not pass while there is a permit for a task that waits. -/
  busy : t.move? = none → t.state.free = 0 ∨ t.state.waiting = []
  /-- A task whose browser is open keeps its permit until the step that closes the browser. -/
  guarded : ∀ (t' : Timeline) (task : Nat) (phase phase' : Phase Outcome), t.next? = some t' →
    t.state.tasks[task]? = some phase → t'.state.tasks[task]? = some phase' →
    phase.browsers = 1 → phase'.permits = 0 → t'.state.closes = t.state.closes + 1

namespace Orderly

theorem lt_attempts_of_begun (ho : Orderly launcher bound requests t) {task : Nat}
    (h : t.Begun task) : task < t.attempts := by
  obtain ⟨phase, hphase, hne⟩ := h
  rcases Nat.lt_or_ge task t.attempts with hlt | hge
  · exact hlt
  · have hlength := (List.getElem?_eq_some_iff.1 hphase).1
    rw [ho.length_tasks] at hlength
    rw [(ho.queued task hge hlength).1] at hphase
    exact absurd (Option.some.inj hphase).symm hne

theorem begun_of_lt_attempts (ho : Orderly launcher bound requests t) {task : Nat}
    (h : task < t.attempts) : t.Begun task := by
  have hlt := Nat.lt_of_lt_of_le h ho.attempts_le
  obtain ⟨phase, job, hphase, -, fits⟩ := ho.begun task _ (List.getElem?_eq_getElem hlt) h
  refine ⟨phase, hphase, ?_⟩
  rintro rfl
  cases fits

theorem served (ho : Orderly launcher bound requests t) : Served bound t where
  bounded := by
    have hle := ho.sound.openCount_le ho.unbroken
    rwa [ho.bound_eq, ho.background_eq, Nat.add_zero] at hle
  ordered := fun j k hjk hk =>
    ho.begun_of_lt_attempts (Nat.lt_trans hjk (ho.lt_attempts_of_begun hk))
  busy := fun hmove => by
    rcases hwaiting : t.state.waiting with _ | ⟨task, rest⟩
    · exact .inr rfl
    · left
      refine (move?_eq_none hmove).2 task rest hwaiting ?_
      have hlt := ho.sound.lt_length (hwaiting ▸ List.mem_cons_self)
      rw [ho.length_tasks] at hlt
      rw [ho.requests_eq, List.getElem?_eq_getElem hlt]
      exact Option.some_ne_none _
  guarded := fun t' task phase phase' hnext hphase hphase' hbrowser hpermit => by
    rcases hm : t.move? with _ | m
    · simp only [next?, hm] at hnext
      obtain ⟨due, -, rfl⟩ := Option.map_eq_some_iff.1 hnext
      obtain rfl := Option.some.inj (hphase.symm.trans hphase')
      have hle := State.browsers_le_permits phase
      omega
    · simp only [next?, hm] at hnext
      obtain rfl := Option.some.inj hnext
      obtain ⟨-, a, hstep, ha, -⟩ := ho.make hm
      exact (hstep.closed_of_released ha hphase hphase' hbrowser hpermit).2

/-! ## The end -/

/-- Where nothing goes on, each task that has begun is over. -/
theorem finished_of_idle (ho : Orderly launcher bound requests t)
    (hjobs : ∀ (task : Nat) (job : Job), t.jobs[task]? ≠ some (some job)) {task : Nat}
    {request : ScanRequest} (hrequest : requests[task]? = some request)
    (h : task < t.attempts) :
    t.state.tasks[task]? = some (.finished ((launcher.launch task request).outcome request)) := by
  obtain ⟨phase, job, hphase, hjob, fits⟩ := ho.begun task request hrequest h
  cases fits with
  | finished => exact hphase
  | launching | scanning | closing => exact absurd hjob (hjobs task _)

/-- Where nothing goes on, no task holds anything. -/
theorem tally_of_idle (ho : Orderly launcher bound requests t)
    (hjobs : ∀ (task : Nat) (job : Job), t.jobs[task]? ≠ some (some job))
    {weight : Phase Outcome → Nat} (hqueued : weight .queued = 0)
    (hfinished : ∀ result, weight (.finished result) = 0) :
    tally weight t.state.tasks = 0 := by
  refine tally_eq_zero fun phase hphase => ?_
  obtain ⟨task, hlt, rfl⟩ := List.getElem_of_mem hphase
  have hlength := ho.length_tasks ▸ hlt
  have hget := List.getElem?_eq_getElem hlt
  rcases Nat.lt_or_ge task t.attempts with hbegun | hwaits
  · rw [ho.finished_of_idle hjobs (List.getElem?_eq_getElem hlength) hbegun] at hget
    rw [← Option.some.inj hget]
    exact hfinished _
  · rw [(ho.queued task hwaits hlength).1] at hget
    rw [← Option.some.inj hget]
    exact hqueued

/-- When there are no more steps all permits are free. -/
theorem free_eq (ho : Orderly launcher bound requests t) (hnext : t.next? = none) :
    t.state.free = bound := by
  have permits := ho.sound.permits
  have hjobs := nextDue?_eq_none.1 (of_next?_eq_none hnext).2
  rwa [ho.tally_of_idle hjobs rfl fun _ => rfl, ho.bound_eq] at permits

/-- When there are no more steps all tasks have begun. -/
theorem attempts_eq (ho : Orderly launcher bound requests t) (hbound : 0 < bound)
    (hnext : t.next? = none) : t.attempts = requests.length := by
  have hfree : t.state.free ≠ 0 := ho.free_eq hnext ▸ Nat.ne_of_gt hbound
  have hempty := (ho.served.busy (of_next?_eq_none hnext).1).resolve_left hfree
  have hle := ho.attempts_le
  rw [ho.waiting_eq, List.range'_eq_nil_iff] at hempty
  omega

/-- When there are no more steps each task has come to what the launch of its browser leads to. -/
theorem finished (ho : Orderly launcher bound requests t) (hbound : 0 < bound)
    (hnext : t.next? = none) {task : Nat} {request : ScanRequest}
    (hrequest : requests[task]? = some request) :
    t.state.tasks[task]? =
      some (.finished ((launcher.launch task request).outcome request)) := by
  refine ho.finished_of_idle (nextDue?_eq_none.1 (of_next?_eq_none hnext).2) hrequest ?_
  rw [ho.attempts_eq hbound hnext]
  exact (List.getElem?_eq_some_iff.1 hrequest).1

/-- When there are no more steps all browsers are closed. -/
theorem launches_eq (ho : Orderly launcher bound requests t) (hnext : t.next? = none) :
    t.state.launches = t.state.closes := by
  have launches := ho.sound.launches
  have unbroken := ho.unbroken
  have hjobs := nextDue?_eq_none.1 (of_next?_eq_none hnext).2
  have hcloses : tally Phase.closes t.state.tasks = 0 := ho.tally_of_idle hjobs rfl fun _ => rfl
  have hbrowsers : tally Phase.browsers t.state.tasks = 0 :=
    ho.tally_of_idle hjobs rfl fun _ => rfl
  rw [hcloses, hbrowsers] at launches
  rw [State.Unbroken, hcloses, ho.background_eq] at unbroken
  omega

/-- When all tasks are over there are no more steps. -/
theorem next?_eq_none_of_isOver (ho : Orderly launcher bound requests t)
    (h : ∀ task < requests.length, t.isOver task = true) : t.next? = none := by
  have hover {task : Nat} {phase : Phase Outcome} (hphase : t.state.tasks[task]? = some phase) :
      phase.isOver = true := by
    have hlt := ho.length_tasks ▸ (List.getElem?_eq_some_iff.1 hphase).1
    simpa [isOver, hphase] using h task hlt
  refine next?_eq_none_of_idle (fun task job hjob => ?_) ?_
  · obtain ⟨request, phase, -, -, hphase, fits⟩ := ho.fits_of_job hjob
    cases fits with
    | launching | scanning | closing => cases hover hphase
  · rcases hwaiting : t.state.waiting with _ | ⟨task, rest⟩
    · rfl
    · cases hover ((ho.sound.queued task).1 (hwaiting ▸ List.mem_cons_self))

end Orderly

theorem outcome_of_finished {task : Nat} {result : Outcome}
    (h : t.state.tasks[task]? = some (.finished result)) : t.outcome task = result := by
  rw [outcome, State.joined?, h]

/-- Scans for a list of requests go from step to step until there are none left. At every moment
they are served in order, and at the end each request has its own outcome. -/
theorem scanAll_fifo (launcher : Launcher) (bound : Nat) (requests : List ScanRequest) :
    ∃ t, (start launcher bound).scanAll requests =
        (requests.zipIdx.map fun (request, task) =>
          (launcher.launch task request).outcome request, t) ∧
      Reaches ((start launcher bound).askAll requests) t ∧ t.next? = none ∧
      t.state.launches = t.state.closes ∧ t.state.free = max bound 1 ∧
      ∀ u, Reaches ((start launcher bound).askAll requests) u → Served (max bound 1) u := by
  have hasked := (Orderly.start launcher bound).askAll requests
  rw [List.nil_append] at hasked
  have hscan : (start launcher bound).scanAll requests =
      ((List.range' 0 requests.length).map
        (((start launcher bound).askAll requests).await (List.range' 0 requests.length)).outcome,
        ((start launcher bound).askAll requests).await (List.range' 0 requests.length)) := rfl
  generalize (start launcher bound).askAll requests = asked at hasked hscan ⊢
  have horderly (u : Timeline) (h : Reaches asked u) : Orderly launcher (max bound 1) requests u :=
    h.invariant hasked fun u u' hu hnext => (hu.next hnext).1
  generalize hover : (fun t : Timeline => (List.range' 0 requests.length).all t.isOver) = reached
  have hreached : Reaches asked (asked.runUntil reached asked.stepsLeft) :=
    reaches_runUntil reached asked.stepsLeft .refl
  have hnext : (asked.runUntil reached asked.stepsLeft).next? = none := by
    rcases runUntil_stops (fun u u' hu hnext => hu.next hnext) reached asked.stepsLeft hasked
      asked.rank_le_stepsLeft with h | h
    · have hall := List.all_eq_true.1 ((congrFun hover _).trans h)
      exact (horderly _ hreached).next?_eq_none_of_isOver fun task htask =>
        hall task (by simpa [List.mem_range'] using htask)
    · exact h
  -- no steps are left for `settle` after that
  have hawait : asked.await (List.range' 0 requests.length) =
      asked.runUntil reached asked.stepsLeft := by
    rw [await, hover, settle, runUntil_of_next?_eq_none _ _ hnext]
  have hdone := horderly _ hreached
  have hbound : 0 < max bound 1 := Nat.lt_of_lt_of_le Nat.one_pos (Nat.le_max_right _ _)
  rw [hawait] at hscan
  refine ⟨_, ?_, hreached, hnext, hdone.launches_eq hnext, hdone.free_eq hnext,
    fun u hu => (horderly u hu).served⟩
  rw [hscan]
  congr 1
  refine List.ext_getElem (by simp) fun task hlt hlt' => ?_
  have hrequest : task < requests.length := by simpa using hlt
  simp only [List.getElem_map, List.getElem_range', List.getElem_zipIdx, Nat.zero_add, Nat.one_mul]
  exact outcome_of_finished (hdone.finished hbound hnext (List.getElem?_eq_getElem hrequest))

end PageScan.Scheduler.Timeline

import PageScan.Proofs.Scheduler.Course

/-!
# Tasks go their way in order

A scheduler runs scans for a list of requests, none of which is cancelled. `Orderly` says what is
invariant then: which tasks have begun, what is going on for each, and what it will come to. The
launcher is arbitrary: launches, scans and closings take what they take, and any of them may fail.

* `Orderly.next`: each step keeps the order and uses up work.
* `Orderly.askAll`: new tasks get in line.
-/

namespace PageScan.Scheduler

/-- What a scan comes to whose browser is launched so. -/
def Launch.outcome (l : Launch) (request : ScanRequest) : Outcome :=
  match l.result request with
  | .ok browser => browser.run.outcome
  | .error e => .error e

namespace Timeline

/-- The phase of a task that has begun fits what is going on for it, and both fit what comes of the
launch of its browser. -/
inductive Fits (l : Launch) (request : ScanRequest) : Phase Outcome → Option Job → Prop
  | launching {job : Job} (h : job.activity = .launching (l.result request)) :
      Fits l request .launching (some job)
  | scanning {job : Job} {browser : Browser} (hl : l.result request = .ok browser)
      (h : job.activity = .scanning browser) :
      Fits l request .scanning (some job)
  | closing {job : Job} {browser : Browser} (hl : l.result request = .ok browser)
      (h : job.activity = .closing) :
      Fits l request (.closing browser.run.outcome) (some job)
  | finished :
      Fits l request (.finished (l.outcome request)) none

/-- The tasks begin in the order of their requests, and each goes its way. -/
structure Orderly (launcher : Launcher) (bound : Nat) (requests : List ScanRequest)
    (t : Timeline) : Prop where
  launcher_eq : t.launcher = launcher
  requests_eq : t.requests = requests
  bound_eq : t.state.bound = bound
  sound : t.state.Sound
  unbroken : t.state.Unbroken
  background_eq : t.state.background = 0
  attempts_le : t.attempts ≤ requests.length
  waiting_eq : t.state.waiting = List.range' t.attempts (requests.length - t.attempts)
  length_tasks : t.state.tasks.length = requests.length
  length_jobs : t.jobs.length = requests.length
  begun : ∀ (task : Nat) (request : ScanRequest), requests[task]? = some request →
    task < t.attempts → ∃ phase job, t.state.tasks[task]? = some phase ∧
      t.jobs[task]? = some job ∧ Fits (launcher.launch task request) request phase job
  queued : ∀ task, t.attempts ≤ task → task < requests.length →
    t.state.tasks[task]? = some .queued ∧ t.jobs[task]? = some none

variable {launcher : Launcher} {bound : Nat} {requests : List ScanRequest} {t t' : Timeline}

theorem act_eq {a : Action Outcome} {s : State Outcome} (h : State.Step t.state a s) :
    t.act a = { t with state := s } := by
  rw [act, State.step_iff.2 h]
  rfl

/-- One step of one task, which is not cancelled by it, is taken and uses up work. -/
def Worked (t t' : Timeline) : Prop :=
  ∃ a, State.Step t.state a t'.state ∧ (∀ task, a ≠ .cancel task) ∧ t'.state.work < t.state.work

namespace Orderly

/-- Something goes on only for tasks that have begun. -/
theorem fits_of_job (ho : Orderly launcher bound requests t) {task : Nat} {job : Job}
    (hjob : t.jobs[task]? = some (some job)) :
    ∃ request phase, requests[task]? = some request ∧ task < t.attempts ∧
      t.state.tasks[task]? = some phase ∧
      Fits (launcher.launch task request) request phase (some job) := by
  have hlt : task < requests.length := ho.length_jobs ▸ (List.getElem?_eq_some_iff.1 hjob).1
  have hbegun : task < t.attempts := by
    rcases Nat.lt_or_ge task t.attempts with hbegun | hqueued
    · exact hbegun
    · have hnone := (ho.queued task hqueued hlt).2
      rw [hjob] at hnone
      cases hnone
  obtain ⟨phase, job', hphase, hjob', fits⟩ := ho.begun task _ (List.getElem?_eq_getElem hlt) hbegun
  rw [hjob] at hjob'
  obtain rfl := Option.some.inj hjob'
  exact ⟨_, phase, List.getElem?_eq_getElem hlt, hbegun, hphase, fits⟩

/-- A task that has begun goes on to its next phase. -/
theorem put (ho : Orderly launcher bound requests t) {task : Nat} {request : ScanRequest}
    {a : Action Outcome} {s : State Outcome} {phase' : Phase Outcome} {job' : Option Job}
    {past : List (Nat × Notice)} (hrequest : requests[task]? = some request)
    (hbegun : task < t.attempts) (hstep : State.Step t.state a s) (ha : ∀ task, a ≠ .cancel task)
    (hbound : s.bound = t.state.bound) (hbackground : s.background = t.state.background)
    (hwaiting : s.waiting = t.state.waiting)
    (htasks : s.tasks = t.state.tasks.set task phase')
    (fits : Fits (launcher.launch task request) request phase' job') :
    Orderly launcher bound requests
      { t with state := s, jobs := t.jobs.set task job', past := past } := by
  have hlt : task < requests.length := (List.getElem?_eq_some_iff.1 hrequest).1
  refine ⟨ho.launcher_eq, ho.requests_eq, hbound.trans ho.bound_eq, hstep.sound ho.sound,
    hstep.unbroken ha ho.sound ho.unbroken, hbackground.trans ho.background_eq, ho.attempts_le,
    hwaiting.trans ho.waiting_eq, by simpa [htasks] using ho.length_tasks,
    by simpa using ho.length_jobs, fun k other hother hk => ?_, fun k hk hlength => ?_⟩
  · -- only the entries of this task change, so that all others fit as before
    obtain ⟨phase, job, hphase, hjob, hfits⟩ := ho.begun k other hother hk
    by_cases hne : task = k
    · subst hne
      obtain rfl := Option.some.inj (hrequest.symm.trans hother)
      refine ⟨phase', job', ?_, ?_, fits⟩
      · rw [htasks, List.getElem?_set_self (List.getElem?_eq_some_iff.1 hphase).1]
      · exact List.getElem?_set_self (List.getElem?_eq_some_iff.1 hjob).1
    · refine ⟨phase, job, ?_, ?_, hfits⟩
      · rw [htasks, List.getElem?_set_ne hne, hphase]
      · exact (List.getElem?_set_ne hne).trans hjob
  · have hne : task ≠ k := Nat.ne_of_lt (Nat.lt_of_lt_of_le hbegun hk)
    obtain ⟨hphase, hjob⟩ := ho.queued k hk hlength
    refine ⟨?_, (List.getElem?_set_ne hne).trans hjob⟩
    rw [htasks, List.getElem?_set_ne hne, hphase]

/-- A task that has begun goes on to its next phase by an action. -/
theorem act_put (ho : Orderly launcher bound requests t) {task : Nat} {request : ScanRequest}
    {a : Action Outcome} {s : State Outcome} {phase phase' : Phase Outcome} {job' : Option Job}
    (past : List (Nat × Notice)) (hrequest : requests[task]? = some request)
    (hbegun : task < t.attempts) (hphase : t.state.tasks[task]? = some phase)
    (hstep : State.Step t.state a s) (ha : ∀ task, a ≠ .cancel task)
    (hbound : s.bound = t.state.bound) (hbackground : s.background = t.state.background)
    (hwaiting : s.waiting = t.state.waiting)
    (htasks : s.tasks = t.state.tasks.set task phase')
    (hlt : phase'.stepsLeft < phase.stepsLeft)
    (fits : Fits (launcher.launch task request) request phase' job') :
    Orderly launcher bound requests { (t.act a).put task job' with past := past } ∧
      Worked t { (t.act a).put task job' with past := past } := by
  rw [act_eq hstep]
  exact ⟨ho.put hrequest hbegun hstep ha hbound hbackground hwaiting htasks fits,
    a, hstep, ha, State.work_lt_of_set hphase htasks hbackground hlt⟩

/-- When what goes on for a task is over, the task goes on to its next phase. -/
theorem conclude (ho : Orderly launcher bound requests t) {task : Nat} {job : Job}
    (hjob : t.jobs[task]? = some (some job)) :
    Orderly launcher bound requests (t.conclude task job) ∧ Worked t (t.conclude task job) := by
  obtain ⟨request, phase, hrequest, hbegun, hphase, fits⟩ := ho.fits_of_job hjob
  cases fits with
  | launching h =>
    rcases hl : (launcher.launch task request).result request with e | browser
    · have houtcome : (launcher.launch task request).outcome request = .error e := by
        rw [Launch.outcome, hl]
      simp only [Timeline.conclude, h, hl]
      exact ho.act_put t.past hrequest hbegun hphase (.launchFailed hphase) (by simp) rfl rfl rfl
        rfl (by simp [Phase.stepsLeft]) (houtcome ▸ .finished)
    · simp only [Timeline.conclude, h, hl]
      exact ho.act_put t.past hrequest hbegun hphase (.launched hphase) (by simp) rfl rfl rfl rfl
        (by simp [Phase.stepsLeft]) (.scanning hl rfl)
  | scanning hl h =>
    simp only [Timeline.conclude, h]
    exact ho.act_put _ hrequest hbegun hphase (.scanned hphase) (by simp) rfl rfl rfl rfl
      (by simp [Phase.stepsLeft]) (.closing hl rfl)
  | @closing _ browser hl h =>
    have houtcome : (launcher.launch task request).outcome request = browser.run.outcome := by
      rw [Launch.outcome, hl]
    simp only [Timeline.conclude, h]
    exact ho.act_put t.past hrequest hbegun hphase (.closed hphase) (by simp) rfl rfl rfl rfl
      (by simp [Phase.stepsLeft]) (houtcome ▸ .finished)

/-- The task that gets a permit is the next one in the order of the requests. -/
theorem begin (ho : Orderly launcher bound requests t) {task free : Nat} {request : ScanRequest}
    {rest : List Nat} (hfree : t.state.free = free + 1) (hwaiting : t.state.waiting = task :: rest)
    (hrequest : t.requests[task]? = some request) :
    Orderly launcher bound requests (t.begin task request) ∧ Worked t (t.begin task request) := by
  have hstep := State.Step.grant hfree hwaiting
  obtain ⟨m, hm⟩ : ∃ m, requests.length - t.attempts = m + 1 := by
    rcases hm : requests.length - t.attempts with _ | m
    · have hempty := ho.waiting_eq
      rw [hwaiting, hm] at hempty
      cases hempty
    · exact ⟨m, rfl⟩
  -- the queue is in the order of the requests, so its first task is the next attempt
  obtain ⟨rfl, hrest⟩ : task = t.attempts ∧ rest = List.range' (t.attempts + 1) m := by
    have hcons := ho.waiting_eq
    rw [hwaiting, hm, List.range'_succ] at hcons
    exact List.cons.inj hcons
  have hlt : t.attempts < requests.length := by omega
  obtain ⟨hphase, hjob⟩ := ho.queued t.attempts (Nat.le_refl _) hlt
  rw [ho.requests_eq] at hrequest
  have heq : t.begin t.attempts request = { t with
      state := { t.state.put t.attempts .launching with free := free, waiting := rest }
      attempts := t.attempts + 1
      jobs := t.jobs.set t.attempts (some ⟨t.now,
        t.now + (launcher.launch t.attempts request).delayMs,
        .launching ((launcher.launch t.attempts request).result request)⟩) } := by
    rw [Timeline.begin, act_eq hstep, ho.launcher_eq]
    rfl
  rw [heq]
  refine ⟨⟨ho.launcher_eq, ho.requests_eq, ho.bound_eq, hstep.sound ho.sound,
    hstep.unbroken (by simp) ho.sound ho.unbroken, ho.background_eq, hlt, ?_,
    by simpa [State.put] using ho.length_tasks, by simpa using ho.length_jobs,
    fun k other hother hk => ?_, fun k hk hlength => ?_⟩,
    .grant, hstep, by simp, State.work_lt_of_set hphase rfl rfl (by decide)⟩
  · have hm' : requests.length - (t.attempts + 1) = m := by omega
    show rest = List.range' (t.attempts + 1) (requests.length - (t.attempts + 1))
    rw [hm', hrest]
  · rcases Nat.lt_or_eq_of_le (Nat.le_of_lt_succ hk) with hk | rfl
    · obtain ⟨phase, job, hphase', hjob', fits⟩ := ho.begun k other hother hk
      exact ⟨phase, job, (List.getElem?_set_ne (Nat.ne_of_gt hk)).trans hphase',
        (List.getElem?_set_ne (Nat.ne_of_gt hk)).trans hjob', fits⟩
    · obtain rfl := Option.some.inj (hrequest.symm.trans hother)
      exact ⟨.launching, _, List.getElem?_set_self (List.getElem?_eq_some_iff.1 hphase).1,
        List.getElem?_set_self (List.getElem?_eq_some_iff.1 hjob).1, .launching rfl⟩
  · have hne : t.attempts ≠ k := Nat.ne_of_lt hk
    obtain ⟨hphase', hjob'⟩ := ho.queued k (Nat.le_of_succ_le hk) hlength
    exact ⟨(List.getElem?_set_ne hne).trans hphase', (List.getElem?_set_ne hne).trans hjob'⟩

theorem pass (ho : Orderly launcher bound requests t) (time : Nat) :
    Orderly launcher bound requests (t.pass time) :=
  ⟨ho.launcher_eq, ho.requests_eq, ho.bound_eq, ho.sound, ho.unbroken, ho.background_eq,
    ho.attempts_le, ho.waiting_eq, ho.length_tasks, ho.length_jobs, ho.begun, ho.queued⟩

/-- A step that can be taken now is one of a task, and uses up work. -/
theorem make (ho : Orderly launcher bound requests t) {m : Move} (hm : t.move? = some m) :
    Orderly launcher bound requests (t.make m) ∧ Worked t (t.make m) := by
  cases m with
  | conclude task job => exact ho.conclude (move?_conclude hm).1
  | begin task request =>
    obtain ⟨⟨free, hfree⟩, ⟨rest, hwaiting⟩, hrequest⟩ := move?_begin hm
    exact ho.begin hfree hwaiting hrequest

/-- Each step keeps the order, and there are the fewer steps left. -/
theorem next (ho : Orderly launcher bound requests t) (hnext : t.next? = some t') :
    Orderly launcher bound requests t' ∧ t'.rank < t.rank := by
  rcases hm : t.move? with _ | m
  · simp only [next?, hm] at hnext
    obtain ⟨due, hdue, rfl⟩ := Option.map_eq_some_iff.1 hnext
    obtain ⟨task, job, hjob, rfl⟩ := exists_due hdue
    refine ⟨ho.pass _, ?_⟩
    have hsettled : (t.pass job.due).isSettled = false :=
      isSettled_of_due (t := t.pass job.due) hjob (Nat.le_max_right _ _)
    have hsettled' : t.isSettled = true := by simp [isSettled, hm]
    simp only [rank, hsettled, hsettled']
    -- time passes only where nothing can be done, and then something can
    show 2 * t.state.work + 0 < 2 * t.state.work + 1
    omega
  · simp only [next?, hm] at hnext
    obtain rfl := Option.some.inj hnext
    obtain ⟨ho', a, -, -, hwork⟩ := ho.make hm
    refine ⟨ho', ?_⟩
    have hsettled : t.isSettled = false := by simp [isSettled, hm]
    simp only [rank, hsettled]
    split <;> simp <;> omega

theorem start (launcher : Launcher) (bound : Nat) :
    Orderly launcher (max bound 1) [] (Timeline.start launcher bound) where
  launcher_eq := rfl
  requests_eq := rfl
  bound_eq := rfl
  sound := State.sound_start bound
  unbroken := rfl
  background_eq := rfl
  attempts_le := Nat.le_refl 0
  waiting_eq := rfl
  length_tasks := rfl
  length_jobs := rfl
  begun := fun _ _ _ hk => absurd hk (Nat.not_lt_zero _)
  queued := fun _ _ hk => absurd hk (Nat.not_lt_zero _)

/-- A new task gets in line. -/
theorem ask (ho : Orderly launcher bound requests t) (request : ScanRequest) :
    Orderly launcher bound (requests ++ [request]) (t.ask request) := by
  have hstep : State.Step t.state .spawn _ := .spawn
  have heq : t.ask request = { t with
      state := t.state.spawned
      requests := t.requests ++ [request]
      jobs := t.jobs ++ [none] } := by
    rw [Timeline.ask, act_eq hstep]
  have hlength : (requests ++ [request]).length = requests.length + 1 := List.length_append
  have hle := ho.attempts_le
  rw [heq]
  refine ⟨ho.launcher_eq, congrArg (· ++ [request]) ho.requests_eq, ho.bound_eq,
    hstep.sound ho.sound, hstep.unbroken (by simp) ho.sound ho.unbroken, ho.background_eq,
    Nat.le_trans hle (hlength ▸ Nat.le_succ _), ?_, by simp [State.spawned, ho.length_tasks],
    by simp [ho.length_jobs], fun k other hother hk => ?_, fun k hk hlt => ?_⟩
  · have hcount : requests.length + 1 - t.attempts = (requests.length - t.attempts) + 1 := by omega
    have hlast : t.attempts + (requests.length - t.attempts) = requests.length := by omega
    show t.state.waiting ++ [t.state.tasks.length] = _
    rw [ho.waiting_eq, ho.length_tasks, hlength, hcount, List.range'_concat, Nat.one_mul, hlast]
  · have hlt : k < requests.length := Nat.lt_of_lt_of_le hk hle
    rw [List.getElem?_append_left hlt] at hother
    obtain ⟨phase, job, hphase, hjob, fits⟩ := ho.begun k other hother hk
    refine ⟨phase, job, ?_, ?_, fits⟩
    · exact (List.getElem?_append_left (ho.length_tasks ▸ hlt)).trans hphase
    · exact (List.getElem?_append_left (ho.length_jobs ▸ hlt)).trans hjob
  · rcases Nat.lt_or_eq_of_le (Nat.le_of_lt_succ (hlength ▸ hlt)) with hlt | rfl
    · obtain ⟨hphase, hjob⟩ := ho.queued k hk hlt
      exact ⟨(List.getElem?_append_left (ho.length_tasks ▸ hlt)).trans hphase,
        (List.getElem?_append_left (ho.length_jobs ▸ hlt)).trans hjob⟩
    · exact ⟨by simp [State.spawned, ← ho.length_tasks], by simp [← ho.length_jobs]⟩

theorem askAll (ho : Orderly launcher bound requests t) (others : List ScanRequest) :
    Orderly launcher bound (requests ++ others) (t.askAll others) := by
  induction others generalizing requests t with
  | nil => simpa [Timeline.askAll] using ho
  | cons request rest ih => simpa [Timeline.askAll] using ih (ho.ask request)

end Orderly

end Timeline

end PageScan.Scheduler

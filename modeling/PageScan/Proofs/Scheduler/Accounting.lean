import PageScan.Scheduler.Machine

/-!
# Accounts of permits and browsers

A scheduler keeps count of permits and of browsers. What the counts say of the phases of its tasks
is an invariant of its steps (`State.Sound`), whatever the order in which steps are taken and
whichever tasks are cancelled.

* `step_iff`: the steps that are possible, each with the scheduler that it leaves.
* `sound_of_run`: the counts are right after every run.
* `Sound.openCount_le`: as long as no task is cancelled, each open browser takes up a permit.
* `openCount_le_of_run`: whichever tasks are cancelled, this is so but for browsers that are closed
  in the background or whose closing was broken off.
-/

namespace PageScan.Scheduler

variable {α : Type}

namespace Phase

/-- The permits that a task in this phase holds. -/
def permits : Phase α → Nat
  | .launching | .scanning | .closing _ => 1
  | _ => 0

/-- The browsers that are open for a task in this phase. -/
def browsers : Phase α → Nat
  | .scanning | .closing _ => 1
  | _ => 0

/-- The browsers that a task in this phase is closing. -/
def closes : Phase α → Nat
  | .closing _ => 1
  | _ => 0

end Phase

theorem tally_set (weight : Phase α → Nat) {tasks : List (Phase α)} {task : Nat}
    {phase : Phase α} (h : tasks[task]? = some phase) (phase' : Phase α) :
    tally weight (tasks.set task phase') + weight phase = tally weight tasks + weight phase' := by
  induction tasks generalizing task with
  | nil => cases h
  | cons first tasks ih =>
    cases task with
    | zero =>
      obtain rfl : first = phase := Option.some.inj h
      simp only [tally, List.set_cons_zero]
      omega
    | succ task =>
      have rest := ih (List.getElem?_cons_succ ▸ h)
      simp only [tally, List.set_cons_succ]
      omega

theorem tally_eq_zero {weight : Phase α → Nat} {tasks : List (Phase α)}
    (h : ∀ phase ∈ tasks, weight phase = 0) : tally weight tasks = 0 := by
  induction tasks with
  | nil => rfl
  | cons phase tasks ih =>
    obtain ⟨hphase, htasks⟩ := List.forall_mem_cons.1 h
    have hrest := ih htasks
    simp only [tally]
    omega

theorem tally_append (weight : Phase α → Nat) (tasks tasks' : List (Phase α)) :
    tally weight (tasks ++ tasks') = tally weight tasks + tally weight tasks' := by
  induction tasks with
  | nil => simp [tally]
  | cons phase tasks ih =>
    rw [List.cons_append, tally, tally, ih, Nat.add_assoc]

namespace State

variable {s s' : State α} {a : Action α} {task : Nat} {phase phase' : Phase α}

/-! ## The steps that are possible -/

/-- What a step does, for each step that is possible. -/
inductive Step (s : State α) : Action α → State α → Prop
  | spawn : Step s .spawn s.spawned
  | grant {free task : Nat} {rest : List Nat} (hfree : s.free = free + 1)
      (hwaiting : s.waiting = task :: rest) :
      Step s .grant { s.put task .launching with free := free, waiting := rest }
  | launched {task : Nat} (h : s.tasks[task]? = some .launching) :
      Step s (.launched task) (s.put task .scanning).opened
  | launchFailed {task : Nat} {result : α} (h : s.tasks[task]? = some .launching) :
      Step s (.launchFailed task result) { s.put task (.finished result) with free := s.free + 1 }
  | scanned {task : Nat} {result : α} (h : s.tasks[task]? = some .scanning) :
      Step s (.scanned task result)
        { s.put task (.closing result) with closings := s.closings + 1 }
  | closed {task : Nat} {result : α} (h : s.tasks[task]? = some (.closing result)) :
      Step s (.closed task)
        { s.put task (.finished result) with closes := s.closes + 1, free := s.free + 1 }
  | cancelQueued {task : Nat} (h : s.tasks[task]? = some .queued) :
      Step s (.cancel task)
        { s.put task .cancelled with waiting := s.waiting.filter (· ≠ task) }
  | cancelLaunching {task : Nat} (h : s.tasks[task]? = some .launching) :
      Step s (.cancel task) { s.put task .cancelled with free := s.free + 1 }
  | cancelScanning {task : Nat} (h : s.tasks[task]? = some .scanning) :
      Step s (.cancel task)
        { s.put task .cancelled with
          free := s.free + 1, closings := s.closings + 1, background := s.background + 1 }
  | cancelClosing {task : Nat} {result : α} (h : s.tasks[task]? = some (.closing result)) :
      Step s (.cancel task) { s.put task .cancelled with free := s.free + 1 }
  | cancelOver {task : Nat} {phase : Phase α} (h : s.tasks[task]? = some phase)
      (hover : phase.isOver = true) :
      Step s (.cancel task) s
  | backgroundClosed {n : Nat} (h : s.background = n + 1) :
      Step s .backgroundClosed { s with background := n, closes := s.closes + 1 }

theorem step_iff : s.step a = some s' ↔ Step s a s' := by
  constructor
  · intro h
    cases a with
    | spawn =>
      obtain rfl := Option.some.inj h
      exact .spawn
    | grant =>
      rw [step] at h
      split at h
      · next free task rest hfree hwaiting =>
        obtain rfl := Option.some.inj h
        exact .grant hfree hwaiting
      · cases h
    | launched task =>
      rw [step] at h
      split at h
      · next hphase =>
        obtain rfl := Option.some.inj h
        exact .launched hphase
      · cases h
    | launchFailed task result =>
      rw [step] at h
      split at h
      · next hphase =>
        obtain rfl := Option.some.inj h
        exact .launchFailed hphase
      · cases h
    | scanned task result =>
      rw [step] at h
      split at h
      · next hphase =>
        obtain rfl := Option.some.inj h
        exact .scanned hphase
      · cases h
    | closed task =>
      rw [step] at h
      split at h
      · next hphase =>
        obtain rfl := Option.some.inj h
        exact .closed hphase
      · cases h
    | cancel task =>
      rw [step] at h
      split at h
      · next phase hphase =>
        cases phase with
        | queued =>
          obtain rfl := Option.some.inj h
          exact .cancelQueued hphase
        | launching =>
          obtain rfl := Option.some.inj h
          exact .cancelLaunching hphase
        | scanning =>
          obtain rfl := Option.some.inj h
          exact .cancelScanning hphase
        | closing result =>
          obtain rfl := Option.some.inj h
          exact .cancelClosing hphase
        | finished result =>
          obtain rfl := Option.some.inj h
          exact .cancelOver hphase rfl
        | cancelled =>
          obtain rfl := Option.some.inj h
          exact .cancelOver hphase rfl
      · cases h
    | backgroundClosed =>
      rw [step] at h
      split at h
      · next hbackground =>
        obtain rfl := Option.some.inj h
        exact .backgroundClosed hbackground
      · cases h
  · intro h
    cases h with
    | spawn => rfl
    | grant hfree hwaiting => simp only [step, hfree, hwaiting]
    | launched h | launchFailed h | scanned h | closed h => simp only [step, h]
    | cancelQueued h | cancelLaunching h | cancelScanning h | cancelClosing h =>
      simp only [step, h, cancel]
    | @cancelOver task phase h hover =>
      cases phase with
      | finished result => simp only [step, h, cancel]
      | cancelled => simp only [step, h, cancel]
      | _ => cases hover
    | backgroundClosed h => simp only [step, h]

/-- A task that goes on to a later phase leaves less to do. -/
theorem work_lt_of_set (h : s.tasks[task]? = some phase)
    (htasks : s'.tasks = s.tasks.set task phase') (hbackground : s'.background = s.background)
    (hlt : phase'.stepsLeft < phase.stepsLeft) : s'.work < s.work := by
  have htally := tally_set Phase.stepsLeft h phase'
  rw [work, work, htasks, hbackground]
  omega

/-! ## The counts are right -/

/-- The counts of a scheduler agree with the phases of its tasks. -/
structure Sound (s : State α) : Prop where
  permits : s.free + tally Phase.permits s.tasks = s.bound
  /-- The queue consists of the tasks that have not begun, in order. -/
  queued : ∀ task, task ∈ s.waiting ↔ s.tasks[task]? = some .queued
  fifo : s.waiting.Pairwise (· < ·)
  launches : s.launches + tally Phase.closes s.tasks = s.closings + tally Phase.browsers s.tasks
  /-- A closing that has begun is over, or goes on, or was broken off. -/
  closings : s.closes + s.background + tally Phase.closes s.tasks ≤ s.closings

theorem sound_start (bound : Nat) : (start bound : State α).Sound where
  permits := rfl
  queued := by simp [start]
  fifo := .nil
  launches := rfl
  closings := Nat.le_refl 0

/-- A task that leaves its phase takes its permit and its browser along, and is not in the queue
then. -/
theorem Sound.put (hs : s.Sound) (h : s.tasks[task]? = some phase) (hphase' : phase' ≠ .queued)
    (htasks : s'.tasks = s.tasks.set task phase') (hbound : s'.bound = s.bound)
    (hwaiting : s'.waiting = s.waiting.filter (· ≠ task))
    (hfree : s'.free + phase'.permits = s.free + phase.permits)
    (hlaunches : s'.launches + phase'.closes + s.closings + phase.browsers =
      s.launches + phase.closes + s'.closings + phase'.browsers)
    (hclosings : s'.closes + s'.background + phase'.closes + s.closings ≤
      s.closes + s.background + phase.closes + s'.closings) :
    s'.Sound := by
  have hpermits := tally_set Phase.permits h phase'
  have hbrowsers := tally_set Phase.browsers h phase'
  have hcloses := tally_set Phase.closes h phase'
  have sound := hs.permits
  have sound' := hs.launches
  have sound'' := hs.closings
  refine ⟨?_, fun k => ?_, ?_, ?_, ?_⟩
  · rw [htasks, hbound]
    omega
  · obtain ⟨htask, -⟩ := List.getElem?_eq_some_iff.1 h
    rw [hwaiting, htasks, List.mem_filter, List.getElem?_set, hs.queued k]
    by_cases hk : task = k
    · subst hk
      simp [htask, hphase']
    · simp [hk, Ne.symm hk]
  · rw [hwaiting]
    exact hs.fifo.filter _
  · rw [htasks]
    omega
  · rw [htasks]
    omega

theorem Sound.filter_waiting (hs : s.Sound) (h : s.tasks[task]? = some phase)
    (hphase : phase ≠ .queued) : s.waiting = s.waiting.filter (· ≠ task) := by
  refine (List.filter_eq_self.2 fun k hk => ?_).symm
  have hqueued := (hs.queued k).1 hk
  rw [decide_eq_true_eq]
  rintro rfl
  rw [h] at hqueued
  exact hphase (Option.some.inj hqueued)

theorem Sound.lt_length (hs : s.Sound) {k : Nat} (hk : k ∈ s.waiting) : k < s.tasks.length :=
  (List.getElem?_eq_some_iff.1 ((hs.queued k).1 hk)).1

/-- A task that has its permit moves on. -/
theorem Sound.put_of_begun (hs : s.Sound) (h : s.tasks[task]? = some phase)
    (hphase : phase ≠ .queued) (hphase' : phase' ≠ .queued)
    (htasks : s'.tasks = s.tasks.set task phase') (hbound : s'.bound = s.bound)
    (hwaiting : s'.waiting = s.waiting)
    (hfree : s'.free + phase'.permits = s.free + phase.permits)
    (hlaunches : s'.launches + phase'.closes + s.closings + phase.browsers =
      s.launches + phase.closes + s'.closings + phase'.browsers)
    (hclosings : s'.closes + s'.background + phase'.closes + s.closings ≤
      s.closes + s.background + phase.closes + s'.closings) :
    s'.Sound :=
  hs.put h hphase' htasks hbound (hwaiting.trans (hs.filter_waiting h hphase)) hfree hlaunches
    hclosings

theorem Sound.spawned (hs : s.Sound) : s.spawned.Sound := by
  refine ⟨?_, fun k => ?_, ?_, ?_, ?_⟩
  · simpa [State.spawned, tally_append, tally, Phase.permits] using hs.permits
  · rw [State.spawned, List.mem_append, List.mem_singleton, hs.queued k, List.getElem?_append]
    by_cases hk : k < s.tasks.length
    · simp [hk, Nat.ne_of_lt hk]
    · have hnone : s.tasks[k]? = none := List.getElem?_eq_none (Nat.le_of_not_lt hk)
      simp [hk, List.getElem?_singleton]
      omega
  · refine List.pairwise_append.2 ⟨hs.fifo, List.pairwise_singleton _ _, fun k hk l hl => ?_⟩
    rw [List.mem_singleton.1 hl]
    exact hs.lt_length hk
  · simpa [State.spawned, tally_append, tally, Phase.closes, Phase.browsers] using hs.launches
  · simpa [State.spawned, tally_append, tally, Phase.closes] using hs.closings

/-- Every step keeps the counts right. -/
theorem Step.sound (h : Step s a s') (hs : s.Sound) : s'.Sound := by
  cases h with
  | spawn => exact hs.spawned
  | @grant free task rest hfree hwaiting =>
    have hfifo := hs.fifo
    rw [hwaiting] at hfifo
    have hrest : rest = s.waiting.filter (· ≠ task) := by
      rw [hwaiting, List.filter_cons_of_neg (by simp)]
      refine (List.filter_eq_self.2 fun k hk => ?_).symm
      exact decide_eq_true (Nat.ne_of_gt (List.rel_of_pairwise_cons hfifo hk))
    refine hs.put ((hs.queued task).1 (hwaiting ▸ List.mem_cons_self))
      (by simp : Phase.launching ≠ .queued) rfl rfl hrest ?_ rfl (Nat.le_refl _)
    exact hfree.symm
  | launched h =>
    refine hs.put_of_begun h (by simp) (by simp) rfl rfl rfl rfl ?_ (Nat.le_refl _)
    simp only [put, opened, Phase.closes, Phase.browsers]
    omega
  | launchFailed h =>
    exact hs.put_of_begun h (by simp) (by simp) rfl rfl rfl rfl rfl (Nat.le_refl _)
  | scanned h =>
    refine hs.put_of_begun h (by simp) (by simp) rfl rfl rfl rfl ?_ ?_
    · simp only [put, Phase.closes, Phase.browsers]
      omega
    · simp only [put, Phase.closes]
      omega
  | closed h =>
    refine hs.put_of_begun h (by simp) (by simp) rfl rfl rfl rfl ?_ ?_
    · simp only [put, Phase.closes, Phase.browsers]
      omega
    · simp only [put, Phase.closes]
      omega
  | cancelQueued h => exact hs.put h (by simp) rfl rfl rfl rfl rfl (Nat.le_refl _)
  | cancelLaunching h =>
    exact hs.put_of_begun h (by simp) (by simp) rfl rfl rfl rfl rfl (Nat.le_refl _)
  | cancelScanning h =>
    refine hs.put_of_begun h (by simp) (by simp) rfl rfl rfl rfl ?_ ?_
    · simp only [put, Phase.closes, Phase.browsers]
      omega
    · simp only [put, Phase.closes]
      omega
  | cancelClosing h =>
    refine hs.put_of_begun h (by simp) (by simp) rfl rfl rfl rfl ?_ ?_
    · simp only [put, Phase.closes, Phase.browsers]
      omega
    · simp only [put, Phase.closes]
      omega
  | cancelOver h hover => exact hs
  | @backgroundClosed n h =>
    obtain ⟨permits, queued, fifo, launches, closings⟩ := hs
    refine ⟨permits, queued, fifo, launches, ?_⟩
    rw [h] at closings
    simp only
    omega

/-- The counts are right after every run. -/
theorem sound_of_run {actions : List (Action α)} (hs : s.Sound) (h : s.run actions = some s') :
    s'.Sound := by
  induction actions generalizing s with
  | nil =>
    obtain rfl := Option.some.inj h
    exact hs
  | cons a rest ih =>
    obtain ⟨s₁, hstep, hrest⟩ := Option.bind_eq_some_iff.1 h
    exact ih ((step_iff.1 hstep).sound hs) hrest

/-! ## Without cancelling -/

/-- No closing of a browser was broken off. -/
def Unbroken (s : State α) : Prop :=
  s.closings = s.closes + s.background + tally Phase.closes s.tasks

/-- Only cancelling a task can break off the closing of its browser. -/
theorem Step.unbroken (h : Step s a s') (ha : ∀ task, a ≠ .cancel task) (hs : s.Sound)
    (hu : s.Unbroken) : s'.Unbroken := by
  unfold Unbroken at hu ⊢
  cases h with
  | spawn => simpa [spawned, tally_append, tally, Phase.closes] using hu
  | @grant free task rest hfree hwaiting =>
    have h : s.tasks[task]? = some .queued := (hs.queued task).1 (hwaiting ▸ List.mem_cons_self)
    have htally := tally_set Phase.closes h .launching
    simp only [put, Phase.closes] at htally ⊢
    omega
  | launched h =>
    have htally := tally_set Phase.closes h .scanning
    simp only [put, opened, Phase.closes] at htally ⊢
    omega
  | @launchFailed task result h =>
    have htally := tally_set Phase.closes h (.finished result)
    simp only [put, Phase.closes] at htally ⊢
    omega
  | @scanned task result h =>
    have htally := tally_set Phase.closes h (.closing result)
    simp only [put, Phase.closes] at htally ⊢
    omega
  | @closed task result h =>
    have htally := tally_set Phase.closes h (.finished result)
    simp only [put, Phase.closes] at htally ⊢
    omega
  | @cancelQueued task h | @cancelLaunching task h | @cancelScanning task h
  | @cancelClosing task _ h | @cancelOver task _ h =>
    exact absurd rfl (ha task)
  | @backgroundClosed n h =>
    simp only
    omega

theorem tally_mono {weight weight' : Phase α → Nat} (hle : ∀ phase, weight phase ≤ weight' phase)
    (tasks : List (Phase α)) : tally weight tasks ≤ tally weight' tasks := by
  induction tasks with
  | nil => exact Nat.le_refl 0
  | cons phase tasks ih =>
    exact Nat.add_le_add (hle phase) ih

theorem browsers_le_permits (phase : Phase α) : phase.browsers ≤ phase.permits := by
  cases phase <;> simp [Phase.browsers, Phase.permits]

/-- An open browser belongs to a task or is closed in the background. -/
theorem Sound.openCount_eq (hs : s.Sound) (hu : s.Unbroken) :
    s.openCount = tally Phase.browsers s.tasks + s.background := by
  have launches := hs.launches
  unfold Unbroken at hu
  unfold openCount
  omega

/-- Each open browser takes up a permit, but for those that are closed in the background. -/
theorem Sound.openCount_le (hs : s.Sound) (hu : s.Unbroken) :
    s.openCount + s.free ≤ s.bound + s.background := by
  have permits := hs.permits
  have hle := tally_mono browsers_le_permits s.tasks
  rw [hs.openCount_eq hu]
  omega

/-- Only the task that a step is about can give back the permit that its browser needs. -/
theorem eq_of_released {tasks : List (Phase α)} {changed : Nat} {new : Phase α}
    (htask : tasks[task]? = some phase) (htask' : (tasks.set changed new)[task]? = some phase')
    (hbrowser : phase.browsers = 1) (hpermit : phase'.permits = 0) :
    changed = task ∧ new = phase' := by
  have hlt := (List.getElem?_eq_some_iff.1 htask).1
  by_cases h : changed = task
  · subst h
    rw [List.getElem?_set_self hlt] at htask'
    exact ⟨rfl, Option.some.inj htask'⟩
  · rw [List.getElem?_set_ne h, htask] at htask'
    obtain rfl := Option.some.inj htask'
    have hle := browsers_le_permits phase
    omega

/-- A task that has a browser gives its permit back in the step that ends the closing. -/
theorem Step.closed_of_released (h : Step s a s') (ha : ∀ task, a ≠ .cancel task)
    (htask : s.tasks[task]? = some phase) (htask' : s'.tasks[task]? = some phase')
    (hbrowser : phase.browsers = 1) (hpermit : phase'.permits = 0) :
    a = .closed task ∧ s'.closes = s.closes + 1 := by
  have hlt := (List.getElem?_eq_some_iff.1 htask).1
  cases h with
  | spawn =>
    rw [spawned, List.getElem?_append_left hlt, htask] at htask'
    obtain rfl := Option.some.inj htask'
    have hle := browsers_le_permits phase
    omega
  | @grant free changed rest hfree hwaiting =>
    obtain ⟨rfl, rfl⟩ := eq_of_released htask htask' hbrowser hpermit
    cases hpermit
  | launched h =>
    obtain ⟨rfl, rfl⟩ := eq_of_released htask htask' hbrowser hpermit
    cases hpermit
  | launchFailed h =>
    obtain ⟨rfl, rfl⟩ := eq_of_released htask htask' hbrowser hpermit
    obtain rfl := Option.some.inj (h.symm.trans htask)
    cases hbrowser
  | scanned h =>
    obtain ⟨rfl, rfl⟩ := eq_of_released htask htask' hbrowser hpermit
    cases hpermit
  | closed h =>
    obtain ⟨rfl, rfl⟩ := eq_of_released htask htask' hbrowser hpermit
    exact ⟨rfl, rfl⟩
  | @cancelQueued task h | @cancelLaunching task h | @cancelScanning task h
  | @cancelClosing task _ h | @cancelOver task _ h =>
    exact absurd rfl (ha task)
  | backgroundClosed h =>
    obtain rfl := Option.some.inj (htask.symm.trans htask')
    have hle := browsers_le_permits phase
    omega

/-! ## With cancelling -/

/-- The browsers whose closing was broken off or goes on in the background. -/
def detached (s : State α) : Nat :=
  s.closings - s.closes - tally Phase.closes s.tasks

/-- Whichever tasks are cancelled, only browsers that are detached from their tasks can be open
without a permit. -/
theorem openCount_le_of_run {bound : Nat} {actions : List (Action α)}
    (h : (start bound).run actions = some s) :
    s.openCount + s.free ≤ s.bound + s.detached := by
  have hs := sound_of_run (sound_start bound) h
  have permits := hs.permits
  have launches := hs.launches
  have closings := hs.closings
  have hle := tally_mono browsers_le_permits s.tasks
  unfold openCount detached
  omega

/-- One permit, and two open browsers: the first task is cancelled while it scans, and the second
one begins before the browser of the first one is closed. -/
example : ((start 1 : State Unit).run
    [.spawn, .spawn, .grant, .launched 0, .cancel 0, .grant, .launched 1]).map openCount = some 2 :=
  rfl

end State

end PageScan.Scheduler

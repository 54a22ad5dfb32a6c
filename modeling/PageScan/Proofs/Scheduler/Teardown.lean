import PageScan.Proofs.Scheduler.Accounting
import PageScan.Scheduler.Timeline

/-!
# What is taken is given back

A task gets a permit and a browser, and either may have to be given back by someone else: a task
can be cancelled while it waits, while its browser is launched, while the page is scanned, and while
the browser is closed. An `Account` is what a run has done on behalf of one task. Which accounts are
possible depends on the phase of the task only (`Kept`), and this is an invariant of the steps in
whichever order they come.

* `Step.kept`, `kept_of_run`: the invariant, for one step and for a run.
* `Sound.exists_advance`, `Sound.exists_run_over`: a scheduler does not get stuck.
* `settled_of_run`: each browser is closed once, each permit comes back, and joining a task gives
  the result of its scan if it has one.
-/

namespace PageScan.Scheduler

variable {α : Type}

/-- What the scan of a task comes to in this step. -/
def Action.results : Action α → List α
  | .launchFailed _ result | .scanned _ result => [result]
  | _ => []

/-- What was done on behalf of a task. -/
structure Account (α : Type) where
  /-- Permits that the task got. -/
  acquired : Nat
  /-- Permits that it gave back. -/
  released : Nat
  /-- Browsers that were launched for it. -/
  launches : Nat
  /-- Browsers of it of which the closing was begun. -/
  closings : Nat
  /-- What its scan came to. -/
  results : List α

namespace Account

/-- Nothing was done yet. -/
def blank : Account α :=
  ⟨0, 0, 0, 0, []⟩

/-- The account after one more step on behalf of the task. -/
def enter (x : Account α) (s s' : State α) (a : Action α) : Account α where
  acquired := x.acquired + (s.free - s'.free)
  released := x.released + (s'.free - s.free)
  launches := x.launches + (s'.launches - s.launches)
  closings := x.closings + (s'.closings - s.closings)
  results := x.results ++ a.results

end Account

namespace State

/-- The task on behalf of which an action is taken. The closing of a browser in the background is
nobody's any more. -/
def subject? (s : State α) : Action α → Option Nat
  | .spawn | .backgroundClosed => none
  | .grant => s.waiting.head?
  | .launched task | .launchFailed task _ | .scanned task _ | .closed task | .cancel task =>
    some task

/-- The account of a task after a run, if it was `x` before. -/
def account (task : Nat) (x : Account α) (s : State α) : List (Action α) → Account α
  | [] => x
  | a :: rest =>
    match s.step a with
    | some s' => account task (if s.subject? a = some task then x.enter s s' a else x) s' rest
    | none => x

/-- The accounts that are possible for a task in a phase. -/
inductive Kept : Option (Phase α) → Account α → Prop
  | unknown : Kept none .blank
  | queued : Kept (some .queued) .blank
  | launching : Kept (some .launching) ⟨1, 0, 0, 0, []⟩
  | scanning : Kept (some .scanning) ⟨1, 0, 1, 0, []⟩
  | closing (result : α) : Kept (some (.closing result)) ⟨1, 0, 1, 1, [result]⟩
  | finished (result : α) : Kept (some (.finished result)) ⟨1, 1, 1, 1, [result]⟩
  /-- There was no browser for it. -/
  | notLaunched (result : α) : Kept (some (.finished result)) ⟨1, 1, 0, 0, [result]⟩
  | cancelledQueued : Kept (some .cancelled) .blank
  | cancelledLaunching : Kept (some .cancelled) ⟨1, 1, 0, 0, []⟩
  | cancelledScanning : Kept (some .cancelled) ⟨1, 1, 1, 1, []⟩
  /-- The scan was over, but nobody is told what it came to. -/
  | cancelledClosing (result : α) : Kept (some .cancelled) ⟨1, 1, 1, 1, [result]⟩

variable {s s' : State α} {a : Action α} {task : Nat} {x : Account α} {phase : Phase α}

/-! ## Accounts are kept -/

/-- A step that takes a task to another phase makes the entry for it, and none for others. -/
theorem Kept.put {changed : Nat} {phase' : Phase α} (hx : Kept s.tasks[task]? x)
    (h : s.tasks[changed]? = some phase) (htasks : s'.tasks = s.tasks.set changed phase')
    (hsubject : s.subject? a = some changed)
    (henter : Kept (some phase) x → Kept (some phase') (x.enter s s' a)) :
    Kept s'.tasks[task]? (if s.subject? a = some task then x.enter s s' a else x) := by
  rw [hsubject, htasks]
  by_cases hne : changed = task
  · subst hne
    rw [if_pos rfl, List.getElem?_set_self (List.getElem?_eq_some_iff.1 h).1]
    exact henter (h ▸ hx)
  · rw [if_neg fun heq => hne (Option.some.inj heq), List.getElem?_set_ne hne]
    exact hx

theorem Step.kept (h : Step s a s') (hs : s.Sound) (hx : Kept s.tasks[task]? x) :
    Kept s'.tasks[task]? (if s.subject? a = some task then x.enter s s' a else x) := by
  cases h with
  | spawn =>
    show Kept (s.tasks ++ [Phase.queued])[task]? x
    rcases Nat.lt_trichotomy task s.tasks.length with hlt | rfl | hgt
    · rwa [List.getElem?_append_left hlt]
    · rw [List.getElem?_eq_none (Nat.le_refl _)] at hx
      cases hx
      rw [List.getElem?_concat_length]
      exact .queued
    · rw [List.getElem?_eq_none (Nat.le_of_lt hgt)] at hx
      rwa [List.getElem?_eq_none (by simpa using Nat.succ_le_of_lt hgt)]
  | @grant free first rest hfree hwaiting =>
    have hqueued := (hs.queued first).1 (hwaiting ▸ List.mem_cons_self)
    refine hx.put hqueued rfl (by simp [subject?, hwaiting]) fun h => ?_
    cases h
    simpa [Account.enter, Account.blank, Action.results, put, hfree] using Kept.launching
  | launched h =>
    refine hx.put h rfl rfl fun h => ?_
    cases h
    simpa [Account.enter, Action.results, put, opened] using Kept.scanning
  | @launchFailed _ result h =>
    refine hx.put h rfl rfl fun h => ?_
    cases h
    simpa [Account.enter, Action.results, put] using Kept.notLaunched result
  | @scanned _ result h =>
    refine hx.put h rfl rfl fun h => ?_
    cases h
    simpa [Account.enter, Action.results, put] using Kept.closing result
  | @closed _ result h =>
    refine hx.put h rfl rfl fun h => ?_
    cases h
    simpa [Account.enter, Action.results, put] using Kept.finished result
  | cancelQueued h =>
    refine hx.put h rfl rfl fun h => ?_
    cases h
    simpa [Account.enter, Account.blank, Action.results, put] using Kept.cancelledQueued
  | cancelLaunching h =>
    refine hx.put h rfl rfl fun h => ?_
    cases h
    simpa [Account.enter, Action.results, put] using Kept.cancelledLaunching
  | cancelScanning h =>
    refine hx.put h rfl rfl fun h => ?_
    cases h
    simpa [Account.enter, Action.results, put] using Kept.cancelledScanning
  | @cancelClosing _ result h =>
    refine hx.put h rfl rfl fun h => ?_
    cases h
    simpa [Account.enter, Action.results, put] using Kept.cancelledClosing result
  | cancelOver h hover => simpa [Account.enter, Action.results] using hx
  | backgroundClosed h => exact hx

theorem account_cons (h : Step s a s') (rest : List (Action α)) :
    account task x s (a :: rest) =
      account task (if s.subject? a = some task then x.enter s s' a else x) s' rest := by
  rw [account, step_iff.2 h]

theorem run_append (s : State α) (before after : List (Action α)) :
    s.run (before ++ after) = (s.run before).bind fun s => s.run after := by
  induction before generalizing s with
  | nil => rfl
  | cons a rest ih =>
    rw [List.cons_append, run, run, Option.bind_assoc]
    exact congrArg _ (funext fun s => ih s)

theorem account_append {before after : List (Action α)} (h : s.run before = some s') :
    account task x s (before ++ after) = account task (account task x s before) s' after := by
  induction before generalizing s x with
  | nil =>
    obtain rfl := Option.some.inj h
    rfl
  | cons a rest ih =>
    obtain ⟨s₁, hstep, hrest⟩ := Option.bind_eq_some_iff.1 h
    rw [List.cons_append, account_cons (step_iff.1 hstep), account_cons (step_iff.1 hstep),
      ih hrest]

/-- After every run, the account of a task is one that is possible for its phase. -/
theorem kept_of_run {actions : List (Action α)} (hs : s.Sound) (hx : Kept s.tasks[task]? x)
    (h : s.run actions = some s') : Kept s'.tasks[task]? (account task x s actions) := by
  induction actions generalizing s x with
  | nil =>
    obtain rfl := Option.some.inj h
    exact hx
  | cons a rest ih =>
    obtain ⟨s₁, hstep, hrest⟩ := Option.bind_eq_some_iff.1 h
    have hstep := step_iff.1 hstep
    rw [account_cons hstep]
    exact ih (hstep.sound hs) (hstep.kept hs hx) hrest

/-! ## Tasks that are over -/

/-- A step leaves all tasks alone but the one on behalf of which it is taken. -/
theorem Step.phase_of_ne (h : Step s a s') (hsubject : s.subject? a ≠ some task)
    (hphase : s.tasks[task]? = some phase) : s'.tasks[task]? = some phase := by
  cases h with
  | spawn => exact (List.getElem?_append_left (List.getElem?_eq_some_iff.1 hphase).1).trans hphase
  | @grant free first rest hfree hwaiting =>
    have hne : first ≠ task := fun heq => hsubject (by simp [subject?, hwaiting, heq])
    exact (List.getElem?_set_ne hne).trans hphase
  | launched h | launchFailed h | scanned h | closed h | cancelQueued h | cancelLaunching h
  | cancelScanning h | cancelClosing h =>
    exact (List.getElem?_set_ne fun heq => hsubject (congrArg some heq)).trans hphase
  | cancelOver h hover => exact hphase
  | backgroundClosed h => exact hphase

/-- Nothing comes of a step on behalf of a task that is over. -/
theorem Step.eq_of_isOver (h : Step s a s') (hs : s.Sound) (hsubject : s.subject? a = some task)
    (hphase : s.tasks[task]? = some phase) (hover : phase.isOver = true) :
    s' = s ∧ a.results = [] := by
  -- the other steps start from phases that are not over
  have hbusy {changed : Nat} {phase₁ : Phase α} (h₁ : s.tasks[changed]? = some phase₁)
      (hchanged : some changed = some task) (hphase₁ : phase₁.isOver = false) : False := by
    obtain rfl := Option.some.inj hchanged
    obtain rfl := Option.some.inj (h₁.symm.trans hphase)
    rw [hover] at hphase₁
    cases hphase₁
  cases h with
  | spawn | backgroundClosed => cases hsubject
  | @grant free first rest hfree hwaiting =>
    rw [subject?, hwaiting] at hsubject
    exact (hbusy ((hs.queued first).1 (hwaiting ▸ List.mem_cons_self)) hsubject rfl).elim
  | launched h | launchFailed h | scanned h | closed h | cancelQueued h | cancelLaunching h
  | cancelScanning h | cancelClosing h => exact (hbusy h hsubject rfl).elim
  | cancelOver h hover => exact ⟨rfl, rfl⟩

theorem Step.phase_of_isOver (h : Step s a s') (hs : s.Sound) (hphase : s.tasks[task]? = some phase)
    (hover : phase.isOver = true) : s'.tasks[task]? = some phase := by
  by_cases hsubject : s.subject? a = some task
  · rw [(h.eq_of_isOver hs hsubject hphase hover).1, hphase]
  · exact h.phase_of_ne hsubject hphase

theorem phase_of_isOver {actions : List (Action α)} (hs : s.Sound)
    (hphase : s.tasks[task]? = some phase) (hover : phase.isOver = true)
    (h : s.run actions = some s') : s'.tasks[task]? = some phase := by
  induction actions generalizing s with
  | nil =>
    obtain rfl := Option.some.inj h
    exact hphase
  | cons a rest ih =>
    obtain ⟨s₁, hstep, hrest⟩ := Option.bind_eq_some_iff.1 h
    have hstep := step_iff.1 hstep
    exact ih (hstep.sound hs) (hstep.phase_of_isOver hs hphase hover) hrest

/-- Nothing is done any more on behalf of a task that is over. -/
theorem account_of_isOver {actions : List (Action α)} (hs : s.Sound)
    (hphase : s.tasks[task]? = some phase) (hover : phase.isOver = true)
    (h : s.run actions = some s') : account task x s actions = x := by
  induction actions generalizing s with
  | nil => rfl
  | cons a rest ih =>
    obtain ⟨s₁, hstep, hrest⟩ := Option.bind_eq_some_iff.1 h
    have hstep := step_iff.1 hstep
    have hentry : (if s.subject? a = some task then x.enter s s₁ a else x) = x := by
      split
      · next hsubject =>
        obtain ⟨rfl, hresults⟩ := hstep.eq_of_isOver hs hsubject hphase hover
        simp [Account.enter, hresults]
      · rfl
    rw [account_cons hstep, hentry]
    exact ih (hstep.sound hs) (hstep.phase_of_isOver hs hphase hover) hrest

/-- Cancelling ends a task that is not over, and is nothing to one that is. -/
theorem phase_of_cancel (h : s.step (.cancel task) = some s')
    (hphase : s.tasks[task]? = some phase) :
    s'.tasks[task]? = some (if phase.isOver then phase else .cancelled) := by
  have hlt := (List.getElem?_eq_some_iff.1 hphase).1
  have hstep := step_iff.1 h
  cases hstep with
  | cancelQueued h₁ | cancelLaunching h₁ | cancelScanning h₁ | cancelClosing h₁ =>
    obtain rfl := Option.some.inj (h₁.symm.trans hphase)
    exact List.getElem?_set_self hlt
  | cancelOver h₁ hover =>
    obtain rfl := Option.some.inj (h₁.symm.trans hphase)
    rw [hphase, if_pos hover]

/-! ## Schedulers do not get stuck -/

theorem Step.bound_eq (h : Step s a s') : s'.bound = s.bound := by
  cases h <;> rfl

theorem bound_eq_of_run {actions : List (Action α)} (h : s.run actions = some s') :
    s'.bound = s.bound := by
  induction actions generalizing s with
  | nil =>
    obtain rfl := Option.some.inj h
    rfl
  | cons a rest ih =>
    obtain ⟨s₁, hstep, hrest⟩ := Option.bind_eq_some_iff.1 h
    exact (ih hrest).trans (step_iff.1 hstep).bound_eq

/-- A task moves on, and there is less to do. -/
def Advances (s s' : State α) : Prop :=
  ∃ a, Step s a s' ∧ (a ≠ .spawn ∧ ∀ task, a ≠ .cancel task) ∧ s'.work < s.work

/-- A task that has a permit can move on. -/
theorem exists_advance_of_permits [Nonempty α] (h : s.tasks[task]? = some phase)
    (hpermits : phase.permits ≠ 0) : ∃ s', Advances s s' := by
  obtain ⟨result⟩ := ‹Nonempty α›
  cases phase with
  | queued | finished | cancelled => exact absurd rfl hpermits
  | launching =>
    exact ⟨_, .launchFailed task result, .launchFailed h, by simp,
      work_lt_of_set h rfl rfl (by simp [Phase.stepsLeft])⟩
  | scanning =>
    exact ⟨_, .scanned task result, .scanned h, by simp,
      work_lt_of_set h rfl rfl (by simp [Phase.stepsLeft])⟩
  | closing result =>
    exact ⟨_, .closed task, .closed h, by simp,
      work_lt_of_set h rfl rfl (by simp [Phase.stepsLeft])⟩

/-- As long as a task is not over, some task can move on. -/
theorem Sound.exists_advance [Nonempty α] (hs : s.Sound) (hbound : 0 < s.bound)
    (h : s.tasks[task]? = some phase) (hover : phase.isOver = false) : ∃ s', Advances s s' := by
  rcases hfree : s.free with _ | free
  · -- no permit is free, so there is a task that holds one
    have hpermits : tally Phase.permits s.tasks ≠ 0 := by
      have permits := hs.permits
      omega
    obtain ⟨holder, hmem, hholds⟩ : ∃ holder ∈ s.tasks, holder.permits ≠ 0 := by
      refine Classical.byContradiction fun hnone => hpermits (tally_eq_zero fun holder hmem => ?_)
      exact Classical.byContradiction fun hholds => hnone ⟨holder, hmem, hholds⟩
    obtain ⟨k, hk⟩ := List.mem_iff_getElem?.1 hmem
    exact exists_advance_of_permits hk hholds
  · cases phase with
    | queued =>
      have hmem := (hs.queued task).2 h
      rcases hwaiting : s.waiting with _ | ⟨first, rest⟩
      · rw [hwaiting] at hmem
        cases hmem
      · have hqueued := (hs.queued first).1 (hwaiting ▸ List.mem_cons_self)
        exact ⟨_, .grant, .grant hfree hwaiting, by simp,
          work_lt_of_set hqueued rfl rfl (by simp [Phase.stepsLeft])⟩
    | launching | scanning | closing => exact exists_advance_of_permits h Nat.one_ne_zero
    | finished | cancelled => cases hover

/-- The tasks that there are can always come to their ends without being cancelled. -/
theorem Sound.exists_run_over [Nonempty α] (hs : s.Sound) (hbound : 0 < s.bound) :
    ∃ actions s', s.run actions = some s' ∧
      (∀ a ∈ actions, a ≠ .spawn ∧ ∀ task, a ≠ .cancel task) ∧
      ∀ phase ∈ s'.tasks, phase.isOver = true := by
  induction hwork : s.work using Nat.strongRecOn generalizing s with
  | ind work ih =>
    by_cases hover : ∃ phase ∈ s.tasks, phase.isOver = false
    · obtain ⟨phase, hmem, hphase⟩ := hover
      obtain ⟨task, htask⟩ := List.mem_iff_getElem?.1 hmem
      obtain ⟨s₁, a, hstep, ha, hlt⟩ := hs.exists_advance hbound htask hphase
      obtain ⟨actions, s', hrun, hactions, hover⟩ :=
        ih s₁.work (hwork ▸ hlt) (hstep.sound hs) (hstep.bound_eq ▸ hbound) rfl
      refine ⟨a :: actions, s', ?_, List.forall_mem_cons.2 ⟨ha, hactions⟩, hover⟩
      rw [run, step_iff.2 hstep]
      exact hrun
    · refine ⟨[], s, rfl, by simp, fun phase hmem => ?_⟩
      exact Bool.of_not_eq_false fun hphase => hover ⟨phase, hmem, hphase⟩

/-! ## Whichever tasks are cancelled -/

/-- The account of a task after a run from the start. -/
def accountOf (bound : Nat) (actions : List (Action α)) (task : Nat) : Account α :=
  account task .blank (start bound) actions

/-- What is the case for all tasks after a run, whichever of them it cancels. -/
structure Settled (bound : Nat) (actions : List (Action Outcome)) (s : State Outcome) : Prop where
  /-- A browser that was launched for a task is closed once: its closing is begun no later than
  the task is over, and never again. -/
  closed_once : ∀ (task : Nat) (phase : Phase Outcome), s.tasks[task]? = some phase →
    (accountOf bound actions task).launches ≤ 1 ∧
      (accountOf bound actions task).closings ≤ (accountOf bound actions task).launches ∧
      (phase ≠ .scanning →
        (accountOf bound actions task).closings = (accountOf bound actions task).launches)
  /-- For a task that is cancelled while it waits no browser is ever launched. -/
  withdrawn : ∀ (before after : List (Action Outcome)) (task : Nat) (s₀ : State Outcome),
    actions = before ++ .cancel task :: after → (start bound).run before = some s₀ →
    s₀.tasks[task]? = some .queued → accountOf bound actions task = .blank
  /-- A task gets no more than one permit, and gives it back unless it holds it. -/
  one_permit : ∀ (task : Nat) (phase : Phase Outcome), s.tasks[task]? = some phase →
    (accountOf bound actions task).acquired ≤ 1 ∧
      (accountOf bound actions task).released + phase.permits =
        (accountOf bound actions task).acquired
  /-- The permits that are held and those that are free are all permits. -/
  all_permits : s.free + tally Phase.permits s.tasks = max bound 1
  /-- When no task is left all permits are free, and all browsers are closed or being closed. -/
  none_left : (∀ phase ∈ s.tasks, phase.isOver = true) →
    s.free = max bound 1 ∧ s.launches = s.closings
  /-- All tasks can come to their ends. -/
  ends : ∃ (more : List (Action Outcome)) (s' : State Outcome), s.run more = some s' ∧
    (∀ a ∈ more, a ≠ .spawn ∧ ∀ task, a ≠ .cancel task) ∧
    ∀ phase ∈ s'.tasks, phase.isOver = true
  /-- Joining a task that is finished gives the one result of its scan. -/
  joined : ∀ (t : Timeline) (task : Nat) (result : Outcome), t.state = s →
    s.tasks[task]? = some (.finished result) →
    (accountOf bound actions task).results = [result] ∧ t.outcome task = result
  /-- Joining a task that is over without being finished tells that the scan of its address was
  cancelled. -/
  joined_cancelled : ∀ (t : Timeline) (task : Nat) (request : ScanRequest), t.state = s →
    t.requests[task]? = some request → s.tasks[task]? = some .cancelled →
    t.outcome task = .error (.cancelled request.url)
  /-- Cancelling a task that is finished changes nothing, and any other task is over by it. -/
  cancelled : ∀ (task : Nat) (phase : Phase Outcome) (s' : State Outcome),
    s.tasks[task]? = some phase → s.step (.cancel task) = some s' →
    s'.tasks[task]? = some (if phase.isOver then phase else .cancelled)
  /-- A task that is over stays as it is, so that joining it gives the same at any time. -/
  concluded : ∀ (task : Nat) (phase : Phase Outcome) (more : List (Action Outcome)) (s' : State Outcome),
    s.tasks[task]? = some phase → phase.isOver = true → s.run more = some s' →
    s'.tasks[task]? = some phase

/-- Tasks that are over hold no permits, and no browsers are left to be closed for them. -/
theorem tally_of_isOver {tasks : List (Phase α)} (h : ∀ phase ∈ tasks, phase.isOver = true)
    {weight : Phase α → Nat} (hfinished : ∀ result, weight (.finished result) = 0)
    (hcancelled : weight .cancelled = 0) : tally weight tasks = 0 := by
  refine tally_eq_zero fun phase hmem => ?_
  have hover := h phase hmem
  cases phase with
  | finished result => exact hfinished result
  | cancelled => exact hcancelled
  | _ => cases hover

theorem Kept.closed_once (h : Kept (some phase) x) :
    x.launches ≤ 1 ∧ x.closings ≤ x.launches ∧ (phase ≠ .scanning → x.closings = x.launches) := by
  cases h <;> simp [Account.blank]

theorem Kept.one_permit (h : Kept (some phase) x) :
    x.acquired ≤ 1 ∧ x.released + phase.permits = x.acquired := by
  cases h <;> simp [Account.blank, Phase.permits]

theorem Kept.results_eq {result : α} (h : Kept (some (.finished result)) x) :
    x.results = [result] := by
  cases h <;> rfl

theorem Kept.eq_of_queued (h : Kept (some .queued) x) : x = .blank := by
  cases h
  rfl

/-- Nothing is ever done on behalf of a task that is cancelled while it waits. -/
theorem accountOf_of_withdrawn {bound : Nat} {before after : List (Action α)} {s₀ : State α}
    (h : (start bound).run (before ++ .cancel task :: after) = some s)
    (hbefore : (start bound).run before = some s₀) (hqueued : s₀.tasks[task]? = some .queued) :
    accountOf bound (before ++ .cancel task :: after) task = .blank := by
  have hs₀ := sound_of_run (sound_start bound) hbefore
  have hkept : Kept (some .queued) (accountOf bound before task) :=
    hqueued ▸ kept_of_run (sound_start bound) .unknown hbefore
  rw [run_append, hbefore, Option.bind_some, run] at h
  obtain ⟨s₁, hstep, hafter⟩ := Option.bind_eq_some_iff.1 h
  have hentry : Account.enter .blank s₀ s₁ (.cancel task) = .blank := by
    simp only [step, hqueued, cancel] at hstep
    obtain rfl := Option.some.inj hstep
    simp [Account.enter, Account.blank, Action.results, put]
  have hcancelled := phase_of_cancel hstep hqueued
  have hsubject : s₀.subject? (.cancel task) = some task := rfl
  have hstep := step_iff.1 hstep
  calc accountOf bound (before ++ .cancel task :: after) task
      = account task (accountOf bound before task) s₀ (.cancel task :: after) :=
        account_append hbefore
    _ = account task .blank s₁ after := by
        rw [hkept.eq_of_queued, account_cons hstep, if_pos hsubject, hentry]
    _ = .blank := account_of_isOver (hstep.sound hs₀) hcancelled rfl hafter

/-- Whichever tasks are cancelled and whenever, each browser is closed once and each permit comes
back, and who joins a task is told of its scan. -/
theorem settled_of_run {bound : Nat} {actions : List (Action Outcome)} {s : State Outcome}
    (h : (start bound).run actions = some s) : Settled bound actions s := by
  have hs := sound_of_run (sound_start bound) h
  have hbound : s.bound = max bound 1 := bound_eq_of_run h
  have hkept (task : Nat) : Kept s.tasks[task]? (accountOf bound actions task) :=
    kept_of_run (sound_start bound) .unknown h
  refine ⟨fun task phase hphase => (hphase ▸ hkept task).closed_once, ?_,
    fun task phase hphase => (hphase ▸ hkept task).one_permit, hbound ▸ hs.permits, ?_, ?_, ?_, ?_,
    fun task phase s' hphase hstep => phase_of_cancel hstep hphase,
    fun task phase more s' hphase hover hmore => phase_of_isOver hs hphase hover hmore⟩
  · rintro before after task s₀ rfl hbefore hqueued
    exact accountOf_of_withdrawn h hbefore hqueued
  · intro hover
    have permits := hs.permits
    have launches := hs.launches
    have hpermits : tally Phase.permits s.tasks = 0 := tally_of_isOver hover (fun _ => rfl) rfl
    have hbrowsers : tally Phase.browsers s.tasks = 0 := tally_of_isOver hover (fun _ => rfl) rfl
    have hcloses : tally Phase.closes s.tasks = 0 := tally_of_isOver hover (fun _ => rfl) rfl
    rw [hpermits] at permits
    rw [hbrowsers, hcloses] at launches
    exact ⟨permits.trans hbound, launches⟩
  · have : Nonempty Outcome := ⟨.error (.cancelled "")⟩
    exact hs.exists_run_over (hbound ▸ Nat.lt_of_lt_of_le Nat.one_pos (Nat.le_max_right _ _))
  · rintro t task result rfl hphase
    refine ⟨(hphase ▸ hkept task).results_eq, ?_⟩
    rw [Timeline.outcome, joined?, hphase]
  · rintro t task request rfl hrequest hphase
    rw [Timeline.outcome, joined?, hphase, hrequest]
    rfl

/-- With one permit for five tasks: the first is cancelled while its page is scanned, the second
while it waits, the third while its browser is launched, the fourth while its browser is closed,
and the fifth after it is finished. -/
theorem settled_cancelled_anywhere :
    ∃ s, (start 1).run
        [.spawn, .spawn, .grant, .launched 0, .cancel 1, .cancel 0, .spawn, .grant, .cancel 2,
          .spawn, .grant, .launched 3, .scanned 3 (.error (.cancelled "a")), .backgroundClosed,
          .cancel 3, .spawn, .grant, .launched 4, .scanned 4 (.error (.cancelled "b")), .closed 4,
          .cancel 4] = some s ∧
      Settled 1
        [.spawn, .spawn, .grant, .launched 0, .cancel 1, .cancel 0, .spawn, .grant, .cancel 2,
          .spawn, .grant, .launched 3, .scanned 3 (.error (.cancelled "a")), .backgroundClosed,
          .cancel 3, .spawn, .grant, .launched 4, .scanned 4 (.error (.cancelled "b")), .closed 4,
          .cancel 4] s :=
  ⟨_, rfl, settled_of_run rfl⟩

end State

end PageScan.Scheduler

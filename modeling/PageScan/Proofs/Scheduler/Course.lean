import PageScan.Proofs.Scheduler.Accounting
import PageScan.Scheduler.Timeline

/-!
# The course of a schedule

What `Timeline.next?` does, and what a schedule reaches by it.

* `Reaches`: from one moment of a schedule to another by steps.
* `mem_pending`, `move?_conclude`, `move?_begin`: what a step is about.
* `runUntil_stops`: a schedule with an invariant under which steps use up work stops where it was
  to stop, or where there are no more steps.
-/

namespace PageScan.Scheduler.Timeline

variable {t t' u : Timeline}

/-! ## Steps -/

/-- One moment of a schedule comes after another. -/
inductive Reaches (t : Timeline) : Timeline → Prop
  | refl : Reaches t t
  | step {u u' : Timeline} (h : Reaches t u) (hnext : u.next? = some u') : Reaches t u'

/-- What holds at first and is kept by each step holds at every moment. -/
theorem Reaches.invariant {P : Timeline → Prop} (h : Reaches t u) (ht : P t)
    (hstep : ∀ u u', P u → u.next? = some u' → P u') : P u := by
  induction h with
  | refl => exact ht
  | step _ hnext ih => exact hstep _ _ ih hnext

theorem mem_pending {task : Nat} {job : Job} :
    (task, job) ∈ t.pending ↔ t.jobs[task]? = some (some job) := by
  constructor
  · intro h
    obtain ⟨⟨entry, k⟩, hentry, hjob⟩ := List.mem_filterMap.1 h
    obtain ⟨job', hsome, hpair⟩ := Option.map_eq_some_iff.1 hjob
    obtain ⟨rfl, rfl⟩ := Prod.mk.inj hpair
    rw [List.mem_zipIdx_iff_getElem?] at hentry
    rw [hentry, hsome]
  · intro h
    exact List.mem_filterMap.2 ⟨(some job, task), List.mem_zipIdx_iff_getElem?.2 h, rfl⟩

/-- What is going on for a task ends when it is due. -/
theorem move?_conclude {task : Nat} {job : Job} (h : t.move? = some (.conclude task job)) :
    t.jobs[task]? = some (some job) ∧ job.due ≤ t.now := by
  unfold move? at h
  split at h
  · next task' job' hfind =>
    obtain ⟨rfl, rfl⟩ := Move.conclude.inj (Option.some.inj h)
    exact ⟨mem_pending.1 (List.mem_of_find?_eq_some hfind), by simpa using List.find?_some hfind⟩
  · split at h
    · obtain ⟨request, -, hmove⟩ := Option.map_eq_some_iff.1 h
      cases hmove
    · cases h

/-- The first task in the queue begins when there is a permit for it. -/
theorem move?_begin {task : Nat} {request : ScanRequest}
    (h : t.move? = some (.begin task request)) :
    (∃ free, t.state.free = free + 1) ∧ (∃ rest, t.state.waiting = task :: rest) ∧
      t.requests[task]? = some request := by
  unfold move? at h
  split at h
  · cases h
  · split at h
    · next free task' rest hfree hwaiting =>
      obtain ⟨request', hrequest, hmove⟩ := Option.map_eq_some_iff.1 h
      obtain ⟨rfl, rfl⟩ := Move.begin.inj hmove
      exact ⟨⟨free, hfree⟩, ⟨rest, hwaiting⟩, hrequest⟩
    · cases h

/-- Without a step that can be taken now, all that is going on goes on, and no permit is left for
a task that waits. -/
theorem move?_eq_none (h : t.move? = none) :
    (∀ (task : Nat) (job : Job), t.jobs[task]? = some (some job) → t.now < job.due) ∧
      ∀ (task : Nat) (rest : List Nat), t.state.waiting = task :: rest → t.requests[task]? ≠ none →
        t.state.free = 0 := by
  unfold move? at h
  split at h
  · cases h
  · next hfind =>
    refine ⟨fun task job hjob => ?_, fun task rest hwaiting hrequest => ?_⟩
    · have hlate := List.find?_eq_none.1 hfind (task, job) (mem_pending.2 hjob)
      simpa using hlate
    · rcases hfree : t.state.free with _ | free
      · rfl
      · rw [hfree, hwaiting] at h
        exact absurd (Option.map_eq_none_iff.1 h) hrequest

theorem nextDue?_eq_none :
    t.nextDue? = none ↔ ∀ (task : Nat) (job : Job), t.jobs[task]? ≠ some (some job) := by
  rw [nextDue?, List.min?_eq_none_iff, List.map_eq_nil_iff, List.eq_nil_iff_forall_not_mem]
  constructor
  · intro h task job hjob
    exact h (task, job) (mem_pending.2 hjob)
  · rintro h ⟨task, job⟩ hmem
    exact h task job (mem_pending.1 hmem)

theorem exists_due {due : Nat} (h : t.nextDue? = some due) :
    ∃ (task : Nat) (job : Job), t.jobs[task]? = some (some job) ∧ job.due = due := by
  obtain ⟨⟨task, job⟩, hmem, hdue⟩ := List.mem_map.1 (List.min?_mem h)
  exact ⟨task, job, mem_pending.1 hmem, hdue⟩

/-- Where something is due a step can be taken. -/
theorem isSettled_of_due {task : Nat} {job : Job} (hjob : t.jobs[task]? = some (some job))
    (hdue : job.due ≤ t.now) : t.isSettled = false := by
  rcases hmove : t.move? with _ | m
  · have hlt := (move?_eq_none hmove).1 task job hjob
    omega
  · rw [isSettled, hmove]
    rfl

/-! ## Schedules come to an end -/

/-- The steps that a schedule can have before it, at most: as long as there is work, each step that
does some may have to be waited for. -/
def rank (t : Timeline) : Nat :=
  2 * t.state.work + if t.isSettled then 1 else 0

theorem rank_le_stepsLeft (t : Timeline) : t.rank ≤ t.stepsLeft := by
  unfold rank stepsLeft
  split
  · exact Nat.le_refl _
  · omega

theorem reaches_runUntil (reached : Timeline → Bool) (n : Nat) (h : Reaches t u) :
    Reaches t (u.runUntil reached n) := by
  induction n generalizing u with
  | zero => exact h
  | succ n ih =>
    rw [runUntil]
    split
    · exact h
    · split
      · next u' hnext => exact ih (h.step hnext)
      · exact h

theorem runUntil_of_next?_eq_none (reached : Timeline → Bool) (n : Nat) (h : t.next? = none) :
    t.runUntil reached n = t := by
  cases n with
  | zero => rfl
  | succ n =>
    rw [runUntil, h]
    split
    · rfl
    · rfl

/-- Where nothing goes on and no task waits, there are no more steps. -/
theorem next?_eq_none_of_idle (hjobs : ∀ (task : Nat) (job : Job), t.jobs[task]? ≠ some (some job))
    (hwaiting : t.state.waiting = []) : t.next? = none := by
  have hmove : t.move? = none := by
    rcases hm : t.move? with _ | m
    · rfl
    · cases m with
      | conclude task job => exact absurd (move?_conclude hm).1 (hjobs task job)
      | begin task request =>
        obtain ⟨-, ⟨rest, hcons⟩, -⟩ := move?_begin hm
        rw [hwaiting] at hcons
        cases hcons
  rw [next?, hmove, nextDue?_eq_none.2 hjobs]
  rfl

theorem of_next?_eq_none (h : t.next? = none) : t.move? = none ∧ t.nextDue? = none := by
  unfold next? at h
  split at h
  · cases h
  · next hmove => exact ⟨hmove, Option.map_eq_none_iff.1 h⟩

/-- If each step keeps an invariant and uses up rank, the steps go on until what they are to reach
is reached, or until there are none. -/
theorem runUntil_stops {P : Timeline → Prop}
    (hstep : ∀ u u', P u → u.next? = some u' → P u' ∧ u'.rank < u.rank)
    (reached : Timeline → Bool) (n : Nat) (ht : P t) (hn : t.rank ≤ n) :
    reached (t.runUntil reached n) = true ∨ (t.runUntil reached n).next? = none := by
  induction n generalizing t with
  | zero =>
    -- without rank there is no step that could use it up
    right
    rcases hnext : t.next? with _ | t'
    · exact hnext
    · have hlt := (hstep t t' ht hnext).2
      omega
  | succ n ih =>
    rw [runUntil]
    split
    · next hreached => exact .inl hreached
    · split
      · next t' hnext =>
        obtain ⟨ht', hlt⟩ := hstep t t' ht hnext
        exact ih ht' (by omega)
      · next hnext => exact .inr hnext

end PageScan.Scheduler.Timeline

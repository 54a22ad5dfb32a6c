/-!
# Scans side by side

A scheduler has a fixed number of permits, and each of its tasks needs one to launch a browser.
Tasks get permits in the order in which they asked. A `State` is what the scheduler holds at a
moment, an `Action` one step of one task, and `State.step` says which actions are possible and what
they do; in which order actions come is left open.

A task that ends gives its permit back when its browser is closed. A task that is cancelled gives
its permit back at once, and its browser is closed in the background.
-/

namespace PageScan.Scheduler

/-- Where a task stands; `α` is what a scan results in. -/
inductive Phase (α : Type)
  | queued
  | launching
  | scanning
  | closing (result : α)
  | finished (result : α)
  | cancelled

namespace Phase

variable {α : Type}

/-- How many steps a task in this phase has before it, at most. -/
def stepsLeft : Phase α → Nat
  | .queued => 4
  | .launching => 3
  | .scanning => 2
  | .closing _ => 1
  | .finished _ | .cancelled => 0

/-- A task in this phase will not change any more. -/
def isOver : Phase α → Bool
  | .finished _ | .cancelled => true
  | _ => false

end Phase

/-- What tasks have by their phases, added up. -/
def tally {α : Type} (weight : Phase α → Nat) : List (Phase α) → Nat
  | [] => 0
  | phase :: rest => weight phase + tally weight rest

/-- A scheduler at a moment. Tasks are known by their place in `tasks`. -/
structure State (α : Type) where
  bound : Nat
  free : Nat
  /-- The tasks without a permit, the first to get one in front. -/
  waiting : List Nat
  tasks : List (Phase α)
  /-- Browsers that were launched. -/
  launches : Nat
  /-- Browsers of which the closing has begun. -/
  closings : Nat
  /-- Browsers that are closed. -/
  closes : Nat
  /-- Browsers that are being closed in the background. -/
  background : Nat
  /-- The most browsers that were open at once. -/
  peak : Nat

/-- One step of one task. -/
inductive Action (α : Type)
  /-- A new task asks for a permit. -/
  | spawn
  /-- The first task in the queue gets a permit. -/
  | grant
  /-- The browser of a task is there. -/
  | launched (task : Nat)
  /-- There is no browser for a task. -/
  | launchFailed (task : Nat) (result : α)
  /-- The scan of a task is over, and the closing of its browser begins. -/
  | scanned (task : Nat) (result : α)
  /-- The browser of a task is closed. -/
  | closed (task : Nat)
  /-- A task is cancelled. -/
  | cancel (task : Nat)
  /-- A browser that was being closed in the background is closed. -/
  | backgroundClosed

namespace State

variable {α : Type}

/-- A scheduler without tasks; there is at least one permit. -/
def start (bound : Nat) : State α :=
  ⟨max bound 1, max bound 1, [], [], 0, 0, 0, 0, 0⟩

/-- The browsers that are open. -/
def openCount (s : State α) : Nat :=
  s.launches - s.closes

/-- How many steps there can be before all tasks are over and all browsers closed. -/
def work (s : State α) : Nat :=
  tally Phase.stepsLeft s.tasks + s.background

/-- The scheduler with a task in another phase. -/
def put (s : State α) (task : Nat) (phase : Phase α) : State α :=
  { s with tasks := s.tasks.set task phase }

/-- The scheduler with one more task at the end of the queue. -/
def spawned (s : State α) : State α :=
  { s with tasks := s.tasks ++ [.queued], waiting := s.waiting ++ [s.tasks.length] }

/-- The scheduler with one more browser open. -/
def opened (s : State α) : State α :=
  { s with launches := s.launches + 1, peak := max s.peak (s.openCount + 1) }

/-- What cancelling does to a task in a phase. The browser of a task that scans is closed in the
background; where the closing has begun it is broken off. -/
def cancel (s : State α) (task : Nat) : Phase α → Option (State α)
  | .queued =>
    some { s.put task .cancelled with waiting := s.waiting.filter (· ≠ task) }
  | .launching => some { s.put task .cancelled with free := s.free + 1 }
  | .scanning =>
    some { s.put task .cancelled with
      free := s.free + 1, closings := s.closings + 1, background := s.background + 1 }
  | .closing _ => some { s.put task .cancelled with free := s.free + 1 }
  | .finished _ | .cancelled => some s

/-- The scheduler after an action, if that action is possible. -/
def step (s : State α) : Action α → Option (State α)
  | .spawn => some s.spawned
  | .grant =>
    match s.free, s.waiting with
    | free + 1, task :: rest =>
      some { s.put task .launching with free := free, waiting := rest }
    | _, _ => none
  | .launched task =>
    match s.tasks[task]? with
    | some .launching => some (s.put task .scanning).opened
    | _ => none
  | .launchFailed task result =>
    match s.tasks[task]? with
    | some .launching => some { s.put task (.finished result) with free := s.free + 1 }
    | _ => none
  | .scanned task result =>
    match s.tasks[task]? with
    | some .scanning =>
      some { s.put task (.closing result) with closings := s.closings + 1 }
    | _ => none
  | .closed task =>
    match s.tasks[task]? with
    | some (.closing result) =>
      some { s.put task (.finished result) with closes := s.closes + 1, free := s.free + 1 }
    | _ => none
  | .cancel task =>
    match s.tasks[task]? with
    | some phase => s.cancel task phase
    | none => none
  | .backgroundClosed =>
    match s.background with
    | n + 1 => some { s with background := n, closes := s.closes + 1 }
    | 0 => none

/-- The scheduler after a run of actions, if each is possible in its turn. -/
def run (s : State α) : List (Action α) → Option (State α)
  | [] => some s
  | a :: as => (s.step a).bind fun s => s.run as

/-- The result that joining a task gives: that of its scan, or `none` if it was cancelled. It is
there only when the task is over. -/
def joined? (s : State α) (task : Nat) : Option (Option α) :=
  match s.tasks[task]? with
  | some (.finished result) => some (some result)
  | some .cancelled => some none
  | _ => none

end State

end PageScan.Scheduler

import PageScan.Scan.Pipeline
import PageScan.Scheduler.Machine

/-!
# Schedules

What a scheduler does on the clock of a machine that is quick enough: every step that can be taken
is taken at once, and time passes only while browsers are launched, pages scanned, and browsers
closed. How long each of these takes, and what comes of it, is up to the launcher.

* `Timeline.next?` is the next step of a scheduler, which may be that time passes.
* `Timeline.scanAll` runs a scan for each request.
-/

namespace PageScan.Scheduler

/-- What a scan comes to. -/
abbrev Outcome := Except ScanError ScanReport

/-- A scan that was run: how long it takes, what it results in, and what it makes known, each with
the time since its start. -/
structure ScanRun where
  durationMs : Nat
  outcome : Outcome
  notices : List (Nat × Notice)

/-- A browser: how the scan of its page goes, and how long its closing takes. -/
structure Browser where
  run : ScanRun
  closeMs : Nat

/-- An attempt to launch a browser: how long it takes, and what comes of it. -/
structure Launch where
  delayMs : Nat
  browser : Except PageError Browser

/-- What launches browsers. It knows how many attempts there were before. -/
structure Launcher where
  launch : (attempt : Nat) → ScanRequest → Launch

/-- What is going on for a task, with what will come of it. -/
inductive Activity
  | launching (browser : Except ScanError Browser)
  | scanning (browser : Browser)
  | closing
  /-- The task was cancelled, and its browser is closed in the background. -/
  | abandoned

/-- An activity with the time at which it began and that at which it is over. -/
structure Job where
  since : Nat
  due : Nat
  activity : Activity

/-- A scheduler on a clock. -/
structure Timeline where
  launcher : Launcher
  now : Nat
  state : State Outcome
  requests : List ScanRequest
  /-- How many attempts there were to launch a browser. -/
  attempts : Nat
  /-- What is going on for each task. -/
  jobs : List (Option Job)
  /-- What scans made known that are over. -/
  past : List (Nat × Notice)

/-- A step for which no time has to pass. -/
inductive Move
  /-- What was going on for a task is over. -/
  | conclude (task : Nat) (job : Job)
  /-- The first task in the queue gets its permit. -/
  | begin (task : Nat) (request : ScanRequest)

/-- What a scan has made known up to a time. -/
def Job.madeKnown (job : Job) (now : Nat) : List (Nat × Notice) :=
  match job.activity with
  | .scanning browser =>
    (browser.run.notices.map fun (time, n) => (job.since + time, n)).filter fun n => n.1 ≤ now
  | _ => []

/-- The error of a task for which no browser could be launched. -/
def launchError (request : ScanRequest) (e : PageError) : ScanError :=
  .session request.url ("failed to launch browser: " ++ e.message)

/-- What comes of an attempt to launch a browser for a request. -/
def Launch.result (l : Launch) (request : ScanRequest) : Except ScanError Browser :=
  l.browser.mapError (launchError request)

namespace Timeline

/-- A scheduler at the start of its clock. -/
def start (launcher : Launcher) (bound : Nat) : Timeline :=
  ⟨launcher, 0, .start bound, [], 0, [], []⟩

/-- Takes an action if it is possible. -/
def act (t : Timeline) (a : Action Outcome) : Timeline :=
  { t with state := (t.state.step a).getD t.state }

/-- Another thing, or nothing, is going on for a task. -/
def put (t : Timeline) (task : Nat) (job : Option Job) : Timeline :=
  { t with jobs := t.jobs.set task job }

/-- From now on this is going on for a task. -/
def putFor (t : Timeline) (task ms : Nat) (activity : Activity) : Timeline :=
  t.put task (some ⟨t.now, t.now + ms, activity⟩)

/-- The tasks for which something is going on. -/
def pending (t : Timeline) : List (Nat × Job) :=
  t.jobs.zipIdx.filterMap fun (job, task) => job.map fun job => (task, job)

/-- The step that can be taken now: the first activity that is over ends, or else the first task in
the queue begins. -/
def move? (t : Timeline) : Option Move :=
  match t.pending.find? fun (_, job) => job.due ≤ t.now with
  | some (task, job) => some (.conclude task job)
  | none =>
    match t.state.free, t.state.waiting with
    | _ + 1, task :: _ => (t.requests[task]?).map (.begin task)
    | _, _ => none

/-- What was going on for a task is over, and what comes next begins. -/
def conclude (t : Timeline) (task : Nat) (job : Job) : Timeline :=
  match job.activity with
  | .launching (.error e) => (t.act (.launchFailed task (.error e))).put task none
  | .launching (.ok browser) =>
    (t.act (.launched task)).putFor task browser.run.durationMs (.scanning browser)
  | .scanning browser =>
    { (t.act (.scanned task browser.run.outcome)).putFor task browser.closeMs .closing with
      past := t.past ++ job.madeKnown t.now }
  | .closing => (t.act (.closed task)).put task none
  | .abandoned => (t.act .backgroundClosed).put task none

/-- The first task in the queue gets its permit, and a browser is launched for it. -/
def begin (t : Timeline) (task : Nat) (request : ScanRequest) : Timeline :=
  let launch := t.launcher.launch t.attempts request
  { (t.act .grant).putFor task launch.delayMs (.launching (launch.result request)) with
    attempts := t.attempts + 1 }

/-- Takes a step. -/
def make (t : Timeline) : Move → Timeline
  | .conclude task job => t.conclude task job
  | .begin task request => t.begin task request

/-- When the next activity is over. -/
def nextDue? (t : Timeline) : Option Nat :=
  (t.pending.map fun (_, job) => job.due).min?

/-- Time passes. -/
def pass (t : Timeline) (time : Nat) : Timeline :=
  { t with now := max t.now time }

/-- The next step: one that can be taken now, or else time passes until one can be taken. -/
def next? (t : Timeline) : Option Timeline :=
  match t.move? with
  | some m => some (t.make m)
  | none => t.nextDue?.map t.pass

/-- Takes up to so many steps, until something is the case. -/
def runUntil (reached : Timeline → Bool) : Nat → Timeline → Timeline
  | 0, t => t
  | n + 1, t =>
    if reached t then t
    else
      match t.next? with
      | some t => runUntil reached n t
      | none => t

/-- How many steps there can be: before each but the last, time may have to pass. -/
def stepsLeft (t : Timeline) : Nat :=
  2 * t.state.work + 1

/-- No step can be taken without time passing. -/
def isSettled (t : Timeline) : Bool :=
  t.move?.isNone

/-- Takes all steps that can be taken without time passing. -/
def settle (t : Timeline) : Timeline :=
  t.runUntil isSettled t.stepsLeft

/-- Lets time pass to a moment. -/
def passTo (t : Timeline) (time : Nat) : Timeline :=
  let reached (t : Timeline) := t.isSettled && t.nextDue?.all (time < ·)
  (t.runUntil reached t.stepsLeft).pass time

/-- Lets time pass. -/
def sleep (t : Timeline) (ms : Nat) : Timeline :=
  t.passTo (t.now + ms)

/-- A new task for a request asks for a permit. -/
def ask (t : Timeline) (request : ScanRequest) : Timeline :=
  { t.act .spawn with requests := t.requests ++ [request], jobs := t.jobs ++ [none] }

/-- A new task for a request, and its number. -/
def spawn (t : Timeline) (request : ScanRequest) : Nat × Timeline :=
  (t.requests.length, (t.ask request).settle)

/-- Cancels a task. A browser that this leaves is closed in the background. -/
def cancel (t : Timeline) (task : Nat) : Timeline :=
  let stopped := match t.jobs[task]?.join with
    | some job =>
      match job.activity with
      | .scanning browser =>
        { t.putFor task browser.closeMs .abandoned with past := t.past ++ job.madeKnown t.now }
      | .abandoned => t
      | .launching _ | .closing => t.put task none
    | none => t
  (stopped.act (.cancel task)).settle

/-- The task is over. -/
def isOver (t : Timeline) (task : Nat) : Bool :=
  (t.state.tasks[task]?).any Phase.isOver

/-- Lets time pass until tasks are over. -/
def await (t : Timeline) (tasks : List Nat) : Timeline :=
  (t.runUntil (fun t => tasks.all t.isOver) t.stepsLeft).settle

/-- What joining a task gives. -/
def outcome (t : Timeline) (task : Nat) : Outcome :=
  let url := (t.requests[task]?.map ScanRequest.url).getD ""
  match t.state.joined? task with
  | some (some outcome) => outcome
  | _ => .error (.cancelled url)

/-- New tasks for requests, all of which ask before the first one begins. -/
def askAll (t : Timeline) (requests : List ScanRequest) : Timeline :=
  requests.foldl ask t

/-- Runs a scan for each request, and their outcomes in the order of the requests. -/
def scanAll (t : Timeline) (requests : List ScanRequest) : List Outcome × Timeline :=
  let tasks := List.range' t.requests.length requests.length
  let done := (t.askAll requests).await tasks
  (tasks.map done.outcome, done)

/-- The counts after all that was made known up to now. -/
def metrics (t : Timeline) : Metrics :=
  ({} : Metrics).after (t.past ++ t.pending.flatMap fun (_, job) => job.madeKnown t.now)

end Timeline

/-- The run of a scan on a page of its own. -/
def ScanRun.ofPipeline {σ : Type} (p : Pipeline) (identity : ScanIdentity) (page : Page σ)
    (state : σ) (endpoint : BrowserEndpoint) (request : ScanRequest) : ScanRun :=
  let (outcome, world) := p.run identity page endpoint request (World.start state)
  ⟨world.now, outcome, world.notices⟩

/-- A browser with a page of its own, on which a pipeline runs one scan. -/
structure Session (σ : Type) where
  pipeline : Pipeline
  identity : ScanIdentity
  page : Page σ
  state : σ
  endpoint : BrowserEndpoint
  closeMs : Nat

/-- The browser of a session, for a request. -/
def Session.browser {σ : Type} (s : Session σ) (request : ScanRequest) : Browser :=
  ⟨.ofPipeline s.pipeline s.identity s.page s.state s.endpoint request, s.closeMs⟩

/-- What launches a browser for each scan: after how long, and with which session. -/
def Launcher.ofSessions {σ : Type}
    (session : Nat → ScanRequest → Nat × Except PageError (Session σ)) : Launcher where
  launch attempt request :=
    let (delayMs, session) := session attempt request
    ⟨delayMs, session.map (·.browser request)⟩

end PageScan.Scheduler

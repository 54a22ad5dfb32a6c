import Mathlib.Data.List.Forall2
import Mathlib.Tactic.Set
import PageScan.Proofs.Scan.Shift
import PageScan.Proofs.Scheduler.Outcomes

/-!
# Scans do not depend on each other

Every scan has a page of its own, and its limits count from its own beginning. So it makes no
difference to what a scan reports how many scans may run at once, how long it waits for its turn,
and whether there are other scans at all.

* `Site`: what is a scan's own.
* `Circumstance`: what may change from one schedule to another without changing the reports.
* `sameScan_scanAt`: a scan in a schedule comes to what it comes to at any other time.
* `scanAll_independent`: the results under two bounds are the same, and the same as those of each
  scan alone.
-/

namespace PageScan

/-- The pipeline with another bound on the browsers that run at once. -/
def Pipeline.withBound (p : Pipeline) (bound : Nat) : Pipeline :=
  { p with config := { p.config with scheduler := ⟨bound⟩ } }

namespace Pipeline

variable {σ : Type} (p : Pipeline) (bound : Nat) (page : Page σ)

@[simp] theorem install_withBound (url : String) :
    (p.withBound bound).install page url = p.install page url := by
  unfold install
  apply bind_congr
  rintro (_ | _)
  · rfl
  · rfl

@[simp] theorem inspect_withBound (url : String) :
    (p.withBound bound).inspect page url = p.inspect page url := by
  unfold inspect
  rw [install_withBound]
  rfl

/-- No scan asks how many browsers may run at once. -/
@[simp] theorem run_withBound (identity : ScanIdentity) (endpoint : BrowserEndpoint)
    (request : ScanRequest) :
    (p.withBound bound).run identity page endpoint request =
      p.run identity page endpoint request := by
  unfold run stages
  rw [inspect_withBound]
  rfl

end Pipeline

namespace Scheduler

variable {σ : Type}

/-- What is a scan's own: a page in a state, and where its browser listens. -/
structure Site (σ : Type) where
  page : Page σ
  state : σ
  endpoint : BrowserEndpoint

/-- What may be different each time: identifier and time of day, and how long a browser takes to
come up and to close. -/
structure Circumstance where
  identity : ScanIdentity
  launchMs : Nat
  closeMs : Nat

/-- The session of a scan at its site. -/
def Site.session (site : Site σ) (p : Pipeline) (c : Circumstance) : Session σ :=
  ⟨p, c.identity, site.page, site.state, site.endpoint, c.closeMs⟩

/-- Which site each attempt to launch a browser gives, if it gives one. -/
abbrev Sites (σ : Type) := Nat → Except PageError (Site σ)

/-- A scheduler for a pipeline, with the bound of its configuration. -/
def Sites.scheduler (sites : Sites σ) (p : Pipeline) (circumstances : Nat → Circumstance) :
    Timeline :=
  .start (.ofSessions fun attempt _ =>
      ((circumstances attempt).launchMs, (sites attempt).map (·.session p (circumstances attempt))))
    p.config.scheduler.maxConcurrentBrowsers

/-- What a scan by itself comes to at its site, if it begins at this time. -/
def scanAt (p : Pipeline) (identity : ScanIdentity) (time : Nat) (request : ScanRequest) :
    Except PageError (Site σ) → Outcome
  | .error e => .error (launchError request e)
  | .ok site =>
    (p.run identity site.page site.endpoint request ((World.start site.state).later time)).1

section Results

variable (sites : Sites σ) (p : Pipeline)

/-- A scan comes to the same in a schedule and by itself, whenever it begins. -/
theorem sameScan_scanAt (bound : Nat) (circumstances : Nat → Circumstance) (identity : ScanIdentity)
    (time attempt : Nat) (request : ScanRequest) :
    SameScan
      (((sites.scheduler (p.withBound bound) circumstances).launcher.launch attempt request).outcome
        request)
      (scanAt p identity time request (sites attempt)) := by
  set circumstance := circumstances attempt
  have hresult : ((sites.scheduler (p.withBound bound) circumstances).launcher.launch attempt
      request).result request = (((sites attempt).map
        (·.session (p.withBound bound) circumstance)).map (·.browser request)).mapError
          (launchError request) := rfl
  rw [Launch.outcome, hresult]
  rcases sites attempt with e | site
  · exact .failed _
  · show SameScan ((p.withBound bound).run circumstance.identity site.page site.endpoint request
      (World.start site.state)).1 _
    rw [Pipeline.run_withBound]
    exact (Pipeline.later_run p site.page _ _ site.endpoint request (World.start site.state)).1

theorem scanAll_scheduler (circumstances : Nat → Circumstance) (requests : List ScanRequest) :
    ((sites.scheduler p circumstances).scanAll requests).1 =
      requests.zipIdx.map fun (request, k) =>
        ((sites.scheduler p circumstances).launcher.launch k request).outcome request := by
  obtain ⟨t, hresults, -⟩ := Timeline.scanAll_eq
    (sites.scheduler p circumstances).launcher p.config.scheduler.maxConcurrentBrowsers requests
  exact congrArg Prod.fst hresults

/-- Under any two bounds, and in all circumstances, the results are the same. Each of them is that
of a schedule for the one request alone, and that of the scan by itself at any time. -/
theorem scanAll_independent (requests : List ScanRequest) (bound bound' : Nat)
    (circumstances circumstances' : Nat → Circumstance) (alone : Nat → Nat → Circumstance)
    (identity : Nat → ScanIdentity) (time : Nat → Nat) :
    let results := ((sites.scheduler (p.withBound bound) circumstances).scanAll requests).1
    List.Forall₂ SameScan results
        ((sites.scheduler (p.withBound bound') circumstances').scanAll requests).1 ∧
      List.Forall₂ SameScan results
        (requests.zipIdx.flatMap fun (request, k) =>
          ((Sites.scheduler (fun attempt => sites (k + attempt)) (p.withBound bound')
            (alone k)).scanAll [request]).1) ∧
      List.Forall₂ SameScan results
        (requests.zipIdx.map fun (request, k) =>
          scanAt p (identity k) (time k) request (sites k)) := by
  have hscan {bound : Nat} {circumstances : Nat → Circumstance} (sites : Sites σ)
      (request : ScanRequest) (attempt : Nat) :=
    sameScan_scanAt sites p bound circumstances (identity attempt) (time attempt) attempt request
  simp only [scanAll_scheduler, List.zipIdx_cons, List.zipIdx_nil, List.map_cons, List.map_nil,
    ← List.map_eq_flatMap, List.forall₂_map_left_iff, List.forall₂_map_right_iff,
    List.forall₂_same]
  refine ⟨?_, ?_, ?_⟩
  · rintro ⟨request, k⟩ -
    exact (hscan sites request k).trans (hscan sites request k).symm
  · rintro ⟨request, k⟩ -
    -- alone, the scan is at the site that the first attempt gives
    have halone := sameScan_scanAt (fun attempt => sites (k + attempt)) p bound' (alone k)
      (identity k) (time k) 0 request
    exact (hscan sites request k).trans halone.symm
  · rintro ⟨request, k⟩ -
    exact hscan sites request k

end Results

end Scheduler

end PageScan

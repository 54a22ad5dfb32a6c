import PageScan.Proofs.Scheduler.Fifo

/-!
# What scans come to

* `scanAll_eq`: each request has the outcome of the scan that its own launch leads to, in the order
  of the requests, and one browser was asked for each.
* `exists_of_outcome`: a report comes from a run of the pipeline in a session.
-/

namespace PageScan.Scheduler

namespace Timeline

variable {launcher : Launcher} {bound : Nat} {requests : List ScanRequest} {t : Timeline}

/-- Who waits for all tasks waits until there are no more steps. -/
theorem Orderly.await (ho : Orderly launcher bound requests t) :
    Orderly launcher bound requests (t.await (List.range' 0 requests.length)) ∧
      (t.await (List.range' 0 requests.length)).next? = none := by
  have hstep (u u' : Timeline) (hu : Orderly launcher bound requests u) (hnext : u.next? = some u') :=
    hu.next hnext
  unfold Timeline.await
  generalize hover : (fun t : Timeline => (List.range' 0 requests.length).all t.isOver) = reached
  have hdone : Orderly launcher bound requests (t.runUntil reached t.stepsLeft) :=
    (reaches_runUntil reached t.stepsLeft .refl).invariant ho fun u u' hu hnext =>
      (hstep u u' hu hnext).1
  have hnext : (t.runUntil reached t.stepsLeft).next? = none := by
    refine (runUntil_stops hstep reached t.stepsLeft ho t.rank_le_stepsLeft).elim (fun h => ?_) id
    have hall := List.all_eq_true.1 ((congrFun hover _).trans h)
    exact hdone.next?_eq_none_of_isOver fun task htask =>
      hall task (by simpa [List.mem_range'] using htask)
  rw [settle, runUntil_of_next?_eq_none _ _ hnext]
  exact ⟨hdone, hnext⟩

/-- Each request comes to what its own launch leads to, after as many attempts as there are requests
before it. At the end there is nothing more to do. -/
theorem scanAll_eq (launcher : Launcher) (bound : Nat) (requests : List ScanRequest) :
    ∃ t, (start launcher bound).scanAll requests =
        (requests.zipIdx.map fun (request, task) =>
          (launcher.launch task request).outcome request, t) ∧
      t.requests = requests ∧ t.attempts = requests.length ∧ t.next? = none := by
  have hasked := (Orderly.start launcher bound).askAll requests
  rw [List.nil_append] at hasked
  obtain ⟨hdone, hnext⟩ := hasked.await
  have hbound : 0 < max bound 1 := Nat.lt_of_lt_of_le Nat.one_pos (Nat.le_max_right _ _)
  refine ⟨_, Prod.ext (List.ext_getElem (by simp [scanAll]) fun task hlt hlt' => ?_) rfl,
    hdone.requests_eq, hdone.attempts_eq hbound hnext, hnext⟩
  have hrequest : task < requests.length := by simpa using hlt'
  simp only [scanAll, List.getElem_map, List.getElem_range', List.getElem_zipIdx, Nat.one_mul]
  show Timeline.outcome _ (0 + task) = _
  rw [Nat.zero_add]
  exact outcome_of_finished (hdone.finished hbound hnext (List.getElem?_eq_getElem hrequest))

end Timeline

/-- What is reported by a scan in a session is what the pipeline reports of its page. -/
theorem exists_of_outcome {σ : Type}
    {session : Nat → ScanRequest → Nat × Except PageError (Session σ)} {attempt : Nat}
    {request : ScanRequest} {report : ScanReport}
    (h : ((Launcher.ofSessions session).launch attempt request).outcome request = .ok report) :
    ∃ s, (session attempt request).2 = .ok s ∧
      (s.pipeline.run s.identity s.page s.endpoint request (World.start s.state)).1 = .ok report := by
  have hresult : ((Launcher.ofSessions session).launch attempt request).result request =
      (((session attempt request).2.map (·.browser request)).mapError (launchError request)) := rfl
  rw [Launch.outcome, hresult] at h
  rcases hsession : (session attempt request).2 with e | s <;> rw [hsession] at h
  · cases h
  · exact ⟨s, rfl, h⟩

end PageScan.Scheduler

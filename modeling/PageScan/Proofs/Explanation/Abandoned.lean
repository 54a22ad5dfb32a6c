import PageScan.Proofs.Explanation.Requests

/-!
# Abandoned requests for explanations

A request may be abandoned while the service has not answered it. Nothing tells the book, to which
the call is like one that is never answered.

* `FreeStep`, `FreeRun`: the steps of a desk, and requests that are abandoned between them.
* `counting`: a desk with the calls of abandoned requests, as if these were still under way. All
  steps keep it `Sound`.
* `Stranded`: findings for which the call was abandoned.
* `stranded_of_run`: these are pending from then on, and nobody is called about them again. Apart
  from them, a finding is pending exactly as long as a call for it is under way.
-/

namespace PageScan.ExplanationDesk

open ExplanationBook (IsServed)

variable {d d' : ExplanationDesk} {c : ExplanationCall} {key : ExplanationKey}
  {left : List ExplanationCall}

/-! ## Steps and runs -/

/-- What can happen next at a desk where requests may be abandoned. -/
inductive FreeStep : ExplanationDesk → ExplanationDesk → Prop
  | step {d d' : ExplanationDesk} (h : DeskStep d d') : FreeStep d d'
  | abandon (d : ExplanationDesk) (request : Nat) : FreeStep d (d.abandon request)

/-- Any number of such steps. -/
abbrev FreeRun : ExplanationDesk → ExplanationDesk → Prop :=
  Relation.ReflTransGen FreeStep

/-- A call about the finding was under way when its request was abandoned. -/
def Stranded (key : ExplanationKey) (d : ExplanationDesk) : Prop :=
  ∃ before c, FreeRun {} before ∧ c ∈ before.calls ∧ c.key = key ∧
    FreeRun (before.abandon c.request) d

theorem Stranded.run (h : Stranded key d) (hrun : FreeRun d d') : Stranded key d' := by
  obtain ⟨before, c, hbefore, hc, hkey, hafter⟩ := h
  exact ⟨before, c, hbefore, hc, hkey, hafter.trans hrun⟩

/-! ## Calls that nobody waits for -/

/-- The desk with further calls under way. -/
def counting (d : ExplanationDesk) (left : List ExplanationCall) : ExplanationDesk :=
  { d with calls := d.calls ++ left }

namespace Sound

theorem perm (h : d.Sound) {calls : List ExplanationCall} (hperm : calls.Perm d.calls) :
    Sound { d with calls } where
  one_call := (hperm.map _).nodup_iff.2 h.one_call
  request_lt c hc := h.request_lt c (hperm.subset hc)
  numbers := (hperm.map _).nodup_iff.2 h.numbers
  pending_iff key := by
    rw [h.pending_iff key]
    exact exists_congr fun c => and_congr_left fun _ => hperm.mem_iff.symm
  shown := h.shown

theorem pending_of_counting (h : (d.counting left).Sound) (hc : c ∈ left) :
    d.book.state c.key = .pending :=
  (h.pending_iff c.key).2 ⟨c, List.mem_append_right _ hc, rfl⟩

/-- There is no second call about the finding. -/
theorem key_ne_of_counting (h : (d.counting left).Sound) (hc : c ∈ left) :
    ∀ other ∈ d.calls, other.key ≠ c.key := by
  intro other hother hkey
  have hnodup := h.one_call
  rw [counting, List.map_append] at hnodup
  exact List.disjoint_of_nodup_append hnodup (List.mem_map_of_mem hother)
    (hkey ▸ List.mem_map_of_mem hc)

theorem counting_answer (h : (d.counting left).Sound) (hc : c ∈ d.calls) :
    ((d.answer c).counting left).Sound := by
  have hanswered := h.answer (List.mem_append_left left hc)
  -- The answer takes away the calls of one request, and none of those that are left is of it.
  have hleft : left.filter (fun other => other.request ≠ c.request) = left := by
    refine List.filter_eq_self.2 fun other hother => ?_
    have hnumbers := h.numbers
    rw [counting, List.map_append] at hnumbers
    have hne : other.request ≠ c.request := fun heq =>
      List.disjoint_of_nodup_append hnumbers (List.mem_map_of_mem hc)
        (heq ▸ List.mem_map_of_mem hother)
    simpa using hne
  refine hanswered.perm (.of_eq ?_)
  simp only [ExplanationDesk.answer, counting, List.filter_append, hleft]

theorem counting_calling (h : (d.counting left).Sound) (text : String)
    (hrequest : c.request = d.requests) (hserved : ¬IsServed (d.book.state c.key)) :
    ((d.calling text c).counting left).Sound := by
  -- The new call is put in front of those that are left, not behind them.
  refine (h.calling text hrequest hserved).perm ?_
  simp only [ExplanationDesk.calling, counting, List.append_assoc]
  exact List.perm_append_comm.append_left d.calls

theorem counting_request (h : (d.counting left).Sound) (key : ExplanationKey) (text : String)
    (delayMs : Nat) (reply : ServiceAnswer) :
    ((d.request key text delayMs reply).2.counting left).Sound := by
  by_cases hserved : IsServed (d.book.state key)
  · rw [request_of_isServed d key text delayMs reply hserved]
    exact h.telling key
  · have hcalling : ((d.calling text (d.nextCall key delayMs reply)).counting left).Sound :=
      h.counting_calling text rfl hserved
    rw [request_of_not_isServed d key text delayMs reply hserved]
    split
    · exact hcalling.counting_answer (List.mem_append_right _ (List.mem_singleton_self _))
    · exact hcalling

theorem counting_step (h : (d.counting left).Sound) (hstep : DeskStep d d') :
    (d'.counting left).Sound := by
  cases hstep with
  | request key text delayMs reply => exact h.counting_request key text delayMs reply
  | answer hc => exact h.counting_answer hc
  | pass now => exact h.pass now

/-- The call of an abandoned request joins those that nobody waits for. -/
theorem counting_abandon (h : (d.counting left).Sound) (request : Nat) :
    ((d.abandon request).counting (d.calls.filter (fun c => c.request = request) ++ left)).Sound := by
  unfold abandon
  split
  · have hsplit : (d.calls.filter (fun c => c.request ≠ request) ++
        d.calls.filter fun c => c.request = request).Perm d.calls := by
      simpa using List.filter_append_perm (fun c => c.request ≠ request) d.calls
    have hsound := h.perm (hsplit.append_right left)
    rw [List.append_assoc] at hsound
    exact { hsound with }
  · next hnone =>
    have hfilter : d.calls.filter (fun c => c.request = request) = [] := by
      simpa [List.filter_eq_nil_iff] using hnone
    rwa [hfilter]

/-- Calls that nobody waits for stay, and others join them when their requests are abandoned. -/
theorem counting_freeStep (h : (d.counting left).Sound) (hstep : FreeStep d d') :
    ∃ left', (d'.counting left').Sound ∧ left ⊆ left' ∧
      ∀ c ∈ left', c ∈ left ∨ c ∈ d.calls ∧ d' = d.abandon c.request := by
  cases hstep with
  | step hstep => exact ⟨left, h.counting_step hstep, List.Subset.refl _, fun c hc => .inl hc⟩
  | abandon request =>
    refine ⟨_, h.counting_abandon request, List.subset_append_right .., fun c hc => ?_⟩
    rcases List.mem_append.1 hc with hc | hc
    · obtain ⟨hcall, heq⟩ := List.mem_filter.1 hc
      obtain rfl : c.request = request := by simpa using heq
      exact .inr ⟨hcall, rfl⟩
    · exact .inl hc

theorem counting_freeRun (h : (d.counting left).Sound) (hrun : FreeRun d d') :
    ∃ left', (d'.counting left').Sound ∧ left ⊆ left' := by
  induction hrun with
  | refl => exact ⟨left, h, List.Subset.refl _⟩
  | tail _ hstep ih =>
    obtain ⟨left₁, hsound, hsub⟩ := ih
    obtain ⟨left₂, hsound, hsub', -⟩ := hsound.counting_freeStep hstep
    exact ⟨left₂, hsound, fun c hc => hsub' (hsub hc)⟩

end Sound

/-! ## Every run -/

/-- The calls that nobody waits for are those about stranded findings. -/
theorem sound_of_freeRun (h : FreeRun {} d) :
    ∃ left, (d.counting left).Sound ∧ ∀ c ∈ left, Stranded c.key d := by
  induction h with
  | refl => exact ⟨[], Sound.start, by simp⟩
  | tail hrun hstep ih =>
    obtain ⟨left, hsound, hstranded⟩ := ih
    obtain ⟨left', hsound', -, hfrom⟩ := hsound.counting_freeStep hstep
    refine ⟨left', hsound', fun c hc => ?_⟩
    rcases hfrom c hc with hc | ⟨hc, rfl⟩
    · exact (hstranded c hc).run (.single hstep)
    · exact ⟨_, c, hrun, hc, rfl, .refl⟩

theorem Stranded.exists_left (h : Stranded key d) :
    ∃ left, (d.counting left).Sound ∧ ∃ c ∈ left, c.key = key := by
  obtain ⟨before, c, hbefore, hc, hkey, hafter⟩ := h
  obtain ⟨left, hsound, -⟩ := sound_of_freeRun hbefore
  obtain ⟨left', hsound', hsub⟩ := (hsound.counting_abandon c.request).counting_freeRun hafter
  refine ⟨left', hsound', c, hsub (List.mem_append_left _ ?_), hkey⟩
  simpa using hc

/-- A stranded finding is pending, no call about it is under way, and whoever asks is told so. -/
theorem Stranded.told (h : Stranded key d) :
    d.book.state key = .pending ∧ (∀ c ∈ d.calls, c.key ≠ key) ∧
      ∀ text delayMs reply, Told d key (d.request key text delayMs reply).2 := by
  obtain ⟨left, hsound, c, hc, rfl⟩ := h.exists_left
  have hpending := hsound.pending_of_counting hc
  refine ⟨hpending, hsound.key_ne_of_counting hc, fun text delayMs reply => ?_⟩
  rw [request_of_isServed d c.key text delayMs reply (hpending ▸ trivial)]
  exact ⟨rfl, rfl, rfl, rfl⟩

/-- A finding is pending as long as a call for it is under way, or for ever once the request behind
that call has been abandoned: then every later request about it is told that it is pending, and the
service is not called. -/
theorem stranded_of_run (h : FreeRun {} d) (key : ExplanationKey) :
    (d.book.state key = .pending ↔ (∃ c ∈ d.calls, c.key = key) ∨ Stranded key d) ∧
      (Stranded key d → ∀ d', FreeRun d d' →
        d'.book.state key = .pending ∧ (∀ c ∈ d'.calls, c.key ≠ key) ∧
          ∀ text delayMs reply, Told d' key (d'.request key text delayMs reply).2) := by
  refine ⟨⟨fun hpending => ?_, ?_⟩, fun hstranded d' hrun => (hstranded.run hrun).told⟩
  · obtain ⟨left, hsound, hleft⟩ := sound_of_freeRun h
    obtain ⟨c, hc, rfl⟩ := (hsound.pending_iff key).1 hpending
    rcases List.mem_append.1 hc with hc | hc
    · exact .inl ⟨c, hc, rfl⟩
    · exact .inr (hleft c hc)
  · rintro (⟨c, hc, rfl⟩ | hstranded)
    · obtain ⟨left, hsound, -⟩ := sound_of_freeRun h
      exact (hsound.pending_iff c.key).2 ⟨c, List.mem_append_left _ hc, rfl⟩
    · exact hstranded.told.1

/-- A request that was abandoned before the service answered. -/
def forsaken : ExplanationDesk :=
  (request {} (.violation "region") "No landmarks." 20 (.ok "Add a landmark.")).2.abandon 0

theorem run_forsaken : FreeRun {} forsaken :=
  .tail (.tail .refl (.step (.request ..))) (.abandon ..)

theorem stranded_forsaken :
    FreeRun {} forsaken ∧ Stranded (.violation "region") forsaken ∧
      ∀ d, FreeRun forsaken d → d.book.state (.violation "region") = .pending := by
  have hstranded : Stranded (.violation "region") forsaken :=
    ⟨_, ⟨0, .violation "region", 20, .ok "Add a landmark."⟩, .single (.step (.request ..)),
      .head _, rfl, .refl⟩
  have h := stranded_of_run run_forsaken (.violation "region")
  exact ⟨run_forsaken, hstranded, fun d hrun => (h.2 hstranded d hrun).1⟩

/-- A finding can be pending though nobody is called about it, and then the next request about it
does not call the service either. -/
theorem not_awaited_forsaken :
    FreeRun {} forsaken ∧ forsaken.calls = [] ∧
      forsaken.book.state (.violation "region") = .pending ∧
      ((forsaken.request (.violation "region") "No landmarks." 0 (.ok "Add one.")).2.result? 1 =
        some (some .pending)) ∧
      (forsaken.request (.violation "region") "No landmarks." 0 (.ok "Add one.")).2.prompts =
        [explanationPrompt "No landmarks."] :=
  ⟨run_forsaken, rfl, by decide, by decide, rfl⟩

end PageScan.ExplanationDesk

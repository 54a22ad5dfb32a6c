import Mathlib.Data.List.Nodup
import Mathlib.Logic.Relation
import PageScan.Explanation.Book
import PageScan.Proofs.Text.Blank

/-!
# Requests for explanations

What a desk goes through while requests about any findings and answers of the service come in any
order.

* `DeskStep`, `DeskRun`: a request, an answer to a call that is under way, and the passing of time.
* `Sound`: the states of the book and the calls that are under way fit together; every step keeps
  this (`Sound.step`).
* `run_passTo`, `run_await`: what the desk does by the clock is made of such steps.
* `explained_of_run`: what holds at every moment of a run, and what a request and an answer do
  then.
-/

namespace PageScan

namespace ExplanationBook

variable (b : ExplanationBook) (key : ExplanationKey) (s : ExplanationState)

theorem lookup_filter_of_ne {k : ExplanationKey} (hk : k ≠ key)
    (entries : List (ExplanationKey × ExplanationState)) :
    (entries.filter fun e => e.1 ≠ key).lookup k = entries.lookup k := by
  induction entries with
  | nil => rfl
  | cons e rest ih =>
    obtain ⟨k', s'⟩ := e
    by_cases hkey : k' = key
    · subst hkey
      rw [List.filter_cons_of_neg (by simp), ih, List.lookup_cons, beq_false_of_ne hk]
    · rw [List.filter_cons_of_pos (by simpa using hkey), List.lookup_cons, List.lookup_cons, ih]

@[simp]
theorem state_set_self : (b.set key s).state key = s := by
  simp [state, set]

theorem state_set_of_ne {k : ExplanationKey} (hk : k ≠ key) :
    (b.set key s).state k = b.state k := by
  simp only [state, set]
  rw [List.lookup_cons, beq_false_of_ne hk, lookup_filter_of_ne key hk]

/-- Nobody is called about the finding: a call is under way or has brought an explanation. -/
def IsServed : ExplanationState → Prop
  | .pending | .resolved _ => True
  | .unrequested | .failed _ => False

theorem ask_of_isServed (h : IsServed (b.state key)) : b.ask key = (.known (b.state key), b) := by
  unfold ask
  cases hstate : b.state key with
  | pending => rfl
  | resolved text => rfl
  | unrequested => simp [IsServed, hstate] at h
  | failed text => simp [IsServed, hstate] at h

theorem ask_of_not_isServed (h : ¬IsServed (b.state key)) :
    b.ask key = (.call, b.set key .pending) := by
  unfold ask
  cases hstate : b.state key with
  | pending => simp [IsServed, hstate] at h
  | resolved text => simp [IsServed, hstate] at h
  | unrequested => rfl
  | failed text => rfl

/-- An explanation is neither empty nor surrounded by white space, and what is shown for want of
one is the placeholder. -/
def IsShown : ExplanationState → Prop
  | .resolved text => text ≠ "" ∧ Text.trim text = text
  | .failed text => text = ExplanationState.unavailable
  | .unrequested | .pending => True

theorem isShown_stateOf (answer : ServiceAnswer) : IsShown (stateOf answer) := by
  rcases answer with reason | text
  · exact rfl
  · by_cases hblank : Text.isBlankText text = true
    · simp [stateOf, hblank, IsShown]
    · simpa [stateOf, hblank, IsShown] using mt Text.trim_eq_empty_iff.1 hblank

theorem stateOf_ne_pending (answer : ServiceAnswer) : stateOf answer ≠ .pending := by
  rcases answer with reason | text
  · simp [stateOf]
  · by_cases hblank : Text.isBlankText text = true
    · simp [stateOf, hblank]
    · simp [stateOf, hblank]

end ExplanationBook

namespace ExplanationDesk

open ExplanationBook (IsServed IsShown)

/-- The desk that has called the service about a finding. -/
def calling (d : ExplanationDesk) (text : String) (c : ExplanationCall) : ExplanationDesk :=
  { d with
    book := d.book.set c.key .pending
    calls := d.calls ++ [c]
    requests := d.requests + 1
    prompts := d.prompts ++ [explanationPrompt text] }

/-- The desk that has told what is known of a finding. -/
def telling (d : ExplanationDesk) (key : ExplanationKey) : ExplanationDesk :=
  { d with
    requests := d.requests + 1
    results := d.results ++ [(d.requests, some (d.book.state key))] }

/-- The call that the next request would make. -/
def nextCall (d : ExplanationDesk) (key : ExplanationKey) (delayMs : Nat) (reply : ServiceAnswer) :
    ExplanationCall :=
  ⟨d.requests, key, d.now + delayMs, reply⟩

section Request

variable (d : ExplanationDesk) (key : ExplanationKey) (text : String) (delayMs : Nat)
  (reply : ServiceAnswer)

theorem request_of_isServed (h : IsServed (d.book.state key)) :
    (d.request key text delayMs reply).2 = d.telling key := by
  simp only [request, ExplanationBook.ask_of_isServed d.book key h]
  rfl

/-- A reply without delay is an answer to the call that has just been made. -/
theorem request_of_not_isServed (h : ¬IsServed (d.book.state key)) :
    (d.request key text delayMs reply).2 =
      if delayMs = 0 then (d.calling text (d.nextCall key delayMs reply)).answer
        (d.nextCall key delayMs reply)
      else d.calling text (d.nextCall key delayMs reply) := by
  simp only [request, ExplanationBook.ask_of_not_isServed d.book key h]
  rfl

end Request

/-! ## Steps and runs -/

/-- What can happen next at a desk: a request is made, a call that is under way is answered, or
time passes. Which calls are answered, and in which order, is left open; no request is abandoned. -/
inductive DeskStep : ExplanationDesk → ExplanationDesk → Prop
  | request (d : ExplanationDesk) (key : ExplanationKey) (text : String) (delayMs : Nat)
      (reply : ServiceAnswer) : DeskStep d (d.request key text delayMs reply).2
  | answer {d : ExplanationDesk} {c : ExplanationCall} (hc : c ∈ d.calls) : DeskStep d (d.answer c)
  | pass (d : ExplanationDesk) (now : Nat) : DeskStep d { d with now }

/-- Any number of steps. -/
abbrev DeskRun : ExplanationDesk → ExplanationDesk → Prop :=
  Relation.ReflTransGen DeskStep

/-- The book and the calls that are under way fit together. -/
structure Sound (d : ExplanationDesk) : Prop where
  one_call : (d.calls.map (·.key)).Nodup
  request_lt : ∀ c ∈ d.calls, c.request < d.requests
  numbers : (d.calls.map (·.request)).Nodup
  pending_iff : ∀ key, d.book.state key = .pending ↔ ∃ c ∈ d.calls, c.key = key
  shown : ∀ key, IsShown (d.book.state key)

namespace Sound

variable {d d' : ExplanationDesk} {c c' : ExplanationCall} {key : ExplanationKey} {text : String}

theorem start : Sound {} where
  one_call := .nil
  request_lt := by simp
  numbers := .nil
  pending_iff key := by simp [ExplanationBook.state]
  shown key := trivial

theorem key_inj (h : d.Sound) (hc : c ∈ d.calls) (hc' : c' ∈ d.calls) (heq : c.key = c'.key) :
    c = c' :=
  List.inj_on_of_nodup_map h.one_call hc hc' heq

theorem request_inj (h : d.Sound) (hc : c ∈ d.calls) (hc' : c' ∈ d.calls)
    (heq : c.request = c'.request) : c = c' :=
  List.inj_on_of_nodup_map h.numbers hc hc' heq

theorem telling (h : d.Sound) (key : ExplanationKey) : (d.telling key).Sound :=
  { h with request_lt := fun c hc => Nat.lt_succ_of_lt (h.request_lt c hc) }

theorem pass (h : d.Sound) (now : Nat) : Sound { d with now } :=
  { h with }

/-- A call about a finding for which no call is under way. -/
theorem calling (h : d.Sound) (text : String) (hrequest : c.request = d.requests)
    (hserved : ¬IsServed (d.book.state c.key)) : (d.calling text c).Sound where
  one_call := by
    have hfree : c.key ∉ d.calls.map (·.key) := fun hmem => by
      obtain ⟨c', hc', hkey⟩ := List.mem_map.1 hmem
      exact hserved ((h.pending_iff c.key).2 ⟨c', hc', hkey⟩ ▸ trivial)
    simpa [ExplanationDesk.calling, List.nodup_append] using
      ⟨h.one_call, fun a ha hkey => hfree (hkey ▸ List.mem_map_of_mem ha)⟩
  request_lt := by
    rintro c' hc'
    rcases List.mem_append.1 hc' with hc' | hc'
    · exact Nat.lt_succ_of_lt (h.request_lt c' hc')
    · rw [List.mem_singleton.1 hc', hrequest]
      exact Nat.lt_succ_self _
  numbers := by
    simpa [ExplanationDesk.calling, List.nodup_append, hrequest] using
      ⟨h.numbers, fun a ha => (h.request_lt a ha).ne⟩
  pending_iff key := by
    by_cases hkey : key = c.key
    · subst hkey
      simp [ExplanationDesk.calling]
    · simp only [ExplanationDesk.calling, ExplanationBook.state_set_of_ne _ _ _ hkey,
        h.pending_iff key]
      simp [Ne.symm hkey]
  shown key := by
    by_cases hkey : key = c.key
    · subst hkey
      simp [ExplanationDesk.calling, IsShown]
    · simpa only [ExplanationDesk.calling, ExplanationBook.state_set_of_ne _ _ _ hkey] using
        h.shown key

/-- The other calls stay under way. -/
theorem mem_calls_answer (h : d.Sound) (hc : c ∈ d.calls) :
    c' ∈ (d.answer c).calls ↔ c' ∈ d.calls ∧ c' ≠ c := by
  simp only [ExplanationDesk.answer, ExplanationBook.enter, List.mem_filter, decide_eq_true_eq]
  refine and_congr_right fun hc' => not_congr ⟨h.request_inj hc' hc, fun heq => heq ▸ rfl⟩

theorem answer (h : d.Sound) (hc : c ∈ d.calls) : (d.answer c).Sound where
  one_call := h.one_call.sublist (List.filter_sublist.map _)
  request_lt c' hc' := h.request_lt c' (List.mem_of_mem_filter hc')
  numbers := h.numbers.sublist (List.filter_sublist.map _)
  pending_iff key := by
    by_cases hkey : key = c.key
    · subst hkey
      have hanswered : (d.answer c).book.state c.key ≠ .pending := by
        simp [ExplanationDesk.answer, ExplanationBook.enter, ExplanationBook.stateOf_ne_pending]
      refine iff_of_false hanswered ?_
      rintro ⟨c', hc', heq⟩
      obtain ⟨hc', hne⟩ := (h.mem_calls_answer hc).1 hc'
      exact hne (h.key_inj hc' hc heq)
    · have hstate : (d.answer c).book.state key = d.book.state key :=
        ExplanationBook.state_set_of_ne _ _ _ hkey
      rw [hstate, h.pending_iff key]
      constructor
      · rintro ⟨c', hc', rfl⟩
        exact ⟨c', (h.mem_calls_answer hc).2 ⟨hc', fun heq => hkey (heq ▸ rfl)⟩, rfl⟩
      · rintro ⟨c', hc', rfl⟩
        exact ⟨c', ((h.mem_calls_answer hc).1 hc').1, rfl⟩
  shown key := by
    by_cases hkey : key = c.key
    · subst hkey
      simpa [ExplanationDesk.answer, ExplanationBook.enter] using
        ExplanationBook.isShown_stateOf c.answer
    · have hstate : (d.answer c).book.state key = d.book.state key :=
        ExplanationBook.state_set_of_ne _ _ _ hkey
      rw [hstate]
      exact h.shown key

theorem nextCall (h : d.Sound) (key : ExplanationKey) (text : String) (delayMs : Nat)
    (reply : ServiceAnswer) (hserved : ¬IsServed (d.book.state key)) :
    (d.calling text (d.nextCall key delayMs reply)).Sound :=
  h.calling text rfl hserved

theorem request (h : d.Sound) (key : ExplanationKey) (text : String) (delayMs : Nat)
    (reply : ServiceAnswer) : (d.request key text delayMs reply).2.Sound := by
  by_cases hserved : IsServed (d.book.state key)
  · rw [request_of_isServed d key text delayMs reply hserved]
    exact h.telling key
  · have hcalling := h.nextCall key text delayMs reply hserved
    rw [request_of_not_isServed d key text delayMs reply hserved]
    split
    · exact hcalling.answer (List.mem_append_right _ (List.mem_singleton_self _))
    · exact hcalling

theorem step (h : d.Sound) (hstep : DeskStep d d') : d'.Sound := by
  cases hstep with
  | request key text delayMs reply => exact h.request key text delayMs reply
  | answer hc => exact h.answer hc
  | pass now => exact h.pass now

theorem run (h : d.Sound) (hrun : DeskRun d d') : d'.Sound := by
  induction hrun with
  | refl => exact h
  | tail _ hstep ih => exact ih.step hstep

end Sound

/-! ## What a request and an answer do -/

/-- The request is told the state of its finding, and nobody is called. -/
structure Told (d : ExplanationDesk) (key : ExplanationKey) (d' : ExplanationDesk) : Prop where
  results_eq : d'.results = d.results ++ [(d.requests, some (d.book.state key))]
  book_eq : d'.book = d.book
  calls_eq : d'.calls = d.calls
  prompts_eq : d'.prompts = d.prompts

/-- The service is called once about the finding, which is pending then; no other finding is
touched. -/
structure Called (d : ExplanationDesk) (text : String) (c : ExplanationCall)
    (d' : ExplanationDesk) : Prop where
  calls_eq : d'.calls = d.calls ++ [c]
  prompts_eq : d'.prompts = d.prompts ++ [explanationPrompt text]
  results_eq : d'.results = d.results
  pending : d'.book.state c.key = .pending
  others : ∀ key, key ≠ c.key → d'.book.state key = d.book.state key

/-- The call is over: its request returns the state that the finding has now, which is the one that
the answer leads to. No other finding and no other call is touched. -/
structure Answered (d : ExplanationDesk) (c : ExplanationCall) (d' : ExplanationDesk) : Prop where
  results_eq : d'.results = d.results ++ [(c.request, some (d'.book.state c.key))]
  state_eq : d'.book.state c.key = ExplanationBook.stateOf c.answer
  others : ∀ key, key ≠ c.key → d'.book.state key = d.book.state key
  mem_calls : ∀ c', c' ∈ d'.calls ↔ c' ∈ d.calls ∧ c' ≠ c
  prompts_eq : d'.prompts = d.prompts

section Effects

variable {d d' : ExplanationDesk} {c : ExplanationCall}

theorem called_calling (d : ExplanationDesk) (text : String) (c : ExplanationCall) :
    Called d text c (d.calling text c) where
  calls_eq := rfl
  prompts_eq := rfl
  results_eq := rfl
  pending := ExplanationBook.state_set_self _ _ _
  others _ hkey := ExplanationBook.state_set_of_ne _ _ _ hkey

theorem Sound.answered (h : d.Sound) (hc : c ∈ d.calls) : Answered d c (d.answer c) where
  results_eq := by simp [ExplanationDesk.answer, ExplanationBook.enter]
  state_eq := ExplanationBook.state_set_self _ _ _
  others _ hkey := ExplanationBook.state_set_of_ne _ _ _ hkey
  mem_calls _ := h.mem_calls_answer hc
  prompts_eq := rfl

/-- What a request does: it is told what is known, or calls the service, which may answer at
once. -/
inductive Requested (d : ExplanationDesk) (key : ExplanationKey) (text : String) (delayMs : Nat) :
    ExplanationDesk → Prop
  | told {d' : ExplanationDesk} (h : IsServed (d.book.state key)) (htold : Told d key d') :
    Requested d key text delayMs d'
  | called {d' : ExplanationDesk} {c : ExplanationCall} (h : ¬IsServed (d.book.state key))
      (hkey : c.key = key) (hdelay : delayMs ≠ 0) (hcalled : Called d text c d') :
      Requested d key text delayMs d'
  | answered {mid d' : ExplanationDesk} {c : ExplanationCall} (h : ¬IsServed (d.book.state key))
      (hkey : c.key = key) (hdelay : delayMs = 0) (hcalled : Called d text c mid)
      (hanswered : Answered mid c d') : Requested d key text delayMs d'

theorem Sound.requested (h : d.Sound) (key : ExplanationKey) (text : String) (delayMs : Nat)
    (reply : ServiceAnswer) :
    Requested d key text delayMs (d.request key text delayMs reply).2 := by
  by_cases hserved : IsServed (d.book.state key)
  · rw [request_of_isServed d key text delayMs reply hserved]
    exact .told hserved ⟨rfl, rfl, rfl, rfl⟩
  · rw [request_of_not_isServed d key text delayMs reply hserved]
    have hcalled := called_calling d text (d.nextCall key delayMs reply)
    split
    · next hdelay =>
      have hanswered := (h.nextCall key text delayMs reply hserved).answered
        (List.mem_append_right _ (List.mem_singleton_self _))
      exact .answered hserved rfl hdelay hcalled hanswered
    · next hdelay => exact .called hserved rfl hdelay hcalled

/-- A finding that has an explanation keeps it. -/
theorem Sound.resolved_step (h : d.Sound) {key : ExplanationKey} {text : String}
    (hresolved : d.book.state key = .resolved text) (hstep : DeskStep d d') :
    d'.book.state key = .resolved text := by
  cases hstep with
  | request key' text' delayMs reply =>
    cases h.requested key' text' delayMs reply with
    | told _ htold => rw [htold.book_eq, hresolved]
    | called hserved hkey _ hcalled =>
      have hne : key ≠ key' := fun heq => hserved (heq ▸ hresolved ▸ trivial)
      rw [hcalled.others key (hkey ▸ hne), hresolved]
    | answered hserved hkey _ hcalled hanswered =>
      have hne : key ≠ key' := fun heq => hserved (heq ▸ hresolved ▸ trivial)
      rw [hanswered.others key (hkey ▸ hne), hcalled.others key (hkey ▸ hne), hresolved]
  | @answer c hc =>
    have hne : key ≠ c.key := fun heq => by
      have hpending := (h.pending_iff key).2 ⟨c, hc, heq.symm⟩
      simp [hresolved] at hpending
    rw [(h.answered hc).others key hne, hresolved]
  | pass now => exact hresolved

theorem Sound.resolved_run (h : d.Sound) {key : ExplanationKey} {text : String}
    (hresolved : d.book.state key = .resolved text) (hrun : DeskRun d d') :
    d'.book.state key = .resolved text := by
  induction hrun with
  | refl => exact hresolved
  | tail hrun hstep ih => exact (h.run hrun).resolved_step ih hstep

end Effects

/-! ## The desk by the clock -/

/-- Answering calls one after another is a run, if each of them is under way and none comes
twice. -/
theorem Sound.run_foldl_answer {d : ExplanationDesk} (h : d.Sound) {calls : List ExplanationCall}
    (hcalls : ∀ c ∈ calls, c ∈ d.calls) (hnodup : calls.Nodup) :
    DeskRun d (calls.foldl ExplanationDesk.answer d) := by
  induction calls generalizing d with
  | nil => exact .refl
  | cons c rest ih =>
    obtain ⟨hc, hrest⟩ := List.forall_mem_cons.1 hcalls
    obtain ⟨hnot, hnodup⟩ := List.nodup_cons.1 hnodup
    refine .head (.answer hc) (ih (h.answer hc) (fun c' hc' => ?_) hnodup)
    exact (h.mem_calls_answer hc).2 ⟨hrest c' hc', fun heq => hnot (heq ▸ hc')⟩

theorem Sound.run_passTo {d : ExplanationDesk} (h : d.Sound) (time : Nat) :
    DeskRun d (d.passTo time) := by
  have hanswers : DeskRun d ((d.calls.filter fun c => c.due ≤ time).foldl ExplanationDesk.answer d) :=
    h.run_foldl_answer (fun c hc => List.mem_of_mem_filter hc)
      ((List.Nodup.of_map _ h.numbers).filter _)
  exact hanswers.tail (.pass _ _)

theorem Sound.run_await {d : ExplanationDesk} (h : d.Sound) (request : Nat) :
    DeskRun d (d.await request) := by
  unfold await
  split
  · exact h.run_passTo _
  · exact .refl

/-- What holds at every moment of a run, and what a request and an answer do then. There is at most
one call under way about a finding, which is pending exactly as long; an explanation is never
replaced, is not empty and trimmed; what failed shows the placeholder and is asked for again. -/
theorem explained_of_run {d : ExplanationDesk} (h : DeskRun {} d) :
    (d.calls.map (·.key)).Nodup ∧
      (∀ key, d.book.state key = .pending ↔ ∃ c ∈ d.calls, c.key = key) ∧
      (∀ key, IsShown (d.book.state key)) ∧
      (∀ key text, d.book.state key = .resolved text →
        ∀ d', DeskRun d d' → d'.book.state key = .resolved text) ∧
      (∀ key text delayMs reply,
        Requested d key text delayMs (d.request key text delayMs reply).2) ∧
      ∀ c ∈ d.calls, Answered d c (d.answer c) := by
  have hsound := Sound.start.run h
  exact ⟨hsound.one_call, hsound.pending_iff, hsound.shown,
    fun _ _ hresolved _ hrun => hsound.resolved_run hresolved hrun, hsound.requested,
    fun _ hc => hsound.answered hc⟩

/-- Two findings are asked about, the first of them twice, and the second is answered first. -/
def overtaking : ExplanationDesk :=
  let first : ExplanationDesk := (request {} (.violation "region") "No landmarks." 20 (.ok "")).2
  let second := (first.request (.auditItem "seo") "No title." 5 (.ok " Add a title. ")).2
  let third := (second.request (.violation "region") "No landmarks." 1 (.error "quota")).2
  third.answer ⟨1, .auditItem "seo", 5, .ok " Add a title. "⟩

theorem run_overtaking : DeskRun {} overtaking :=
  .tail (.tail (.tail (.tail .refl (.request ..)) (.request ..)) (.request ..))
    (.answer (.tail _ (.head _)))

theorem explained_overtaking :
    DeskRun {} overtaking ∧ (overtaking.calls.map (·.key)).Nodup ∧
      (overtaking.book.state (.violation "region") = .pending ↔
        ∃ c ∈ overtaking.calls, c.key = .violation "region") ∧
      ∀ d, DeskRun overtaking d →
        d.book.state (.auditItem "seo") = .resolved "Add a title." := by
  have h := explained_of_run run_overtaking
  exact ⟨run_overtaking, h.1, h.2.1 _, h.2.2.2.1 _ _ (by decide)⟩

end ExplanationDesk

end PageScan

import PageScan.Scan.World

/-!
# Transcripts

What passes between a scan and its page: the calls in the order in which they were made, each with
its deadline and with what the page answered in time. A `Conversation` ties a transcript to a page:
every outcome is the one that the reply of the page has at the deadline, and the state of the page
goes from call to call. `Heard` says of two worlds that one follows the other by a transcript and
nothing else that concerns the page or the second engine; stages that follow each other join their
transcripts (`Heard.trans`).
-/

namespace PageScan

/-- A call to a page and what came of it. -/
structure Exchange where
  askedAt : Nat
  deadline : Nat
  call : PageCall
  /-- What the page answered in time, if it did. -/
  outcome : Option (Except PageError call.Answer)

/-- The entry of an exchange in the record of calls. -/
def Exchange.entry (e : Exchange) : Nat × PageCall :=
  (e.askedAt, e.call)

/-- What is there of a reply when its deadline comes. -/
def Reply.by? {ε α : Type} (r : Reply ε α) (askedAt deadline : Nat) : Option (Except ε α) :=
  if r.delayMs = 0 ∨ askedAt + r.delayMs ≤ deadline then r.outcome else none

variable {σ : Type}

/-- A page in a state has these exchanges, one after another, and is in another state then. -/
inductive Conversation (page : Page σ) : σ → List Exchange → σ → Prop
  | nil (s : σ) : Conversation page s [] s
  | cons {s s' : σ} {e : Exchange} {es : List Exchange}
      (heard : e.outcome = (page.answer e.call s).1.by? e.askedAt e.deadline)
      (rest : Conversation page (page.answer e.call s).2 es s') :
      Conversation page s (e :: es) s'

theorem Conversation.append {page : Page σ} {s₁ s₂ s₃ : σ} {es es' : List Exchange}
    (h : Conversation page s₁ es s₂) (h' : Conversation page s₂ es' s₃) :
    Conversation page s₁ (es ++ es') s₃ := by
  induction h with
  | nil => exact h'
  | cons heard _ ih => exact .cons heard (ih h')

/-- From one world to the next the page had these exchanges; no other call was made, and the second
engine was not asked. -/
structure Heard (page : Page σ) (w : World σ) (es : List Exchange) (w' : World σ) : Prop where
  conversation : Conversation page w.page es w'.page
  calls : w'.calls = w.calls ++ es.map Exchange.entry
  engineCalls : w'.engineCalls = w.engineCalls

namespace Heard

variable {page : Page σ} {w w' w'' : World σ} {es es' : List Exchange}

theorem refl (page : Page σ) (w : World σ) : Heard page w [] w :=
  ⟨.nil _, by simp, rfl⟩

theorem trans (h : Heard page w es w') (h' : Heard page w' es' w'') :
    Heard page w (es ++ es') w'' where
  conversation := h.conversation.append h'.conversation
  calls := by rw [h'.calls, h.calls, List.map_append, List.append_assoc]
  engineCalls := h'.engineCalls.trans h.engineCalls

/-- Time passes and things are made known without the page. -/
theorem quiet (page : Page σ) (w : World σ) (now : Nat) (notices : List (Nat × Notice)) :
    Heard page w [] { w with now, notices } :=
  ⟨.nil _, by simp, rfl⟩

/-- What has no exchange leaves the page as it is. -/
theorem page_eq (h : Heard page w [] w') : w'.page = w.page := by
  obtain ⟨conversation, -, -⟩ := h
  generalize w.page = s, w'.page = s' at conversation
  cases conversation
  rfl

theorem calls_eq (h : Heard page w [] w') : w'.calls = w.calls :=
  h.calls.trans (List.append_nil _)

end Heard

namespace Scan

variable {α β : Type}

/-- One step after another. -/
theorem bind_apply (m : Scan σ α) (f : α → Scan σ β) (w : World σ) :
    (m >>= f) w = f (m w).1 (m w).2 :=
  rfl

/-- Waiting for a reply gives what is there of it at the deadline, and takes nothing but time. -/
theorem await_apply {ε : Type} (deadline : Nat) (reply : Reply ε α) (w : World σ) :
    ∃ now, await deadline reply w = (reply.by? w.now deadline, { w with now }) := by
  obtain ⟨delay, outcome⟩ := reply
  rcases outcome with _ | outcome
  · exact ⟨max w.now deadline, by simp [await, Reply.by?]⟩
  · by_cases h : delay = 0 ∨ w.now + delay ≤ deadline
    · exact ⟨w.now + delay, by simp [await, arrival?, Reply.by?, h]⟩
    · exact ⟨max w.now deadline, by simp [await, arrival?, Reply.by?, h]⟩

/-- A call under a deadline is one exchange. -/
theorem heard_askBy (page : Page σ) (deadline : Nat) (call : PageCall) (w : World σ) :
    Heard page w [⟨w.now, deadline, call, (askBy page deadline call w).1⟩]
      (askBy page deadline call w).2 := by
  obtain ⟨now, h⟩ := await_apply deadline (page.answer call w.page).1
    { w with page := (page.answer call w.page).2, calls := w.calls ++ [(w.now, call)] }
  have e : askBy page deadline call w = _ := h
  rw [e]
  exact ⟨.cons rfl (.nil _), rfl, rfl⟩

/-- In a world a computation has a transcript with the page, a result, and another world. -/
structure Yields (page : Page σ) (m : Scan σ α) (w : World σ) (es : List Exchange) (a : α)
    (w' : World σ) : Prop where
  run : m w = (a, w')
  heard : Heard page w es w'

namespace Yields

variable {page : Page σ} {m : Scan σ α} {f : α → Scan σ β} {w w' w'' : World σ}
  {es es' : List Exchange} {a : α} {b : β}

theorem bind (h : Yields page m w es a w') (h' : Yields page (f a) w' es' b w'') :
    Yields page (m >>= f) w (es ++ es') b w'' where
  run := by rw [bind_apply, h.run, h'.run]
  heard := h.heard.trans h'.heard

theorem pure (page : Page σ) (a : α) (w : World σ) : Yields page (Pure.pure a) w [] a w :=
  ⟨rfl, .refl page w⟩

theorem map (g : α → β) (h : Yields page m w es a w') : Yields page (g <$> m) w es (g a) w' where
  run := by
    show (g (m w).1, (m w).2) = _
    rw [h.run]
  heard := h.heard

/-- What follows has no exchange. -/
theorem bind_quiet (h : Yields page m w es a w') (h' : Yields page (f a) w' [] b w'') :
    Yields page (m >>= f) w es b w'' :=
  List.append_nil es ▸ h.bind h'

/-- What goes before has no exchange. -/
theorem quiet_bind (h : Yields page m w [] a w') (h' : Yields page (f a) w' es b w'') :
    Yields page (m >>= f) w es b w'' :=
  h.bind h'

end Yields

theorem yields_now (page : Page σ) (w : World σ) : Yields page now w [] w.now w :=
  ⟨rfl, .refl page w⟩

theorem yields_sleep (page : Page σ) (ms : Nat) (w : World σ) :
    ∃ w', Yields page (sleep ms) w [] () w' :=
  ⟨_, rfl, .quiet page w (w.now + ms) w.notices⟩

/-- Only time passes, and things are made known, until this result is there. -/
def Quiet (page : Page σ) (m : Scan σ α) (a : α) : Prop :=
  ∀ w, ∃ w', Yields page m w [] a w'

namespace Quiet

variable {page : Page σ}

theorem pure (a : α) : Quiet page (Pure.pure a) a :=
  fun w => ⟨w, .pure page a w⟩

theorem bind {m : Scan σ α} {f : α → Scan σ β} {a : α} {b : β} (h : Quiet page m a)
    (h' : Quiet page (f a) b) : Quiet page (m >>= f) b := fun w => by
  obtain ⟨w₁, h₁⟩ := h w
  obtain ⟨w₂, h₂⟩ := h' w₁
  exact ⟨w₂, h₁.bind h₂⟩

theorem notice (page : Page σ) (n : Notice) : Quiet page (notice n) () :=
  fun w => ⟨_, rfl, .quiet page w w.now (w.notices ++ [(w.now, n)])⟩

end Quiet

theorem yields_askBy (page : Page σ) (deadline : Nat) (call : PageCall) (w : World σ) :
    ∃ o w', Yields page (askBy page deadline call) w [⟨w.now, deadline, call, o⟩] o w' :=
  ⟨_, _, rfl, heard_askBy page deadline call w⟩

/-- The exchange is this call, asked with a limit, and comes to this. -/
def Asked (limitMs : Nat) (operation : String) (call : PageCall)
    (result : Except PageError call.Answer) (e : Exchange) : Prop :=
  ∃ time outcome, e = ⟨time, time + limitMs, call, outcome⟩ ∧
    outcome.getD (.error (.timeout operation limitMs)) = result

namespace Asked

variable {limitMs : Nat} {operation : String} {call : PageCall}
  {result result' : Except PageError call.Answer} {e : Exchange}

theorem call_eq (h : Asked limitMs operation call result e) : e.call = call := by
  obtain ⟨time, outcome, rfl, -⟩ := h
  rfl

/-- An exchange comes to one thing only. -/
theorem result_unique (h : Asked limitMs operation call result e)
    (h' : Asked limitMs operation call result' e) : result = result' := by
  obtain ⟨time, outcome, rfl, rfl⟩ := h
  obtain ⟨time', outcome', heq, rfl⟩ := h'
  cases heq
  rfl

end Asked

/-- A call with a limit of its own is one exchange; no answer in time is a failure of its own. -/
theorem yields_ask (page : Page σ) (limitMs : Nat) (operation : String) (call : PageCall)
    (w : World σ) :
    ∃ e r w', Yields page (ask page limitMs operation call) w [e] r w' ∧
      Asked limitMs operation call r e := by
  obtain ⟨o, w', h⟩ := yields_askBy page (w.now + limitMs) call w
  refine ⟨⟨w.now, w.now + limitMs, call, o⟩, o.getD (.error (.timeout operation limitMs)), w', ?_,
    w.now, o, rfl, rfl⟩
  refine (yields_now page w).quiet_bind (h.bind_quiet ?_)
  rcases o with _ | outcome
  · exact .pure page _ w'
  · exact .pure page _ w'

end Scan

end PageScan

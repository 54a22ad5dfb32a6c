import PageScan.Browser.Connection

/-!
# The steps of a connection

What the steps of a connection do, and what they leave alone.

* `Taken`, `Resumed`, `Step`: the steps that are possible, each with the connection that it leaves.
* `run_append`, `invariant_of_run`, `kept_of_run`: runs are made of steps.
-/

namespace PageScan

/-- What a browser answers. -/
abbrev AnswerContent := Except RemoteError Json.Value

namespace SentCommand

/-- The number of a command, and the command. -/
def named (s : SentCommand) : Nat × Command :=
  (s.id, s.command)

@[simp]
theorem named_settled (s : SentCommand) : s.settled.named = s.named := by
  unfold settled
  split <;> rfl

@[simp]
theorem named_leave (s : SentCommand) (slot : AnswerSlot) : (s.leave slot).named = s.named :=
  named_settled _

/-- A command that begins to wait is over if something is left for it already. -/
theorem settled_waiting (s : SentCommand) :
    s.slot = .empty ∧ settled { s with phase := .waiting } = { s with phase := .waiting } ∨
    (∃ r, s.slot = .answered r ∧
      settled { s with phase := .waiting } = { s with phase := .finished (s.result r) }) ∨
    s.slot = .gone ∧
      settled { s with phase := .waiting } = { s with phase := .finished (.error .closed) } := by
  obtain ⟨id, command, phase, slot⟩ := s
  cases slot with
  | empty => exact .inl ⟨rfl, rfl⟩
  | answered r => exact .inr (.inl ⟨r, rfl, rfl⟩)
  | gone => exact .inr (.inr ⟨rfl, rfl⟩)

/-- A command that waits ends with what is left for it. -/
theorem leave_answered {s : SentCommand} (h : s.phase = .waiting) (r : AnswerContent) :
    s.leave (.answered r) = { s with phase := .finished (s.result r), slot := .answered r } := by
  simp only [leave, settled, h]
  rfl

theorem leave_gone {s : SentCommand} (h : s.phase = .waiting) :
    s.leave .gone = { s with phase := .finished (.error .closed), slot := .gone } := by
  simp only [leave, settled, h]

/-- For a command that does not wait what is left is kept. -/
theorem leave_of_ne {s : SentCommand} (h : s.phase ≠ .waiting) (slot : AnswerSlot) :
    s.leave slot = { s with slot } := by
  rw [leave, settled]
  split
  · next hphase _ => exact absurd hphase h
  · next hphase _ => exact absurd hphase h
  · rfl

end SentCommand

namespace Connection

variable {c c' : Connection} {a : ConnectionAction} {s : SentCommand} {id : Nat}

/-! ## Commands -/

/-- What the browser was sent and what is still to be sent, in order. -/
def outgoing (c : Connection) : List String :=
  c.written ++ c.queue

theorem outgoing_dispatched (c : Connection) (command : Command) :
    (c.dispatched command).outgoing =
      c.outgoing ++ if c.writing then [command.frame c.nextId] else [] := by
  simp only [outgoing, dispatched]
  split
  · exact (List.append_assoc ..).symm
  · exact (List.append_nil _).symm

theorem mem_of_command? (h : c.command? id = some s) : s ∈ c.sent ∧ s.id = id :=
  ⟨List.mem_of_find?_eq_some h, by simpa using List.find?_some h⟩

theorem exists_of_phase? {phase : CommandPhase} (h : c.phase? id = some phase) :
    ∃ s, c.command? id = some s ∧ s.phase = phase :=
  Option.map_eq_some_iff.1 h

/-- Changing a command leaves it its number. -/
theorem named_update (c : Connection) (id : Nat) {f : SentCommand → SentCommand}
    (hf : ∀ s, (f s).named = s.named) :
    (c.update id f).sent.map SentCommand.named = c.sent.map SentCommand.named := by
  rw [update, List.map_map]
  refine List.map_congr_left fun s _ => ?_
  rw [Function.comp_apply]
  split
  · exact hf s
  · rfl

theorem mem_update {f : SentCommand → SentCommand} :
    s ∈ (c.update id f).sent ↔ ∃ t ∈ c.sent, (if t.id = id then f t else t) = s :=
  List.mem_map

@[simp]
theorem table_update (c : Connection) (id : Nat) (f : SentCommand → SentCommand) :
    (c.update id f).table = c.table :=
  rfl

@[simp]
theorem mem_table_forget {k : Nat} : k ∈ (c.forget id).table ↔ k ∈ c.table ∧ k ≠ id := by
  simp [forget]

/-! ## Taking a frame -/

/-- What comes of a frame. -/
inductive Taken (c : Connection) (text : String) : Connection → Prop
  | response {id : Nat} {r : AnswerContent}
      (h : Inbound.ofText text = .ok (.response id r)) (htable : id ∈ c.table) :
      Taken c text ((c.forget id).update id fun s => s.leave (.answered r))
  | event {e : DevToolsEvent} (h : Inbound.ofText text = .ok (.event e)) :
      Taken c text (c.takeEvent e)
  | unknown {id : Nat} {r : AnswerContent}
      (h : Inbound.ofText text = .ok (.response id r)) (htable : id ∉ c.table) :
      Taken c text c
  | unreadable {e : DevToolsError} (h : Inbound.ofText text = .error e) : Taken c text c

theorem taken_take (c : Connection) (text : String) : Taken c text (c.take text) := by
  rw [take]
  split
  · next id r hframe =>
    rw [takeResponse]
    split
    · next htable => exact .response hframe (by simpa using htable)
    · next htable => exact .unknown hframe (by simpa using htable)
  · next e hframe => exact .event hframe
  · next e hframe => exact .unreadable hframe

/-! ## Taking an event from a listener -/

theorem mem_of_find_listener {key : Nat} {l : Listener}
    (h : c.listeners.find? (fun l => l.key = key && !l.dropped) = some l) :
    l ∈ c.listeners ∧ l.key = key := by
  have hfound := List.find?_some h
  rw [Bool.and_eq_true, decide_eq_true_eq] at hfound
  exact ⟨List.mem_of_find?_eq_some h, hfound.1⟩

theorem mem_of_find_interceptor {key : Nat} {i : Interceptor}
    (h : c.interceptors.find? (fun i => i.key = key && i.running) = some i) :
    i ∈ c.interceptors ∧ i.key = key := by
  have hfound := List.find?_some h
  rw [Bool.and_eq_true, decide_eq_true_eq] at hfound
  exact ⟨List.mem_of_find?_eq_some h, hfound.1⟩

/-- The connection with the events of a listener that are left. -/
def leaving (c : Connection) (key : Nat) (rest : List DevToolsEvent) : Connection :=
  { c with
    listeners := c.listeners.map fun l => if l.key = key then { l with inbox := rest } else l }

/-- The connection with an interceptor that has ended. -/
def stopped (c : Connection) (key : Nat) : Connection :=
  { c with
    interceptors := c.interceptors.map fun i =>
      if i.key = key then { i with running := false } else i }

/-- What comes of the first event of a listener. -/
inductive Resumed (c : Connection) (i : Interceptor) (l : Listener) (e : DevToolsEvent)
    (rest : List DevToolsEvent) : Connection → Prop
  | ignored (h : PausedRequest.resume? i.filter i.session e = none) :
      Resumed c i l e rest (c.leaving l.key rest)
  | answered {command : Command} (h : PausedRequest.resume? i.filter i.session e = some command)
      (hwriting : c.writing = true) :
      Resumed c i l e rest ((c.leaving l.key rest).dispatched command)
  | failed {command : Command} (h : PausedRequest.resume? i.filter i.session e = some command)
      (hwriting : c.writing = false) :
      Resumed c i l e rest (((c.leaving l.key rest).dispatched command).stopped i.key)

theorem resumed_of_resume {i : Interceptor} {l : Listener} (h : c.resume i l = some c') :
    ∃ e rest, l.inbox = e :: rest ∧ Resumed c i l e rest c' := by
  rw [resume] at h
  split at h
  · cases h
  · next e rest hinbox =>
    refine ⟨e, rest, hinbox, ?_⟩
    dsimp only at h
    split at h
    · next hnone =>
      obtain rfl := Option.some.inj h
      exact .ignored hnone
    · next command hsome =>
      split at h
      · next hwriting =>
        obtain rfl := Option.some.inj h
        exact .answered hsome hwriting
      · next hwriting =>
        obtain rfl := Option.some.inj h
        exact .failed hsome (by simpa using hwriting)

/-! ## The steps that are possible -/

/-- What a step does, for each step that is possible. -/
inductive Step (c : Connection) : ConnectionAction → Connection → Prop
  | send (command : Command) :
      Step c (.send command)
        { c with
          nextId := c.nextId + 1
          sent := c.sent ++ [⟨c.nextId, command, .numbered, .empty⟩] }
  | register {id : Nat} (h : c.phase? id = some .numbered) :
      Step c (.register id)
        ({ c with table := c.table ++ [id] }.update id fun s => { s with phase := .registered })
  | enqueue {id : Nat} {s : SentCommand} (h : c.command? id = some s)
      (hphase : s.phase = .registered) (hwriting : c.writing = true) :
      Step c (.enqueue id)
        ({ c with queue := c.queue ++ [s.command.frame s.id] }.update s.id fun s =>
          SentCommand.settled { s with phase := .waiting })
  | refuse {id : Nat} {s : SentCommand} (h : c.command? id = some s)
      (hphase : s.phase = .registered) (hwriting : c.writing = false) :
      Step c (.enqueue id)
        ((c.forget s.id).update s.id fun s => { s with phase := .finished (.error .closed) })
  | expire {id : Nat} {s : SentCommand} (h : c.command? id = some s) (hphase : s.phase = .waiting) :
      Step c (.expire id)
        ((c.forget id).update id fun s =>
          { s with phase := .finished (.error (.timeout s.command.method c.commandTimeoutMs)) })
  | abandon {id : Nat} {phase : CommandPhase} (h : c.phase? id = some phase)
      (hphase : phase = .numbered ∨ phase = .registered ∨ phase = .waiting) :
      Step c (.abandon id) (c.update id fun s => { s with phase := .abandoned })
  | dispatch (command : Command) : Step c (.dispatch command) (c.dispatched command)
  | receive {text : String} {c' : Connection} (h : c.reading = true) (htaken : Taken c text c') :
      Step c (.receive text) c'
  | endReading (h : c.reading = true) : Step c .endReading c.close
  | releaseListeners (hreading : c.reading = false) (hlistening : c.listening = true) :
      Step c .releaseListeners c.release
  | write {frame : String} {rest : List String} (h : c.writing = true)
      (hqueue : c.queue = frame :: rest) :
      Step c .write { c with queue := rest, written := c.written ++ [frame] }
  | failWriting (h : c.writing = true) : Step c .failWriting { c with writing := false }
  | listen (method : String) :
      Step c (.listen method)
        { c with listeners := c.listeners ++ [⟨c.listeners.length, method, [], true, false⟩] }
  | dropListener (key : Nat) :
      Step c (.dropListener key)
        { c with
          listeners := c.listeners.map fun l =>
            if l.key = key then { l with dropped := true, inbox := [] } else l }
  | subscribe : Step c .subscribe { c with subscribers := c.subscribers ++ [⟨[], 0⟩] }
  | intercept {key : Nat} (session : String) (filter : RequestFilter)
      (hlistener : ∃ l ∈ c.listeners, l.key = key) (hfree : ∀ i ∈ c.interceptors, i.key ≠ key) :
      Step c (.intercept key session filter)
        { c with interceptors := c.interceptors ++ [⟨key, session, filter, true⟩] }
  | resume {key : Nat} {i : Interceptor} {l : Listener} {e : DevToolsEvent}
      {rest : List DevToolsEvent} {c' : Connection}
      (hi : c.interceptors.find? (fun i => i.key = key && i.running) = some i)
      (hl : c.listeners.find? (fun l => l.key = key && !l.dropped) = some l)
      (hinbox : l.inbox = e :: rest) (hresumed : Resumed c i l e rest c') :
      Step c (.resume key) c'
  | stopIntercepting (key : Nat) :
      Step c (.stopIntercepting key)
        { c with
          interceptors := c.interceptors.map fun i =>
            if i.key = key then { i with running := false } else i }

theorem Step.of_step (h : c.step a = some c') : Step c a c' := by
  cases a with
  | send command =>
    obtain rfl := Option.some.inj h
    exact .send command
  | register id =>
    rw [step] at h
    split at h
    · next hphase =>
      obtain rfl := Option.some.inj h
      exact .register hphase
    · cases h
  | enqueue id =>
    rw [step] at h
    split at h
    · next s hcommand =>
      split at h
      · next hphase =>
        obtain rfl := Option.some.inj h
        rw [Connection.enqueue]
        split
        · next hwriting => exact .enqueue hcommand hphase hwriting
        · next hwriting => exact .refuse hcommand hphase (by simpa using hwriting)
      · cases h
    · cases h
  | expire id =>
    rw [step] at h
    split at h
    · next s hcommand =>
      split at h
      · next hphase =>
        obtain rfl := Option.some.inj h
        exact .expire hcommand hphase
      · cases h
    · cases h
  | abandon id =>
    rw [step] at h
    split at h
    · next hphase =>
      obtain rfl := Option.some.inj h
      exact .abandon hphase (.inl rfl)
    · next hphase =>
      obtain rfl := Option.some.inj h
      exact .abandon hphase (.inr (.inl rfl))
    · next hphase =>
      obtain rfl := Option.some.inj h
      exact .abandon hphase (.inr (.inr rfl))
    · cases h
  | dispatch command =>
    obtain rfl := Option.some.inj h
    exact .dispatch command
  | receive text =>
    obtain ⟨hreading, h⟩ := Option.ite_none_right_eq_some.1 h
    obtain rfl := Option.some.inj h
    exact .receive hreading (taken_take c text)
  | endReading =>
    obtain ⟨hreading, h⟩ := Option.ite_none_right_eq_some.1 h
    obtain rfl := Option.some.inj h
    exact .endReading hreading
  | releaseListeners =>
    obtain ⟨hready, h⟩ := Option.ite_none_right_eq_some.1 h
    obtain rfl := Option.some.inj h
    simp only [Bool.and_eq_true, Bool.not_eq_true'] at hready
    exact .releaseListeners hready.1 hready.2
  | write =>
    rw [step] at h
    split at h
    · next frame rest hwriting hqueue =>
      obtain rfl := Option.some.inj h
      exact .write hwriting hqueue
    · cases h
  | failWriting =>
    obtain ⟨hwriting, h⟩ := Option.ite_none_right_eq_some.1 h
    obtain rfl := Option.some.inj h
    exact .failWriting hwriting
  | listen method =>
    obtain rfl := Option.some.inj h
    exact .listen method
  | dropListener key =>
    obtain rfl := Option.some.inj h
    exact .dropListener key
  | subscribe =>
    obtain rfl := Option.some.inj h
    exact .subscribe
  | intercept key session filter =>
    obtain ⟨hfree, h⟩ := Option.ite_none_right_eq_some.1 h
    obtain rfl := Option.some.inj h
    simp only [Bool.and_eq_true, List.any_eq_true, decide_eq_true_eq, Bool.not_eq_true',
      List.any_eq_false] at hfree
    exact .intercept session filter hfree.1 hfree.2
  | resume key =>
    rw [step] at h
    split at h
    · next i l hi hl =>
      obtain ⟨e, rest, hinbox, hresumed⟩ := resumed_of_resume h
      exact .resume hi hl hinbox hresumed
    · cases h
  | stopIntercepting key =>
    obtain rfl := Option.some.inj h
    exact .stopIntercepting key

/-- A number comes into the table only when its command is registered. -/
theorem Step.mem_table (h : Step c a c') (hid : id ∈ c'.table) :
    id ∈ c.table ∨ a = .register id := by
  cases h with
  | register hphase =>
    refine (List.mem_append.1 hid).imp_right fun hmem => ?_
    rw [List.mem_singleton.1 hmem]
  | refuse | expire => exact .inl (mem_table_forget.1 hid).1
  | receive hreading htaken =>
    cases htaken with
    | response => exact .inl (mem_table_forget.1 hid).1
    | event | unknown | unreadable => exact .inl hid
  | endReading => cases hid
  | resume hi hl hinbox hresumed => cases hresumed <;> exact .inl hid
  | _ => exact .inl hid

/-- There is no reader after the first one. -/
theorem Step.reading_eq (h : Step c a c') (hreading : c.reading = false) : c'.reading = false := by
  cases h with
  | receive h | endReading h => rw [hreading] at h; cases h
  | resume hi hl hinbox hresumed => cases hresumed <;> exact hreading
  | _ => exact hreading

/-- The listeners are let go in one step only, -/
theorem Step.listening_eq (h : Step c a c') (ha : a ≠ .releaseListeners) :
    c'.listening = c.listening := by
  cases h with
  | releaseListeners => exact absurd rfl ha
  | receive hreading htaken => cases htaken <;> rfl
  | resume hi hl hinbox hresumed => cases hresumed <;> rfl
  | _ => rfl

/-- and not before the reader has ended. -/
theorem Step.reading_of_listening (h : Step c a c')
    (hc : c.listening = false → c.reading = false) (hlistening : c'.listening = false) :
    c'.reading = false := by
  by_cases ha : a = .releaseListeners
  · subst ha
    cases h with
    | releaseListeners hreading => exact hreading
  · exact h.reading_eq (hc (h.listening_eq ha ▸ hlistening))

/-- Nor is there a writer after the first one. -/
theorem Step.writing_of (h : Step c a c') (hwriting : c'.writing = true) : c.writing = true := by
  cases h with
  | failWriting => cases hwriting
  | receive hreading htaken => cases htaken <;> exact hwriting
  | resume hi hl hinbox hresumed => cases hresumed <;> exact hwriting
  | _ => exact hwriting

/-! ## Runs -/

theorem run_append (c : Connection) (before after : List ConnectionAction) :
    c.run (before ++ after) = (c.run before).bind fun c => c.run after := by
  induction before generalizing c with
  | nil => rfl
  | cons a rest ih =>
    rw [List.cons_append, run, run, Option.bind_assoc]
    exact congrArg _ (funext fun c => ih c)

/-- What holds at first and is kept by each step, with the steps before it, holds after a run. -/
theorem invariant_of_run {P : List ConnectionAction → Connection → Prop}
    (hstep : ∀ past c a c', P past c → c.step a = some c' → P (past ++ [a]) c')
    {past actions : List ConnectionAction} (hc : P past c) (h : c.run actions = some c') :
    P (past ++ actions) c' := by
  induction actions generalizing past c with
  | nil =>
    obtain rfl := Option.some.inj h
    simpa using hc
  | cons a rest ih =>
    obtain ⟨c₁, hfirst, hrest⟩ := Option.bind_eq_some_iff.1 h
    simpa using ih (hstep past c a c₁ hc hfirst) hrest

/-- What each step keeps, a run keeps. -/
theorem kept_of_run {P : Connection → Prop} (hstep : ∀ c a c', P c → Step c a c' → P c')
    {actions : List ConnectionAction} (hc : P c) (h : c.run actions = some c') : P c' := by
  induction actions generalizing c with
  | nil =>
    obtain rfl := Option.some.inj h
    exact hc
  | cons a rest ih =>
    obtain ⟨c₁, hfirst, hrest⟩ := Option.bind_eq_some_iff.1 h
    exact ih (hstep c a c₁ hc (.of_step hfirst)) hrest

/-- A writer that runs at the end of a run has done so from the beginning. -/
theorem writing_of_run {actions : List ConnectionAction} (h : c.run actions = some c')
    (hwriting : c'.writing = true) : c.writing = true := by
  induction actions generalizing c with
  | nil =>
    obtain rfl := Option.some.inj h
    exact hwriting
  | cons a rest ih =>
    obtain ⟨c₁, hfirst, hrest⟩ := Option.bind_eq_some_iff.1 h
    exact (Step.of_step hfirst).writing_of (ih hrest)

end Connection

end PageScan

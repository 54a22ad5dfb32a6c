import PageScan.Proofs.Browser.Listeners
import PageScan.Proofs.Browser.Numbers

/-!
# Paused requests are resumed

An interceptor works through the events of its listener, which gets them from before interception
is turned on. Events that call for a command are answered in the order in which they come, each
once, whatever else goes on with the connection.

* `PausedRequest.resume?_eq_some_iff`: which events call for a command, and for which.
* `answers`: the commands of an interceptor. `Intercepting` says how they stand to the events that
  have come, and `Intercepting.step` keeps this.
* `Intercepting.drain`: nothing keeps an interceptor from coming to the end of its events.
* `intercepted_of_run`: what is the case after every run.
-/

namespace PageScan

namespace PausedRequest

/-- The type of the request that an event tells about. -/
def resourceType (params : Json.Value) : ResourceType :=
  match (params.member? "resourceType").bind Json.Value.string? with
  | some name => ResourceType.ofName name
  | none => .other "unknown"

/-- What an event has to say so that a command is called for, and what the command says. -/
def Calls (filter : RequestFilter) (session : String) (e : DevToolsEvent) (command : Command) :
    Prop :=
  e.method = "Fetch.requestPaused" ∧ e.sessionId = some session ∧
    ∃ id url, (e.params.member? "requestId").bind Json.Value.string? = some id ∧
      ((e.params.member? "request").bind (·.member? "url")).bind Json.Value.string? = some url ∧
      match filter ⟨resourceType e.params, url⟩ with
      | .abort _ =>
        command = ⟨"Fetch.failRequest",
          .object [("errorReason", .string "BlockedByClient"), ("requestId", .string id)],
          some session⟩
      | .continue =>
        command = ⟨"Fetch.continueRequest", .object [("requestId", .string id)], some session⟩

theorem ofParams?_eq (params : Json.Value) :
    ofParams? params =
      ((params.member? "requestId").bind Json.Value.string?).bind fun id =>
        (((params.member? "request").bind (·.member? "url")).bind Json.Value.string?).map fun url =>
          ⟨id, ⟨resourceType params, url⟩⟩ := by
  unfold ofParams? resourceType
  simp only [bind, pure, Option.bind_assoc, Option.map_eq_bind]
  rfl

theorem command_eq (filter : RequestFilter) (session id : String) (r : InterceptedRequest) :
    (⟨id, r⟩ : PausedRequest).command filter session =
      match filter r with
      | .abort _ =>
        ⟨"Fetch.failRequest",
          .object [("errorReason", .string "BlockedByClient"), ("requestId", .string id)],
          some session⟩
      | .continue =>
        ⟨"Fetch.continueRequest", .object [("requestId", .string id)], some session⟩ := by
  cases h : filter r <;> simp [command, h, InterceptDecision.isAbort]

theorem resume?_eq_some_iff {filter : RequestFilter} {session : String} {e : DevToolsEvent}
    {command : Command} :
    resume? filter session e = some command ↔ Calls filter session e command := by
  rw [resume?, Option.ite_none_right_eq_some, DevToolsEvent.is, Bool.and_eq_true,
    decide_eq_true_eq, decide_eq_true_eq, and_assoc, Calls]
  refine and_congr_right fun _ => and_congr_right fun _ => ?_
  rw [Option.map_eq_some_iff]
  constructor
  · rintro ⟨p, hp, rfl⟩
    rw [ofParams?_eq] at hp
    obtain ⟨id, hid, hmap⟩ := Option.bind_eq_some_iff.1 hp
    obtain ⟨url, hurl, rfl⟩ := Option.map_eq_some_iff.1 hmap
    refine ⟨id, url, hid, hurl, ?_⟩
    rw [command_eq]
    split <;> rfl
  · rintro ⟨id, url, hid, hurl, hcommand⟩
    refine ⟨⟨id, ⟨resourceType e.params, url⟩⟩, ?_, ?_⟩
    · rw [ofParams?_eq, hid, Option.bind_some, hurl, Option.map_some]
    · rw [command_eq]
      split at hcommand <;> exact hcommand.symm

/-- Other events are none of the interceptor's business. -/
theorem resume?_of_ne {filter : RequestFilter} {session : String} {e : DevToolsEvent}
    (h : e.method ≠ eventName) : resume? filter session e = none := by
  simp [resume?, DevToolsEvent.is, h]

end PausedRequest

namespace ConnectionAction

/-- The event that arrives in this step. -/
def event? : ConnectionAction → Option DevToolsEvent
  | .receive text =>
    match Inbound.ofText text with
    | .ok (.event e) => some e
    | _ => none
  | _ => none

/-- The interceptor of a listener takes its next event in this step. -/
def resumes (key : Nat) : ConnectionAction → Bool
  | .resume k => k = key
  | _ => false

theorem event?_receive_eq_some_iff {text : String} {e : DevToolsEvent} :
    (ConnectionAction.receive text).event? = some e ↔ Inbound.Announces text e := by
  rw [event?, ← Inbound.ofText_eq_event_iff]
  constructor
  · intro h
    split at h
    · next hframe =>
      obtain rfl := Option.some.inj h
      exact hframe
    · cases h
  · intro hframe
    rw [hframe]

theorem eq_of_resumes {key : Nat} {a : ConnectionAction} (h : a.resumes key) : a = .resume key := by
  cases a with
  | resume k => rw [of_decide_eq_true h]
  | _ => cases h

end ConnectionAction

namespace Listener

variable {l : Listener} {a : ConnectionAction}

/-- A listener that somebody takes from gets the events of its name. -/
theorem hear_eq {e : DevToolsEvent} (hdropped : l.dropped = false)
    (hregistered : l.registered = true) :
    l.hear e = { l with inbox := l.inbox ++ [e].filter fun e => e.method = l.method } := by
  obtain ⟨key, method, inbox, registered, dropped⟩ := l
  obtain rfl : dropped = false := hdropped
  obtain rfl : registered = true := hregistered
  by_cases hmethod : method = e.method
  · simp [hear, hmethod]
  · simp [hear, hmethod, Ne.symm hmethod]

/-- What becomes of a listener that is not dropped. -/
theorem after_eq (hdropped : l.dropped = false) (hdrop : a ≠ .dropListener l.key)
    (hregistered : a.event?.isSome → l.registered = true) :
    ∃ registered,
      l.after a =
        { l with
          registered
          inbox := (if a.resumes l.key then l.inbox.drop 1 else l.inbox) ++
            a.event?.toList.filter fun e => e.method = l.method } ∧
      (a ≠ .releaseListeners → registered = l.registered) := by
  cases a with
  | receive text =>
    refine ⟨l.registered, ?_, fun _ => rfl⟩
    cases hframe : Inbound.ofText text with
    | error e => simp [after, ConnectionAction.event?, ConnectionAction.resumes, hframe]
    | ok inbound =>
      cases inbound with
      | response id r => simp [after, ConnectionAction.event?, ConnectionAction.resumes, hframe]
      | event e =>
        have hregistered := hregistered (by simp [ConnectionAction.event?, hframe])
        simp [after, ConnectionAction.event?, ConnectionAction.resumes, hframe,
          hear_eq hdropped hregistered]
  | releaseListeners =>
    exact ⟨false, by simp [after, ConnectionAction.event?, ConnectionAction.resumes], by simp⟩
  | dropListener key =>
    refine ⟨l.registered, ?_, fun _ => rfl⟩
    rw [after, if_neg fun heq => hdrop (by rw [heq])]
    simp [ConnectionAction.event?, ConnectionAction.resumes]
  | resume key =>
    refine ⟨l.registered, ?_, fun _ => rfl⟩
    by_cases heq : l.key = key
    · simp [after, ConnectionAction.event?, ConnectionAction.resumes, heq]
    · simp [after, ConnectionAction.event?, ConnectionAction.resumes, heq, Ne.symm heq]
  | _ =>
    exact ⟨l.registered, by simp [after, ConnectionAction.event?, ConnectionAction.resumes],
      fun _ => rfl⟩

end Listener

namespace Connection

variable {c c' c₀ : Connection} {a : ConnectionAction} {key : Nat} {session : String}
  {filter : RequestFilter} {past actions : List ConnectionAction} {l : Listener}

/-! ## Interceptors -/

/-- A listener has an interceptor. -/
def Occupied (c : Connection) (key : Nat) : Prop :=
  ∃ i ∈ c.interceptors, i.key = key

theorem Occupied.step (ho : Occupied c key) (h : Step c a c') : Occupied c' key := by
  obtain ⟨i, hi, hkey⟩ := ho
  have hstopped (k : Nat) : Occupied (c.stopped k) key := by
    refine ⟨_, List.mem_map_of_mem hi, ?_⟩
    split <;> exact hkey
  cases h with
  | receive hreading htaken => cases htaken <;> exact ⟨i, hi, hkey⟩
  | intercept => exact ⟨i, List.mem_append_left _ hi, hkey⟩
  | resume hi' hl hinbox hresumed =>
    cases hresumed with
    | ignored | answered => exact ⟨i, hi, hkey⟩
    | failed => exact hstopped _
  | stopIntercepting k => exact hstopped k
  | _ => exact ⟨i, hi, hkey⟩

theorem Occupied.run (ho : Occupied c key) (h : c.run actions = some c') : Occupied c' key :=
  kept_of_run (P := fun c => Occupied c key) (fun _ _ _ ho hstep => ho.step hstep) ho h

/-- A listener gets an interceptor only once. -/
theorem Occupied.not_mem (ho : Occupied c key) (h : c.run actions = some c') :
    .intercept key session filter ∉ actions := by
  induction actions generalizing c with
  | nil => exact List.not_mem_nil
  | cons a rest ih =>
    obtain ⟨c₁, hfirst, hrest⟩ := Option.bind_eq_some_iff.1 h
    have hstep := Step.of_step hfirst
    intro hmem
    rcases List.mem_cons.1 hmem with rfl | hmem
    · cases hstep with
      | intercept _ _ hlistener hfree =>
        obtain ⟨i, hi, hkey⟩ := ho
        exact hfree i hi hkey
    · exact ih (ho.step hstep) hrest hmem

theorem occupied_of_intercept (h : c.step (.intercept key session filter) = some c') :
    Occupied c' key := by
  cases Step.of_step h with
  | intercept => exact ⟨⟨key, session, filter, true⟩, by simp, rfl⟩

/-- The interceptor that a listener gets is the only one. -/
theorem eq_of_intercept {meanwhile after : List ConnectionAction}
    (h : c.run (meanwhile ++ .intercept key session filter :: after) = some c') {session' : String}
    {filter' : RequestFilter}
    (hmem : .intercept key session' filter' ∈ meanwhile ++ .intercept key session filter :: after) :
    session' = session ∧ filter' = filter := by
  rcases List.mem_append.1 hmem with hmem | hmem
  · obtain ⟨first, second, rfl⟩ := List.append_of_mem hmem
    rw [List.append_assoc, run_append] at h
    obtain ⟨c₁, -, h⟩ := Option.bind_eq_some_iff.1 h
    obtain ⟨c₂, hstep, hrest⟩ := Option.bind_eq_some_iff.1 h
    have hagain : .intercept key session filter ∈ second ++ .intercept key session filter :: after :=
      List.mem_append_right _ List.mem_cons_self
    exact absurd hagain ((occupied_of_intercept hstep).not_mem hrest)
  · rcases List.mem_cons.1 hmem with heq | hmem
    · cases heq
      exact ⟨rfl, rfl⟩
    · rw [run_append] at h
      obtain ⟨c₁, -, h⟩ := Option.bind_eq_some_iff.1 h
      obtain ⟨c₂, hstep, hrest⟩ := Option.bind_eq_some_iff.1 h
      exact absurd hmem ((occupied_of_intercept hstep).not_mem hrest)

/-- Interceptors are on listeners that are there. -/
theorem Step.key_lt (h : Step c a c') (hk : Keyed c)
    (hlt : ∀ i ∈ c.interceptors, i.key < c.listeners.length) :
    ∀ i ∈ c'.interceptors, i.key < c'.listeners.length := by
  have hlength : c.listeners.length ≤ c'.listeners.length := by
    rw [h.listeners_eq hk, List.length_append, List.length_map]
    exact Nat.le_add_right ..
  have hold (i : Interceptor) (hi : ∃ j ∈ c.interceptors, i.key = j.key) :
      i.key < c'.listeners.length := by
    obtain ⟨j, hj, heq⟩ := hi
    exact heq ▸ Nat.lt_of_lt_of_le (hlt j hj) hlength
  have hstopped (k : Nat) :
      ∀ i ∈ (c.stopped k).interceptors, ∃ j ∈ c.interceptors, i.key = j.key := by
    intro i hi
    obtain ⟨j, hj, rfl⟩ := List.mem_map.1 hi
    refine ⟨j, hj, ?_⟩
    split <;> rfl
  cases h with
  | receive hreading htaken => cases htaken <;> exact fun i hi => hold i ⟨i, hi, rfl⟩
  | intercept _ _ hlistener hfree =>
    intro i hi
    rcases List.mem_append.1 hi with hi | hi
    · exact hold i ⟨i, hi, rfl⟩
    · obtain rfl := List.mem_singleton.1 hi
      obtain ⟨l, hl, rfl⟩ := hlistener
      obtain ⟨k, hget⟩ := List.mem_iff_getElem?.1 hl
      obtain rfl := hk k l hget
      exact (List.getElem?_eq_some_iff.1 hget).1
  | resume hi' hl hinbox hresumed =>
    cases hresumed with
    | ignored | answered => exact fun i hi => hold i ⟨i, hi, rfl⟩
    | failed => exact fun i hi => hold i (hstopped _ i hi)
  | stopIntercepting k => exact fun i hi => hold i (hstopped k i hi)
  | _ => exact fun i hi => hold i ⟨i, hi, rfl⟩

theorem key_lt_of_run {limit : Nat} (h : (opened limit).run actions = some c) :
    ∀ i ∈ c.interceptors, i.key < c.listeners.length := by
  have hinv : Keyed c ∧ ∀ i ∈ c.interceptors, i.key < c.listeners.length := by
    refine kept_of_run
      (P := fun d => Keyed d ∧ ∀ i ∈ d.interceptors, i.key < d.listeners.length) ?_ ?_ h
    · intro d a d' ⟨hk, hlt⟩ hstep
      exact ⟨hk.step hstep, hstep.key_lt hk hlt⟩
    · exact ⟨fun key l hl => by simp [opened] at hl, by simp [opened]⟩
  exact hinv.2

/-! ## Answers -/

/-- The commands with which the interceptor of a listener answers in a run, with their numbers. -/
def answers (c : Connection) (key : Nat) (actions : List ConnectionAction) : List (Nat × Command) :=
  c.gathered (fun c a => if a.resumes key then c.entry a else []) actions

/-- The commands that the events of a run call for. -/
def paused (filter : RequestFilter) (session : String) (actions : List ConnectionAction) :
    List Command :=
  (actions.filterMap ConnectionAction.event?).filterMap (PausedRequest.resume? filter session)

/-- The commands whose frames are queued in a run, in order, each with its number and with whether
the interceptor of a listener answers with it. -/
def queued (c : Connection) (key : Nat) (actions : List ConnectionAction) :
    List (Bool × Nat × Command) :=
  c.gathered (fun c a => (c.queues a).map fun p => (a.resumes key, p)) actions

/-- What an interceptor answers with is queued, and nothing else is queued in its steps. -/
theorem answers_eq (c : Connection) (key : Nat) (actions : List ConnectionAction) :
    ((c.queued key actions).filter Prod.fst).map Prod.snd = c.answers key actions := by
  have hstep (c : Connection) (a : ConnectionAction) :
      (((c.queues a).map fun p => (a.resumes key, p)).filter Prod.fst).map Prod.snd =
        if a.resumes key then c.entry a else [] := by
    split
    · next hresumes =>
      obtain rfl := ConnectionAction.eq_of_resumes hresumes
      simp [hresumes, List.filter_map, Function.comp_def, queues]
    · next hresumes => simp [hresumes, List.filter_map, Function.comp_def]
  induction actions generalizing c with
  | nil => rfl
  | cons a rest ih =>
    rw [queued, answers, gathered, gathered]
    cases c.step a with
    | none => rfl
    | some c' =>
      dsimp only
      rw [List.filter_append, List.map_append, hstep]
      exact congrArg _ (ih c')

/-- What goes out in a run through which the writer runs. -/
theorem outgoing_of_run (h : c.run actions = some c') (hwriting : c'.writing = true) :
    c'.outgoing = c.outgoing ++ (c.queued key actions).map fun q => q.2.2.frame q.2.1 := by
  induction actions generalizing c with
  | nil =>
    obtain rfl := Option.some.inj h
    exact (List.append_nil _).symm
  | cons a rest ih =>
    obtain ⟨c₁, hfirst, hrest⟩ := Option.bind_eq_some_iff.1 h
    have hqueued : c.queued key (a :: rest) =
        ((c.queues a).map fun p => (a.resumes key, p)) ++ c₁.queued key rest := by
      rw [queued, gathered, hfirst]
      rfl
    have hout := (Step.of_step hfirst).outgoing_eq
    rw [if_pos (writing_of_run h hwriting)] at hout
    rw [ih hrest, hout, hqueued, List.map_append, List.map_map, List.append_assoc]
    rfl

theorem forall_mem_gathered {β : Type} {g : Connection → ConnectionAction → List β}
    {P : β → Prop} (hg : ∀ c a, ∀ b ∈ g c a, P b) (c : Connection)
    (actions : List ConnectionAction) : ∀ b ∈ c.gathered g actions, P b := by
  induction actions generalizing c with
  | nil => exact List.forall_mem_nil _
  | cons a rest ih =>
    rw [gathered]
    cases c.step a with
    | none => exact List.forall_mem_nil _
    | some c' => exact List.forall_mem_append.2 ⟨hg c a, ih c'⟩

/-- The frame of an answer says which request is resumed, and how. -/
theorem standsIn_of_mem_answers {p : Nat × Command} (hp : p ∈ c.answers key actions)
    (hid : p.1 < 2 ^ 64) : p.2.StandsIn p.1 (p.2.frame p.1) := by
  refine Command.standsIn_frame hid <|
    forall_mem_gathered (P := fun p => p.2.params.Legible) (fun c a p hp => ?_) c actions p hp
  obtain ⟨hresumes, hp⟩ := List.mem_ite_nil_right.1 hp
  obtain rfl := ConnectionAction.eq_of_resumes hresumes
  obtain ⟨command, hcommand, rfl⟩ := Option.map_eq_some_iff.1 (Option.mem_toList.1 hp)
  rw [begins?] at hcommand
  split at hcommand
  · obtain ⟨e, -, hresume⟩ := Option.bind_eq_some_iff.1 hcommand
    obtain ⟨-, -, id, url, -, -, hcommand⟩ := PausedRequest.resume?_eq_some_iff.1 hresume
    split at hcommand <;> simp [hcommand]
  · cases hcommand

/-- How an interceptor, its listener `l` and what has come stand to each other after the steps
`past` from `c₀` on. -/
structure Intercepting (key : Nat) (session : String) (filter : RequestFilter) (c₀ : Connection)
    (past : List ConnectionAction) (c : Connection) (l : Listener) : Prop where
  run_eq : c₀.run past = some c
  keyed : Keyed c
  get : c.listeners[key]? = some l
  method : l.method = PausedRequest.eventName
  dropped : l.dropped = false
  registered : c.reading = true → l.registered = true
  interceptor : ∀ i ∈ c.interceptors, i.key = key → i = ⟨key, session, filter, true⟩
  /-- What is called for has been answered, or is still to be taken. -/
  answered : (c₀.answers key past).map Prod.snd ++
      l.inbox.filterMap (PausedRequest.resume? filter session) = paused filter session past

/-- Steps that leave the interceptor alone. -/
structure Spares (key : Nat) (session : String) (filter : RequestFilter) (a : ConnectionAction) :
    Prop where
  drop : a ≠ .dropListener key
  stop : a ≠ .stopIntercepting key
  own : ∀ session' filter', a = .intercept key session' filter' →
    session' = session ∧ filter' = filter

theorem answers_concat (h : c₀.run past = some c) (hstep : c.step a = some c') :
    c₀.answers key (past ++ [a]) =
      c₀.answers key past ++ if a.resumes key then c.entry a else [] :=
  gathered_concat h hstep

theorem paused_concat : paused filter session (past ++ [a]) =
    paused filter session past ++
      a.event?.toList.filterMap (PausedRequest.resume? filter session) := by
  rw [paused, paused, List.filterMap_append, List.filterMap_append]
  cases h : a.event? <;> simp [h]

theorem paused_replicate (n : Nat) :
    paused filter session (past ++ List.replicate n (.resume key)) =
      paused filter session past := by
  have hnone : (List.replicate n (.resume key)).filterMap ConnectionAction.event? = [] := by
    rw [List.filterMap_eq_nil_iff]
    intro a ha
    rw [List.eq_of_mem_replicate ha]
    rfl
  rw [paused, List.filterMap_append, hnone, List.append_nil, paused]

/-- Only events of the name of paused requests call for a command. -/
theorem filterMap_resume?_filter (events : List DevToolsEvent) :
    (events.filter fun e => e.method = PausedRequest.eventName).filterMap
        (PausedRequest.resume? filter session) =
      events.filterMap (PausedRequest.resume? filter session) := by
  induction events with
  | nil => rfl
  | cons e rest ih =>
    by_cases h : e.method = PausedRequest.eventName
    · rw [List.filter_cons_of_pos (by simpa using h), List.filterMap_cons, List.filterMap_cons, ih]
    · rw [List.filter_cons_of_neg (by simpa using h), ih, List.filterMap_cons,
        PausedRequest.resume?_of_ne h]

theorem Step.reading_of_event (h : Step c a c') (hevent : a.event?.isSome) : c.reading = true := by
  cases h with
  | receive hreading => exact hreading
  | _ => cases hevent

/-- The interceptor of a listener stays the one that it is. -/
theorem Step.interceptor_eq {i : Interceptor} (h : Step c a c')
    (hown : ∀ i ∈ c.interceptors, i.key = key → i = ⟨key, session, filter, true⟩)
    (ha : Spares key session filter a) (hwriting : c'.writing = true) (hi : i ∈ c'.interceptors)
    (hkey : i.key = key) : i = ⟨key, session, filter, true⟩ := by
  cases h with
  | receive hreading htaken => cases htaken <;> exact hown i hi hkey
  | intercept session' filter' hlistener hfree =>
    rcases List.mem_append.1 hi with hi | hi
    · exact hown i hi hkey
    · obtain rfl := List.mem_singleton.1 hi
      obtain rfl := hkey
      obtain ⟨rfl, rfl⟩ := ha.own session' filter' rfl
      rfl
  | resume hi' hl hinbox hresumed =>
    cases hresumed with
    | ignored | answered => exact hown i hi hkey
    | failed hcommand hnot =>
      cases hnot.symm.trans hwriting
  | stopIntercepting k =>
    obtain ⟨j, hj, rfl⟩ := List.mem_map.1 hi
    have hne : j.key ≠ k := by
      rintro rfl
      refine ha.stop ?_
      rw [if_pos rfl] at hkey
      rw [← hkey]
    rw [if_neg hne] at hkey ⊢
    exact hown j hj hkey
  | _ => exact hown i hi hkey

namespace Intercepting

/-- What an interceptor takes is the first of the events that are left, and it answers as the event
calls for. -/
theorem exists_of_resume (hi : Intercepting key session filter c₀ past c l)
    (h : Step c (.resume key) c') :
    ∃ e rest, l.inbox = e :: rest ∧
      (c.entry (.resume key)).map Prod.snd = (PausedRequest.resume? filter session e).toList := by
  cases h with
  | @resume _ i l' e rest c' hi' hl hinbox hresumed =>
    obtain ⟨hlmem, hlkey⟩ := mem_of_find_listener hl
    obtain ⟨himem, hikey⟩ := mem_of_find_interceptor hi'
    obtain rfl := hi.keyed.eq_of_key hi.get hlmem hlkey
    obtain rfl := hi.interceptor i himem hikey
    refine ⟨e, rest, hinbox, ?_⟩
    rw [entry_resume hi' hl hinbox]
    cases PausedRequest.resume? filter session e <;> rfl

theorem step (hi : Intercepting key session filter c₀ past c l) (ha : Spares key session filter a)
    (h : c.step a = some c') (hwriting : c'.writing = true) :
    Intercepting key session filter c₀ (past ++ [a]) c' (l.after a) := by
  have hstep := Step.of_step h
  have hkey : l.key = key := hi.keyed key l hi.get
  have hwriting' := hstep.writing_of hwriting
  have hget : c'.listeners[key]? = some (l.after a) := hstep.getElem?_listeners hi.keyed hi.get
  obtain ⟨registered, hafter, hregistered⟩ := Listener.after_eq hi.dropped (hkey ▸ ha.drop)
    fun hevent => hi.registered (hstep.reading_of_event hevent)
  rw [hafter] at hget ⊢
  -- An event brings a command to those that are called for, and keeps it in the listener; only a
  -- step of the interceptor takes it from there, to the answers and to what goes out.
  refine ⟨?_, hi.keyed.step hstep, hget, hi.method, hi.dropped, fun hreading => ?_,
    fun i hi' => hstep.interceptor_eq hi.interceptor ha hwriting hi', ?_⟩
  · rw [run_append, hi.run_eq, Option.bind_some, run, h]
    rfl
  · have hreading' : c.reading = true := by
      by_contra hnot
      rw [hstep.reading_eq (by simpa using hnot)] at hreading
      cases hreading
    have hrelease : a ≠ .releaseListeners := by
      rintro rfl
      cases hstep with
      | releaseListeners hnot => cases hnot.symm.trans hreading'
    rw [hregistered hrelease]
    exact hi.registered hreading'
  · dsimp only
    rw [answers_concat hi.run_eq h, paused_concat, hkey, hi.method]
    split
    · next hresumes =>
      obtain rfl := ConnectionAction.eq_of_resumes hresumes
      obtain ⟨e, rest, hinbox, hentry⟩ := hi.exists_of_resume hstep
      have hfirst : (e :: rest).filterMap (PausedRequest.resume? filter session) =
          (PausedRequest.resume? filter session e).toList ++
            rest.filterMap (PausedRequest.resume? filter session) := by
        rw [List.filterMap_cons]
        split <;> simp [*]
      calc _ = (c₀.answers key past).map Prod.snd ++
            ((PausedRequest.resume? filter session e).toList ++
              rest.filterMap (PausedRequest.resume? filter session)) := by
            simp [hentry, hinbox, ConnectionAction.event?]
        _ = paused filter session past := by rw [← hfirst, ← hinbox, hi.answered]
        _ = _ := (List.append_nil _).symm
    · rw [List.append_nil, List.filterMap_append, filterMap_resume?_filter, ← hi.answered,
        List.append_assoc]

theorem of_run (hi : Intercepting key session filter c₀ past c l)
    (ha : ∀ a ∈ actions, Spares key session filter a) (h : c.run actions = some c')
    (hwriting : c'.writing = true) :
    ∃ l', Intercepting key session filter c₀ (past ++ actions) c' l' := by
  induction actions generalizing past c l with
  | nil =>
    obtain rfl := Option.some.inj h
    exact ⟨l, by rwa [List.append_nil]⟩
  | cons a rest ih =>
    obtain ⟨c₁, hfirst, hrest⟩ := Option.bind_eq_some_iff.1 h
    have hi₁ := hi.step (ha a List.mem_cons_self) hfirst (writing_of_run hrest hwriting)
    obtain ⟨l', hi'⟩ := ih hi₁ (fun b hb => ha b (List.mem_cons_of_mem _ hb)) hrest
    exact ⟨l', by rwa [List.append_assoc] at hi'⟩

/-- An interceptor can take the next event if there is one. -/
theorem exists_step (hi : Intercepting key session filter c₀ past c l) (hwriting : c.writing = true)
    (ho : Occupied c key) (hinbox : l.inbox ≠ []) :
    ∃ c', c.step (.resume key) = some c' ∧ c'.writing = true := by
  have hkey : l.key = key := hi.keyed key l hi.get
  obtain ⟨i, hmem, hi'⟩ := ho
  obtain rfl := hi.interceptor i hmem hi'
  obtain ⟨i, hfind⟩ := Option.isSome_iff_exists.1 <|
    (List.find?_isSome (p := fun i : Interceptor => i.key = key && i.running)).2
      ⟨_, hmem, by simp⟩
  obtain ⟨l', hfind'⟩ := Option.isSome_iff_exists.1 <|
    (List.find?_isSome (p := fun l : Listener => l.key = key && !l.dropped)).2
      ⟨l, List.mem_of_getElem? hi.get, by simp [hkey, hi.dropped]⟩
  obtain ⟨hlmem, hlkey⟩ := mem_of_find_listener hfind'
  obtain rfl := hi.keyed.eq_of_key hi.get hlmem hlkey
  obtain ⟨e, rest, hcons⟩ := List.exists_cons_of_ne_nil hinbox
  rw [Connection.step, hfind, hfind']
  dsimp only
  rw [resume, hcons]
  dsimp only
  split
  · exact ⟨_, rfl, hwriting⟩
  · rw [if_pos hwriting]
    exact ⟨_, rfl, hwriting⟩

/-- An interceptor comes to the end of its events. -/
theorem drain (hi : Intercepting key session filter c₀ past c l) (hwriting : c.writing = true)
    (ho : Occupied c key) :
    ∃ c' l', c.run (List.replicate l.inbox.length (.resume key)) = some c' ∧
      c'.writing = true ∧ Intercepting key session filter c₀
        (past ++ List.replicate l.inbox.length (.resume key)) c' l' ∧
      l'.inbox = [] := by
  generalize hn : l.inbox.length = n
  induction n generalizing past c l with
  | zero => exact ⟨c, l, rfl, hwriting, by simpa using hi, List.length_eq_zero_iff.1 hn⟩
  | succ n ih =>
    obtain ⟨c₁, hstep, hwriting₁⟩ := hi.exists_step hwriting ho (by
      rintro hnil
      simp [hnil] at hn)
    have hspares : Spares key session filter (.resume key) := ⟨nofun, nofun, nofun⟩
    have hi₁ := hi.step hspares hstep hwriting₁
    have hlength : (l.after (.resume key)).inbox.length = n := by
      have hkey : l.key = key := hi.keyed key l hi.get
      rw [Listener.after, if_pos hkey, List.length_drop, hn, Nat.add_sub_cancel]
    obtain ⟨c', l', hrun, hwriting', hi', hnil⟩ :=
      ih hi₁ hwriting₁ (ho.step (.of_step hstep)) hlength
    refine ⟨c', l', ?_, hwriting', ?_, hnil⟩
    · rw [List.replicate_succ, run, hstep, Option.bind_some, hrun]
    · rwa [List.append_assoc] at hi'

end Intercepting

/-! ## Every run -/

/-- A listener that was just added. -/
theorem intercepting_listen {limit : Nat} {before : List ConnectionAction}
    (hbefore : (opened limit).run before = some c₀) :
    ∃ c l, c₀.step (.listen PausedRequest.eventName) = some c ∧
      Intercepting c₀.listeners.length session filter c₀ [.listen PausedRequest.eventName] c l := by
  refine ⟨_, ⟨c₀.listeners.length, PausedRequest.eventName, [], true, false⟩, rfl, ?_⟩
  have hk := keyed_of_run hbefore
  refine ⟨rfl, hk.step (.listen _), by simp, rfl, rfl, fun _ => rfl, fun i hi heq => ?_, rfl⟩
  exact absurd heq (Nat.ne_of_lt (key_lt_of_run hbefore i hi))

/-- What goes out in the steps `actions` from `c₀` on, which lead to `c`: the frames of commands, of
which those that the interceptor of a listener answers with are marked. -/
structure Queued (key : Nat) (c₀ : Connection) (actions : List ConnectionAction)
    (c : Connection) : Prop where
  sent : ((c₀.answers key actions).map fun p => p.2.frame p.1).Sublist c.outgoing
  outgoing : c.outgoing =
    c₀.outgoing ++ (c₀.queued key actions).map fun q => q.2.2.frame q.2.1
  marked : ((c₀.queued key actions).filter Prod.fst).map Prod.snd = c₀.answers key actions
  /-- The frame of an answer carries its number and names the request. -/
  frames : ∀ p ∈ c₀.answers key actions, p.1 < 2 ^ 64 → p.2.StandsIn p.1 (p.2.frame p.1)

theorem queued_of_run (h : c₀.run actions = some c) (hwriting : c.writing = true) :
    Queued key c₀ actions c where
  sent := by
    have hsub : (((c₀.queued key actions).filter Prod.fst).map
        fun q => q.2.2.frame q.2.1).Sublist c.outgoing := by
      rw [outgoing_of_run h hwriting]
      exact (List.filter_sublist.map _).trans (List.sublist_append_right ..)
    rwa [← answers_eq, List.map_map]
  outgoing := outgoing_of_run h hwriting
  marked := answers_eq c₀ key actions
  frames _ := standsIn_of_mem_answers

/-- What has come of the events for an interceptor after the steps `actions`, of which the first is
that its listener is added to `c₀`. -/
structure Intercepted (key : Nat) (session : String) (filter : RequestFilter) (c₀ : Connection)
    (actions : List ConnectionAction) (c : Connection) : Prop
    extends Queued key c₀ actions c where
  /-- The commands that the events call for, and no others, have been given in the order of the
  events, each once, up to those that are still to be taken. -/
  answered : ∃ l, c.listeners[key]? = some l ∧
    (c₀.answers key actions).map Prod.snd ++
      l.inbox.filterMap (PausedRequest.resume? filter session) = paused filter session actions
  /-- If the interceptor goes on, it has given them all. -/
  drained : ∃ n c', c.run (List.replicate n (.resume key)) = some c' ∧
    (c₀.answers key (actions ++ List.replicate n (.resume key))).map Prod.snd =
      paused filter session actions ∧
    Queued key c₀ (actions ++ List.replicate n (.resume key)) c'
  called : ∀ e command, PausedRequest.resume? filter session e = some command ↔
    PausedRequest.Calls filter session e command
  heard : ∀ text e, (ConnectionAction.receive text).event? = some e ↔ Inbound.Announces text e

/-- Requests are resumed as the filter of an interceptor decides, whatever else goes on with the
connection, from the step on in which its listener is added, as long as the writer runs and the
interceptor is not stopped. -/
theorem intercepted_of_run {limit : Nat} {before meanwhile after : List ConnectionAction}
    (hbefore : (opened limit).run before = some c₀)
    (h : c₀.run (.listen PausedRequest.eventName :: meanwhile ++
      .intercept c₀.listeners.length session filter :: after) = some c)
    (hdrop : .dropListener c₀.listeners.length ∉ meanwhile ++ after)
    (hstop : .stopIntercepting c₀.listeners.length ∉ meanwhile ++ after)
    (hwriting : c.writing = true) :
    Intercepted c₀.listeners.length session filter c₀
      (.listen PausedRequest.eventName :: meanwhile ++
        .intercept c₀.listeners.length session filter :: after) c := by
  obtain ⟨c₁, l₁, hlisten, hi₁⟩ : ∃ c₁ l₁,
      c₀.step (.listen PausedRequest.eventName) = some c₁ ∧
      Intercepting c₀.listeners.length session filter c₀ [.listen PausedRequest.eventName] c₁ l₁ :=
    intercepting_listen hbefore
  have hrun : c₁.run (meanwhile ++ .intercept c₀.listeners.length session filter :: after) =
      some c := by
    rwa [List.cons_append, run, hlisten, Option.bind_some] at h
  have hspares : ∀ a ∈ meanwhile ++ .intercept c₀.listeners.length session filter :: after,
      Spares c₀.listeners.length session filter a := by
    intro a ha
    have hother {b : ConnectionAction} (hb : b ∉ meanwhile ++ after)
        (hne : b ≠ .intercept c₀.listeners.length session filter) : a ≠ b := by
      rintro rfl
      simp [hne] at ha hb
      exact ha.elim hb.1 hb.2
    refine ⟨hother hdrop (by simp), hother hstop (by simp), fun session' filter' heq => ?_⟩
    exact eq_of_intercept hrun (heq ▸ ha)
  obtain ⟨l, hi⟩ := hi₁.of_run hspares hrun hwriting
  have ho : Occupied c c₀.listeners.length := by
    rw [run_append] at hrun
    obtain ⟨c₂, -, hrest⟩ := Option.bind_eq_some_iff.1 hrun
    obtain ⟨c₃, hintercept, hafter⟩ := Option.bind_eq_some_iff.1 hrest
    exact (occupied_of_intercept hintercept).run hafter
  refine ⟨queued_of_run h hwriting, ⟨l, hi.get, hi.answered⟩, ?_,
    fun _ _ => PausedRequest.resume?_eq_some_iff,
    fun _ _ => ConnectionAction.event?_receive_eq_some_iff⟩
  obtain ⟨c', l', hdrain, hwriting', hi', hnil⟩ := hi.drain hwriting ho
  refine ⟨l.inbox.length, c', hdrain, ?_, queued_of_run hi'.run_eq hwriting'⟩
  have hanswered := hi'.answered
  rw [hnil, List.filterMap_nil, List.append_nil, paused_replicate] at hanswered
  exact hanswered

/-- The frame that tells about a paused request. -/
def pausedFrame (session id url : String) : String :=
  "\x7b\"method\":\"Fetch.requestPaused\",\"sessionId\":\"" ++ session ++
    "\",\"params\":\x7b\"requestId\":\"" ++ id ++ "\",\"request\":\x7b\"url\":\"" ++ url ++
    "\"\x7d\x7d\x7d"

/-- Interception is turned on; a request is paused before that is answered. -/
def turnedOn : List ConnectionAction :=
  [.send ⟨"Fetch.enable", .null, some "A"⟩, .register 1, .enqueue 1, .write,
    .receive (pausedFrame "A" "1" "/page"), .receive "\x7b\"id\":1,\"result\":\x7b\x7d\x7d"]

/-- More requests are paused, one of another page and one that is not let through. -/
def traffic : List ConnectionAction :=
  [.subscribe, .receive (pausedFrame "B" "2" "/page"), .receive (pausedFrame "A" "3" "/ad"),
    .resume 0, .resume 0]

/-- Lets everything through but `/ad`. -/
def noAds : RequestFilter := fun r => if r.url = "/ad" then .abort "ad" else .continue

theorem intercepted_traffic :
    ∃ c, (opened 200).run (.listen PausedRequest.eventName :: turnedOn ++
        .intercept 0 "A" noAds :: traffic) = some c ∧
      Intercepted 0 "A" noAds (opened 200) (.listen PausedRequest.eventName :: turnedOn ++
        .intercept 0 "A" noAds :: traffic) c := by
  have hrun : ((opened 200).run (.listen PausedRequest.eventName :: turnedOn ++
      .intercept 0 "A" noAds :: traffic)).any Connection.writing = true := by
    decide +kernel
  obtain ⟨hsome, hwriting⟩ := (Option.any_eq_true_iff_get _ _).1 hrun
  have hopened : (opened 200).run [] = some (opened 200) := rfl
  exact ⟨_, (Option.some_get hsome).symm, intercepted_of_run hopened (Option.some_get hsome).symm
    (by simp [turnedOn, traffic]) (by simp [turnedOn, traffic]) hwriting⟩

end Connection

end PageScan

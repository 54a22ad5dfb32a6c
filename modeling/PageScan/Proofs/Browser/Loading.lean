import PageScan.Browser.Navigation
import PageScan.Proofs.Browser.Interception

/-!
# Waiting for a load

A page tells how far it has come with a load, and may tell it before it is known which load has
begun. So its events are queued from the moment the load is asked for, and gone through once the
answer is there. In what order they come, how often, and on which side of the answer makes no
difference; what is told by other pages or about other loads does not count.

* `Connection.queued_of_listen`: the queue misses no event.
* `noted_foldl`: what a watch knows after any events.
* `awaitLoad_ok_iff`: a load is over exactly when all that its policy needs is told in time.
-/

namespace PageScan

/-! ## The queue -/

/-- A listener that is left alone queues each event of its name, in order. -/
theorem Listener.inbox_foldl_after {li : Listener} {actions : List ConnectionAction}
    (hregistered : li.registered = true) (hdropped : li.dropped = false)
    (hrelease : .releaseListeners ∉ actions) (hdrop : .dropListener li.key ∉ actions)
    (htake : .resume li.key ∉ actions) :
    (actions.foldl after li).inbox =
      li.inbox ++ (actions.filterMap ConnectionAction.event?).filter fun e =>
        e.method = li.method := by
  induction actions generalizing li with
  | nil => simp
  | cons a actions ih =>
    rw [List.mem_cons, not_or] at hrelease hdrop htake
    have htakes : a.resumes li.key = false :=
      Bool.eq_false_iff.2 fun h => htake.1 (ConnectionAction.eq_of_resumes h).symm
    obtain ⟨registered, hafter, hkept⟩ :=
      after_eq hdropped (Ne.symm hdrop.1) fun _ => hregistered
    have hregistered' : (li.after a).registered = true := by
      rw [hafter, hkept (Ne.symm hrelease.1), hregistered]
    have ih := ih hregistered' (by rw [hafter, hdropped]) hrelease.2
      (by rw [key_after]; exact hdrop.2) (by rw [key_after]; exact htake.2)
    rw [List.foldl_cons, ih, hafter, htakes]
    cases h : a.event? <;> simp [h, ← List.filter_append]

/-- Who begins to listen before a command is sent has all events of that name that arrive since, in
order. -/
theorem Connection.queued_of_listen {c c' : Connection} {method : String}
    {actions : List ConnectionAction} (hk : Keyed c)
    (hrun : c.run (.listen method :: actions) = some c')
    (hrelease : .releaseListeners ∉ actions) (hdrop : .dropListener c.listeners.length ∉ actions)
    (htake : .resume c.listeners.length ∉ actions) :
    ∃ li, c'.listeners[c.listeners.length]? = some li ∧
      li.inbox = (actions.filterMap ConnectionAction.event?).filter fun e => e.method = method := by
  obtain ⟨c₁, hlisten, hrun⟩ := Option.bind_eq_some_iff.1 hrun
  have hstep := Step.of_step hlisten
  obtain rfl := Option.some.inj hlisten
  refine ⟨_, listeners_of_run (hk.step hstep) hrun List.getElem?_concat_length, ?_⟩
  exact Listener.inbox_foldl_after rfl rfl hrelease hdrop htake

/-! ## The watch -/

/-- The names of what a load has to come to. -/
def WaitPolicy.needs : WaitPolicy → List String
  | .domContentLoaded => ["DOMContentLoaded"]
  | .networkIdle => ["load", "networkAlmostIdle"]

namespace LifecycleWatch

variable {w : LifecycleWatch} {name : String} {wait : WaitPolicy}

/-- The load is known to have come to this. -/
def noted (w : LifecycleWatch) : String → Bool
  | "DOMContentLoaded" => w.contentLoaded
  | "load" => w.loaded
  | "networkAlmostIdle" => w.almostIdle
  | _ => false

theorem isSatisfied_iff : w.isSatisfied = true ↔ ∀ name ∈ w.wait.needs, w.noted name = true := by
  rw [isSatisfied]
  cases w.wait <;> simp [WaitPolicy.needs, noted]

/-- What is noted stays noted, and nothing is noted with it. -/
theorem noted_note (hname : name ∈ wait.needs) (told : String) :
    (w.note told).noted name = true ↔ w.noted name = true ∨ told = name := by
  have hnames : name = "DOMContentLoaded" ∨ name = "load" ∨ name = "networkAlmostIdle" := by
    cases wait <;> simp [WaitPolicy.needs] at hname <;> simp [hname]
  unfold note
  rcases hnames with rfl | rfl | rfl <;> split <;> simp_all [noted]

theorem loaderId_note (told : String) : (w.note told).loaderId = w.loaderId := by
  unfold note
  split <;> rfl

theorem wait_note (told : String) : (w.note told).wait = w.wait := by
  unfold note
  split <;> rfl

theorem isSatisfied_note (h : w.isSatisfied = true) (told : String) :
    (w.note told).isSatisfied = true := by
  rw [isSatisfied_iff, wait_note]
  exact fun name hname => (noted_note hname told).2 (.inl (isSatisfied_iff.1 h name hname))

theorem isSatisfied_observe (h : w.isSatisfied = true) (params : Json.Value) :
    (w.observe params).isSatisfied = true := by
  rw [observe]
  split
  · exact h
  · split
    · exact isSatisfied_note h _
    · exact h

end LifecycleWatch

namespace PendingLoad

variable (l : PendingLoad) (loader : String)

/-- An event of the page is about the load, or does not say which load it is about. -/
def Concerns (e : DevToolsEvent) : Prop :=
  e.is eventName l.sessionId = true ∧
    ∀ other, (e.params.member? "loaderId").bind Json.Value.string? = some other → other = loader

/-- An event tells that the load has come to something. -/
def Tells (e : DevToolsEvent) (name : String) : Prop :=
  l.Concerns loader e ∧ (e.params.member? "name").bind Json.Value.string? = some name

/-- A watch of the load. -/
structure Watches (w : LifecycleWatch) : Prop where
  loaderId : w.loaderId = some loader
  wait : w.wait = l.wait

variable {l loader} {w : LifecycleWatch} {e : DevToolsEvent} {name : String}

theorem isForeign_iff (hw : l.Watches loader w) (params : Json.Value) :
    w.isForeign params = true ↔
      ¬∀ other, (params.member? "loaderId").bind Json.Value.string? = some other →
        other = loader := by
  rw [LifecycleWatch.isForeign, hw.loaderId]
  cases (params.member? "loaderId").bind Json.Value.string? with
  | none => simp
  | some actual => simpa using ne_comm

theorem observe_of_not_concerns (hw : l.Watches loader w) (h : ¬l.Concerns loader e) :
    l.observe w e = w := by
  rw [observe]
  split
  · next hpage => exact if_pos ((isForeign_iff hw _).2 fun hloader => h ⟨hpage, hloader⟩)
  · rfl

theorem observe_of_concerns (hw : l.Watches loader w) (h : l.Concerns loader e) :
    l.observe w e = match (e.params.member? "name").bind Json.Value.string? with
      | some told => w.note told
      | none => w := by
  have hours : ¬w.isForeign e.params = true := fun hforeign => (isForeign_iff hw _).1 hforeign h.2
  rw [observe, if_pos h.1]
  exact if_neg hours

theorem Watches.observe (hw : l.Watches loader w) (e : DevToolsEvent) :
    l.Watches loader (l.observe w e) := by
  by_cases h : l.Concerns loader e
  · rw [observe_of_concerns hw h]
    split
    · exact ⟨(LifecycleWatch.loaderId_note _).trans hw.loaderId,
        (LifecycleWatch.wait_note _).trans hw.wait⟩
    · exact hw
  · rwa [observe_of_not_concerns hw h]

theorem noted_observe (hw : l.Watches loader w) (hname : name ∈ l.wait.needs) :
    (l.observe w e).noted name = true ↔ w.noted name = true ∨ l.Tells loader e name := by
  by_cases h : l.Concerns loader e
  · rw [observe_of_concerns hw h, Tells]
    split
    · next told htold => simp [LifecycleWatch.noted_note hname, h, htold]
    · next htold => simp [htold]
  · simp [observe_of_not_concerns hw h, Tells, h]

/-- A watch knows what it knew before and what was told since, in whatever order. -/
theorem noted_foldl (hw : l.Watches loader w) (hname : name ∈ l.wait.needs)
    (es : List DevToolsEvent) :
    (es.foldl l.observe w).noted name = true ↔
      w.noted name = true ∨ ∃ e ∈ es, l.Tells loader e name := by
  induction es generalizing w with
  | nil => simp
  | cons e es ih =>
    rw [List.foldl_cons, ih (hw.observe e), noted_observe hw hname, or_assoc]
    simp

theorem isSatisfied_foldl_iff (hw : l.Watches loader w) (es : List DevToolsEvent) :
    (es.foldl l.observe w).isSatisfied = true ↔
      ∀ name ∈ l.wait.needs, w.noted name = true ∨ ∃ e ∈ es, l.Tells loader e name := by
  have hwatches : l.Watches loader (es.foldl l.observe w) := by
    induction es generalizing w with
    | nil => exact hw
    | cons e es ih => exact ih (hw.observe e)
  rw [LifecycleWatch.isSatisfied_iff, hwatches.wait]
  exact forall₂_congr fun name hname => noted_foldl hw hname es

/-- Once a load counts as finished it stays so. -/
theorem isSatisfied_foldl (hsatisfied : w.isSatisfied = true) (es : List DevToolsEvent) :
    (es.foldl l.observe w).isSatisfied = true := by
  induction es generalizing w with
  | nil => exact hsatisfied
  | cons e es ih =>
    refine ih ?_
    rw [observe]
    split
    · exact LifecycleWatch.isSatisfied_observe hsatisfied e.params
    · exact hsatisfied

theorem completes_iff (h : ¬w.isSatisfied = true) (e : DevToolsEvent) :
    l.completes w e = true ↔ (l.observe w e).isSatisfied = true := by
  rw [completes, observe]
  split <;> simp_all

end PendingLoad

/-- The events that arrive within a limit. -/
def Traffic.events (limitMs : Nat) (traffic : Traffic) : List DevToolsEvent :=
  traffic.filterMap fun
    | (time, .frame (.event e)) => if time ≤ limitMs then some e else none
    | _ => none

theorem Traffic.mem_events {limitMs : Nat} {traffic : Traffic} {e : DevToolsEvent} :
    e ∈ traffic.events limitMs ↔ ∃ time ≤ limitMs, (time, .frame (.event e)) ∈ traffic := by
  rw [Traffic.events, List.mem_filterMap]
  constructor
  · rintro ⟨⟨time, (⟨id, result⟩ | e') | _⟩, hmem, h⟩
    · cases h
    · obtain ⟨hle, rfl⟩ : time ≤ limitMs ∧ e' = e := by simpa using h
      exact ⟨time, hle, hmem⟩
    · cases h
  · rintro ⟨time, hle, hmem⟩
    exact ⟨_, hmem, if_pos hle⟩

/-- The connection closes within a limit. -/
def Traffic.closes (limitMs : Nat) (traffic : Traffic) : Bool :=
  traffic.any fun
    | (time, .closed) => decide (time ≤ limitMs)
    | _ => false

theorem Traffic.closes_iff {limitMs : Nat} {traffic : Traffic} :
    traffic.closes limitMs = true ↔ ∃ time ≤ limitMs, (time, .closed) ∈ traffic := by
  rw [Traffic.closes, List.any_eq_true]
  constructor
  · rintro ⟨⟨time, _ | _⟩, hmem, h⟩
    · cases h
    · exact ⟨time, of_decide_eq_true h, hmem⟩
  · rintro ⟨time, hle, hmem⟩
    exact ⟨_, hmem, decide_eq_true hle⟩

/-- Time does not go back, and nothing arrives any more over a connection that is closed. -/
def Traffic.Ordered (traffic : Traffic) : Prop :=
  traffic.Pairwise fun a b => a.1 ≤ b.1 ∧ a.2 ≠ .closed

/-- Nothing arrives in time any more from something late on. -/
theorem Traffic.Ordered.lt_of_late {limitMs time : Nat} {arrival : Arrival} {rest : Traffic}
    (h : Traffic.Ordered ((time, arrival) :: rest)) (hlate : limitMs < time) :
    ∀ a ∈ (time, arrival) :: rest, limitMs < a.1 :=
  List.forall_mem_cons.2
    ⟨hlate, fun a ha => Nat.lt_of_lt_of_le hlate ((List.pairwise_cons.1 h).1 a ha).1⟩

theorem Traffic.events_of_lt {limitMs : Nat} {traffic : Traffic}
    (h : ∀ a ∈ traffic, limitMs < a.1) : traffic.events limitMs = [] := by
  refine List.eq_nil_iff_forall_not_mem.2 fun e he => ?_
  obtain ⟨time, hle, hmem⟩ := Traffic.mem_events.1 he
  exact absurd hle (Nat.not_le.2 (h _ hmem))

theorem Traffic.closes_of_lt {limitMs : Nat} {traffic : Traffic}
    (h : ∀ a ∈ traffic, limitMs < a.1) : traffic.closes limitMs = false := by
  refine Bool.eq_false_iff.2 fun hcloses => ?_
  obtain ⟨time, hle, hmem⟩ := Traffic.closes_iff.1 hcloses
  exact absurd hle (Nat.not_le.2 (h _ hmem))

namespace PendingLoad

variable {l : PendingLoad} {loader : String} {w : LifecycleWatch}

/-- What a load fails with that is not over in time. -/
def missed (l : PendingLoad) (traffic : Traffic) : PageError :=
  if traffic.closes l.limitMs then .closed else l.overdue

theorem watchTraffic_of_late {time : Nat} {arrival : Arrival} {rest : Traffic}
    (hlate : l.limitMs < time) :
    l.watchTraffic w ((time, arrival) :: rest) = .error l.overdue := by
  rcases arrival with (_ | _) | _ <;> exact if_pos hlate

theorem watchTraffic_event {time : Nat} {e : DevToolsEvent} {rest : Traffic}
    (hintime : ¬l.limitMs < time) :
    l.watchTraffic w ((time, .frame (.event e)) :: rest) =
      if l.completes w e then .ok () else l.watchTraffic (l.observe w e) rest :=
  if_neg hintime

theorem watchTraffic_of_open {traffic : Traffic} (hopen : ¬w.isSatisfied = true)
    (hordered : traffic.Ordered) :
    l.watchTraffic w traffic =
      if ((traffic.events l.limitMs).foldl l.observe w).isSatisfied then .ok ()
      else .error (l.missed traffic) := by
  induction traffic generalizing w with
  | nil => exact (if_neg hopen).symm
  | cons a rest ih =>
    obtain ⟨time, arrival⟩ := a
    obtain ⟨hfirst, hrest⟩ := List.pairwise_cons.1 hordered
    by_cases hlate : l.limitMs < time
    · have hlt := hordered.lt_of_late hlate
      rw [watchTraffic_of_late hlate, Traffic.events_of_lt hlt, missed, Traffic.closes_of_lt hlt]
      exact (if_neg hopen).symm
    · have hintime : time ≤ l.limitMs := Nat.le_of_not_lt hlate
      rcases arrival with (⟨id, result⟩ | e) | _
      · exact (if_neg hlate).trans (ih hopen hrest)
      · have hevents : Traffic.events l.limitMs ((time, .frame (.event e)) :: rest) =
            e :: Traffic.events l.limitMs rest :=
          List.filterMap_cons_some (if_pos hintime)
        rw [hevents, List.foldl_cons, watchTraffic_event hlate]
        by_cases hcompletes : l.completes w e = true
        · have hsatisfied := (completes_iff hopen e).1 hcompletes
          rw [if_pos hcompletes, if_pos (isSatisfied_foldl hsatisfied _)]
        · rw [if_neg hcompletes]
          exact ih (mt (completes_iff hopen e).2 hcompletes) hrest
      · -- nothing comes after the closing, so that nothing is told any more
        obtain rfl : rest = [] :=
          List.eq_nil_iff_forall_not_mem.2 fun b hb => (hfirst b hb).2 rfl
        have hcloses : Traffic.closes l.limitMs [(time, .closed)] = true :=
          Traffic.closes_iff.2 ⟨time, hintime, List.mem_cons_self⟩
        rw [missed, if_pos hcloses]
        exact (if_neg hlate).trans (if_neg hopen).symm

/-- The watch goes through what was heard and then through what still arrives. -/
theorem watch_of_open {es : List DevToolsEvent} {traffic : Traffic} (hopen : ¬w.isSatisfied = true)
    (hordered : traffic.Ordered) :
    (match l.watchHeard w es with
      | (_, true) => .ok ()
      | (w, false) => l.watchTraffic w traffic : Except PageError Unit) =
      if ((es ++ traffic.events l.limitMs).foldl l.observe w).isSatisfied then .ok ()
      else .error (l.missed traffic) := by
  induction es generalizing w with
  | nil => exact watchTraffic_of_open hopen hordered
  | cons e es ih =>
    rw [watchHeard, List.cons_append, List.foldl_cons]
    by_cases hcompletes : l.completes w e = true
    · have hsatisfied := (completes_iff hopen e).1 hcompletes
      rw [if_pos hcompletes, if_pos (isSatisfied_foldl hsatisfied _)]
    · rw [if_neg hcompletes]
      exact ih (mt (completes_iff hopen e).2 hcompletes)

/-- The answer is found behind what arrives before it, of which the events are heard. -/
theorem awaitAnswer_of_answered {before after : Traffic} {time : Nat} {answer : Json.Value}
    (heard : List DevToolsEvent)
    (hbefore : ∀ a ∈ before, a.1 ≤ min l.limitMs l.commandTimeoutMs)
    (hclosed : ∀ time, (time, .closed) ∉ before)
    (hfirst : ∀ time result, (time, .frame (.response l.commandId result)) ∉ before)
    (htime : time ≤ min l.limitMs l.commandTimeoutMs) :
    l.awaitAnswer heard (before ++ (time, .frame (.response l.commandId (.ok answer))) :: after) =
      .ok (answer,
        heard ++ (before.events l.limitMs).filter (fun e => e.method = eventName), after) := by
  induction before generalizing heard with
  | nil =>
    refine (if_neg (Nat.not_lt.2 htime)).trans ((if_pos rfl).trans ?_)
    simp [Traffic.events]
  | cons a before ih =>
    obtain ⟨time', arrival⟩ := a
    obtain ⟨hintime, hbefore⟩ := List.forall_mem_cons.1 hbefore
    have ih (heard : List DevToolsEvent) := ih heard hbefore
      (fun t hmem => hclosed t (List.mem_cons_of_mem _ hmem))
      (fun t r hmem => hfirst t r (List.mem_cons_of_mem _ hmem))
    have hnotlate := Nat.not_lt.2 hintime
    rcases arrival with (⟨id, result⟩ | e) | _
    · have hother : id ≠ l.commandId := by
        rintro rfl
        exact hfirst _ _ List.mem_cons_self
      exact (if_neg hnotlate).trans ((if_neg hother).trans (ih heard))
    · have hevents : Traffic.events l.limitMs ((time', .frame (.event e)) :: before) =
          e :: Traffic.events l.limitMs before :=
        List.filterMap_cons_some (if_pos (Nat.le_trans hintime (Nat.min_le_left _ _)))
      refine (if_neg hnotlate).trans ((ih _).trans ?_)
      rw [hevents]
      by_cases hname : e.method = eventName <;> simp [hname]
    · exact absurd List.mem_cons_self (hclosed _)

/-- A listener has been there since a load was asked for, and this has arrived since. -/
inductive Attends (l : PendingLoad) (before : Traffic) : Listener → Prop
  | mk {timeoutMs : Nat} {past actions : List ConnectionAction} {c c' : Connection}
    {listener : Listener} (hpast : (Connection.opened timeoutMs).run past = some c)
    (hrun : c.run (.listen eventName :: actions) = some c')
    (hrelease : .releaseListeners ∉ actions) (hdrop : .dropListener c.listeners.length ∉ actions)
    (htake : .resume c.listeners.length ∉ actions)
    (harrived : actions.filterMap ConnectionAction.event? = before.events l.limitMs)
    (hlistener : c'.listeners[c.listeners.length]? = some listener) : Attends l before listener

/-- The events that are heard before the answer are in the inbox of the listener. -/
theorem Attends.inbox_eq {before : Traffic} {listener : Listener} (h : l.Attends before listener) :
    listener.inbox = (before.events l.limitMs).filter fun e => e.method = eventName := by
  obtain ⟨hpast, hrun, hrelease, hdrop, htake, harrived, hlistener⟩ := h
  obtain ⟨li, hli, hinbox⟩ :=
    Connection.queued_of_listen (Connection.keyed_of_run hpast) hrun hrelease hdrop htake
  cases hli.symm.trans hlistener
  rw [hinbox, harrived]

/-! ## What becomes of a load -/

/-- The load is answered in time, with the load that has begun. -/
structure Answered (l : PendingLoad) (loader : String) (traffic : Traffic) : Prop where
  ordered : traffic.Ordered
  answered : ∃ before time answer after,
    traffic = before ++ (time, .frame (.response l.commandId (.ok answer))) :: after ∧
      (∀ time' result, (time', .frame (.response l.commandId result)) ∉ before) ∧
      time ≤ min l.limitMs l.commandTimeoutMs ∧
      (answer.member? "errorText").bind Json.Value.string? = none ∧
      (answer.member? "loaderId").bind Json.Value.string? = some loader

/-- All that the load has to come to is told in time. -/
def Complete (l : PendingLoad) (loader : String) (traffic : Traffic) : Prop :=
  ∀ name ∈ l.wait.needs, ∃ time ≤ l.limitMs, ∃ e,
    (time, .frame (.event e)) ∈ traffic ∧ l.Tells loader e name

/-- The watch with which a load begins. -/
def firstWatch (l : PendingLoad) (loader : String) : LifecycleWatch :=
  ⟨some loader, l.wait, false, false, false⟩

theorem noted_firstWatch (name : String) : (l.firstWatch loader).noted name = false := by
  unfold LifecycleWatch.noted
  split <;> rfl

theorem isSatisfied_firstWatch : ¬(l.firstWatch loader).isSatisfied = true := by
  rw [LifecycleWatch.isSatisfied, firstWatch]
  cases l.wait <;> exact Bool.false_ne_true

/-- Of the events that count none is lost on the way to the watch. -/
theorem exists_tells_iff {before after : Traffic} {time : Nat} {result} {name : String} :
    (∃ e ∈ (Traffic.events l.limitMs before).filter (fun e => e.method = eventName) ++
        Traffic.events l.limitMs after, l.Tells loader e name) ↔
      ∃ time' ≤ l.limitMs, ∃ e,
        (time', .frame (.event e)) ∈
            before ++ (time, .frame (.response l.commandId result)) :: after ∧
          l.Tells loader e name := by
  have hmethod {e : DevToolsEvent} (h : l.Tells loader e name) : e.method = eventName := by
    have his := h.1.1
    rw [DevToolsEvent.is, Bool.and_eq_true, decide_eq_true_eq] at his
    exact his.1
  constructor
  · rintro ⟨e, he, htells⟩
    rcases List.mem_append.1 he with he | he
    · obtain ⟨time', hle, hmem⟩ := Traffic.mem_events.1 (List.mem_filter.1 he).1
      exact ⟨time', hle, e, List.mem_append_left _ hmem, htells⟩
    · obtain ⟨time', hle, hmem⟩ := Traffic.mem_events.1 he
      exact ⟨time', hle, e, List.mem_append_right _ (List.mem_cons_of_mem _ hmem), htells⟩
  · rintro ⟨time', hle, e, hmem, htells⟩
    refine ⟨e, List.mem_append.2 ?_, htells⟩
    rcases List.mem_append.1 hmem with hmem | hmem
    · exact .inl (List.mem_filter.2 ⟨Traffic.mem_events.2 ⟨time', hle, hmem⟩,
        decide_eq_true (hmethod htells)⟩)
    · rcases List.mem_cons.1 hmem with heq | hmem
      · cases heq
      · exact .inr (Traffic.mem_events.2 ⟨time', hle, hmem⟩)

theorem awaitLoad_of_answered {traffic : Traffic} (h : l.Answered loader traffic) :
    (l.Complete loader traffic → l.awaitLoad traffic = .ok ()) ∧
      (¬l.Complete loader traffic → l.awaitLoad traffic = .error (l.missed traffic)) := by
  obtain ⟨hordered, before, time, answer, after, htraffic, hfirst, htime, htext, hloader⟩ := h
  rw [htraffic, Traffic.Ordered] at hordered
  obtain ⟨-, hrest, hle⟩ := List.pairwise_append.1 hordered
  have hafter : Traffic.Ordered after := (List.pairwise_cons.1 hrest).2
  have hbefore : ∀ a ∈ before, a.1 ≤ min l.limitMs l.commandTimeoutMs :=
    fun a ha => Nat.le_trans (hle a ha _ List.mem_cons_self).1 htime
  have hclosed : ∀ time, (time, .closed) ∉ before :=
    fun t ht => (hle _ ht _ List.mem_cons_self).2 rfl
  have hmissed : l.missed traffic = l.missed after := by
    have hcloses : traffic.closes l.limitMs = true ↔ Traffic.closes l.limitMs after = true := by
      rw [Traffic.closes_iff, Traffic.closes_iff, htraffic]
      simp [hclosed]
    rw [missed, missed, Bool.eq_iff_iff.2 hcloses]
  let es := (Traffic.events l.limitMs before).filter (fun e => e.method = eventName) ++
    Traffic.events l.limitMs after
  have hload : l.awaitLoad traffic =
      if (es.foldl l.observe (l.firstWatch loader)).isSatisfied then .ok ()
      else .error (l.missed traffic) := by
    rw [hmissed, htraffic, awaitLoad, awaitAnswer_of_answered [] hbefore hclosed hfirst htime]
    simp only [bind, Except.bind, htext, hloader]
    exact watch_of_open isSatisfied_firstWatch hafter
  have hcomplete : l.Complete loader traffic ↔
      (es.foldl l.observe (l.firstWatch loader)).isSatisfied = true := by
    rw [isSatisfied_foldl_iff ⟨rfl, rfl⟩, Complete, htraffic]
    refine forall₂_congr fun name _ => ?_
    rw [← exists_tells_iff, noted_firstWatch]
    simp [es]
  rw [hload, hcomplete]
  exact ⟨fun h => if_pos h, fun h => if_neg h⟩

/-- A load that is answered in time is over exactly when all that its policy needs is told in time.
Else it is overdue, or the connection closes before. Only the events that are about it matter, in
any order. Once the watch is satisfied it stays so. What it begins with is in the inbox of a listener
that was there from the start. -/
theorem awaitLoad_ok_iff {traffic : Traffic} (h : l.Answered loader traffic) :
    (l.awaitLoad traffic = .ok () ↔ l.Complete loader traffic) ∧
      (¬l.Complete loader traffic → l.awaitLoad traffic = .error (l.missed traffic)) ∧
      (∀ other : Traffic, l.Answered loader other →
        (∀ time e, l.Concerns loader e →
          ((time, .frame (.event e)) ∈ other ↔ (time, .frame (.event e)) ∈ traffic)) →
        (l.awaitLoad other = .ok () ↔ l.awaitLoad traffic = .ok ())) ∧
      (∀ (w : LifecycleWatch) (es : List DevToolsEvent), w.isSatisfied = true →
        (es.foldl l.observe w).isSatisfied = true) ∧
      ∀ (before after : Traffic) (time : Nat) (answer : Json.Value) (listener : Listener),
        traffic = before ++ (time, .frame (.response l.commandId (.ok answer))) :: after →
        (∀ time' result, (time', .frame (.response l.commandId result)) ∉ before) →
        l.Attends before listener → time ≤ min l.limitMs l.commandTimeoutMs →
        l.awaitAnswer [] traffic = .ok (answer, listener.inbox, after) := by
  have hiff {t : Traffic} (h : l.Answered loader t) :
      l.awaitLoad t = .ok () ↔ l.Complete loader t := by
    obtain ⟨hover, hmissed⟩ := awaitLoad_of_answered h
    refine ⟨fun hok => ?_, hover⟩
    by_contra hincomplete
    cases hok.symm.trans (hmissed hincomplete)
  refine ⟨hiff h, (awaitLoad_of_answered h).2, fun other hother hsame => ?_,
    fun w es hw => isSatisfied_foldl hw es, fun before after time answer listener htraffic hfirst
      hattends htime => ?_⟩
  · have hcomplete : l.Complete loader other ↔ l.Complete loader traffic :=
      forall₂_congr fun name _ => exists_congr fun time => and_congr_right fun _ =>
        exists_congr fun e => and_congr_left fun htells => hsame time e htells.1
    rw [hiff hother, hiff h, hcomplete]
  · have hordered := h.ordered
    rw [htraffic, Traffic.Ordered] at hordered
    obtain ⟨-, -, hle⟩ := List.pairwise_append.1 hordered
    rw [htraffic, awaitAnswer_of_answered [] (fun a ha => ?_) (fun t ht => ?_) hfirst htime,
      List.nil_append, hattends.inbox_eq]
    · exact Nat.le_trans (hle a ha _ List.mem_cons_self).1 htime
    · exact (hle _ ht _ List.mem_cons_self).2 rfl

/-- An event that tells how far a load has come. -/
def lifecycle (session name : String) (loader : Option String) : DevToolsEvent where
  method := eventName
  sessionId := some session
  params := .object (("name", .string name) :: Json.presentMember "loaderId" (loader.map .string))

theorem tells_lifecycle {about : Option String} (h : ∀ other ∈ about, other = loader)
    (name : String) : l.Tells loader (lifecycle l.sessionId name about) name := by
  have hloader : ((lifecycle l.sessionId name about).params.member? "loaderId").bind
      Json.Value.string? = about := by
    cases about <;> rfl
  refine ⟨⟨by simp [DevToolsEvent.is, lifecycle], fun other hother => h other ?_⟩, rfl⟩
  rwa [hloader] at hother

/-- The load is told before the answer, and for the rest another page and another load do not
count; the last event does, though it does not say which load it is about. -/
theorem awaitLoad_ok_split :
    let l : PendingLoad := ⟨"S1", .networkIdle, 1000, 7, 500⟩
    let traffic : Traffic :=
      [(1, .frame (.event (lifecycle "S1" "load" (some "L1")))),
        (2, .frame (.event (lifecycle "S2" "networkAlmostIdle" (some "L1")))),
        (3, .frame (.event (lifecycle "S1" "networkAlmostIdle" (some "L0")))),
        (500, .frame (.response 7 (.ok (.object [("loaderId", .string "L1")])))),
        (1000, .frame (.event (lifecycle "S1" "networkAlmostIdle" none)))]
    l.Answered "L1" traffic ∧ l.Complete "L1" traffic ∧ l.awaitLoad traffic = .ok () := by
  intro l traffic
  have hanswered : l.Answered "L1" traffic := by
    refine ⟨by simp [traffic, Traffic.Ordered], traffic.take 3, 500, _, traffic.drop 4, rfl, ?_,
      by decide, by decide, by decide⟩
    simp [traffic]
  have hcomplete : l.Complete "L1" traffic := by
    have hload : l.Tells "L1" (lifecycle "S1" "load" (some "L1")) "load" :=
      tells_lifecycle (by simp) _
    have hidle : l.Tells "L1" (lifecycle "S1" "networkAlmostIdle" none) "networkAlmostIdle" :=
      tells_lifecycle (by simp) _
    intro name hname
    rcases List.mem_pair.1 hname with rfl | rfl
    · exact ⟨1, by decide, _, List.mem_cons_self, hload⟩
    · exact ⟨1000, by decide, _, by simp [traffic], hidle⟩
  exact ⟨hanswered, hcomplete, (awaitLoad_ok_iff hanswered).1.2 hcomplete⟩

end PendingLoad

end PageScan

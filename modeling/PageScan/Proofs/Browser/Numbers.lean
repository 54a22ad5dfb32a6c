import Mathlib.Data.List.Nodup
import PageScan.Proofs.Browser.Frames
import PageScan.Proofs.Browser.Steps

/-!
# Commands have their own numbers

Whoever begins a command takes the next number for it, so that a number says which command is
meant. What a step does to a command it does to that one only.

* `begun`: the commands of a run with their numbers. `Numbered` says what these are good for.
* `Change`: what a step does to a command. `Numbered.changes` says that it does nothing else.
-/

namespace PageScan

namespace ConnectionAction

/-- The answer to the command with a number that arrives in this step. -/
def answer? (id : Nat) : ConnectionAction → Option AnswerContent
  | .receive text =>
    match Inbound.ofText text with
    | .ok (.response k r) => if k = id then some r else none
    | _ => none
  | _ => none

@[simp]
theorem answer?_receive (id : Nat) (text : String) :
    (ConnectionAction.receive text).answer? id =
      match Inbound.ofText text with
      | .ok (.response k r) => if k = id then some r else none
      | _ => none :=
  rfl

theorem answer?_receive_eq_some_iff {id : Nat} {text : String} {x : AnswerContent} :
    (ConnectionAction.receive text).answer? id = some x ↔ Inbound.Answers text id x := by
  rw [answer?_receive, ← Inbound.ofText_eq_response_iff]
  constructor
  · intro h
    split at h
    · next k r hframe =>
      obtain ⟨rfl, rfl⟩ := Option.ite_none_right_eq_some.1 h |>.imp_right Option.some.inj
      exact hframe
    · cases h
  · intro hframe
    rw [hframe]
    exact if_pos rfl

/-- The number of the command that a step is a step of. -/
def number? : ConnectionAction → Option Nat
  | .register id | .enqueue id | .expire id | .abandon id => some id
  | _ => none

end ConnectionAction

namespace Connection

/-- The command that is begun in a step. -/
def begins? (c : Connection) : ConnectionAction → Option Command
  | .send command | .dispatch command => some command
  | .resume key =>
    match c.interceptors.find? fun i => i.key = key && i.running,
        c.listeners.find? fun l => l.key = key && !l.dropped with
    | some i, some l => l.inbox.head?.bind (PausedRequest.resume? i.filter i.session)
    | _, _ => none
  | _ => none

/-- The command that is begun in a step, with the number that it gets. -/
def entry (c : Connection) (a : ConnectionAction) : List (Nat × Command) :=
  ((c.begins? a).map fun command => (c.nextId, command)).toList

/-- The commands whose frames are queued in a step, as long as the writer runs. -/
def queues (c : Connection) : ConnectionAction → List (Nat × Command)
  | .enqueue id => ((c.command? id).map SentCommand.named).toList
  | .dispatch command => [(c.nextId, command)]
  | .resume key => c.entry (.resume key)
  | _ => []

/-- What a run amounts to, if `g` says what each of its steps does. -/
def gathered {β : Type} (g : Connection → ConnectionAction → List β) (c : Connection) :
    List ConnectionAction → List β
  | [] => []
  | a :: rest =>
    match c.step a with
    | some c' => g c a ++ c'.gathered g rest
    | none => []

/-- The commands that are begun in a run, in order, each with the number that it gets. -/
def begun (c : Connection) (actions : List ConnectionAction) : List (Nat × Command) :=
  c.gathered entry actions

variable {c c' : Connection} {a : ConnectionAction} {s : SentCommand} {id : Nat}
  {past : List ConnectionAction}

/-! ## Numbers -/

theorem gathered_append {β : Type} {g : Connection → ConnectionAction → List β}
    {before after : List ConnectionAction} (h : c.run before = some c') :
    c.gathered g (before ++ after) = c.gathered g before ++ c'.gathered g after := by
  induction before generalizing c with
  | nil =>
    obtain rfl := Option.some.inj h
    rfl
  | cons a rest ih =>
    obtain ⟨c₁, hfirst, hrest⟩ := Option.bind_eq_some_iff.1 h
    rw [List.cons_append, gathered, gathered, hfirst]
    exact (congrArg _ (ih hrest)).trans (List.append_assoc ..).symm

theorem gathered_concat {β : Type} {g : Connection → ConnectionAction → List β} {c₀ : Connection}
    (h : c₀.run past = some c) (hstep : c.step a = some c') :
    c₀.gathered g (past ++ [a]) = c₀.gathered g past ++ g c a := by
  rw [gathered_append h, gathered, hstep]
  exact congrArg _ (List.append_nil _)

theorem entry_resume {key : Nat} {i : Interceptor} {l : Listener} {e : DevToolsEvent}
    {rest : List DevToolsEvent}
    (hi : c.interceptors.find? (fun i => i.key = key && i.running) = some i)
    (hl : c.listeners.find? (fun l => l.key = key && !l.dropped) = some l)
    (hinbox : l.inbox = e :: rest) :
    c.entry (.resume key) = ((PausedRequest.resume? i.filter i.session e).map
      fun command => (c.nextId, command)).toList := by
  simp [entry, begins?, hi, hl, hinbox]

/-- Each command that is begun gets the next number. -/
theorem Step.nextId_eq (h : Step c a c') : c'.nextId = c.nextId + (c.entry a).length := by
  cases h with
  | receive h htaken => cases htaken <;> rfl
  | resume hi hl hinbox hresumed =>
    rw [entry_resume hi hl hinbox]
    cases hresumed with
    | ignored h | answered h hwriting | failed h hwriting =>
      rw [h]
      rfl
  | _ => rfl

theorem Step.named_sublist (h : Step c a c') {l : List (Nat × Command)}
    (hl : (c.sent.map SentCommand.named).Sublist l) :
    (c'.sent.map SentCommand.named).Sublist (l ++ c.entry a) := by
  have hkept (hsame : c'.sent.map SentCommand.named = c.sent.map SentCommand.named) :
      (c'.sent.map SentCommand.named).Sublist (l ++ c.entry a) :=
    hsame ▸ hl.trans (List.sublist_append_left ..)
  cases h with
  | send command =>
    rw [List.map_append]
    exact hl.append (.refl _)
  | register | expire | abandon | refuse => exact hkept (named_update _ _ fun _ => rfl)
  | enqueue => exact hkept (named_update _ _ fun _ => SentCommand.named_settled _)
  | receive h htaken =>
    cases htaken with
    | response => exact hkept (named_update _ _ fun _ => SentCommand.named_leave _ _)
    | event | unknown | unreadable => exact hkept rfl
  | endReading h =>
    refine hkept ?_
    rw [close, List.map_map]
    refine List.map_congr_left fun s _ => ?_
    rw [Function.comp_apply]
    split
    · exact SentCommand.named_leave _ _
    · rfl
  | resume hi hl hinbox hresumed => cases hresumed <;> exact hkept rfl
  | dispatch | releaseListeners | write | failWriting | listen | dropListener | subscribe
  | intercept | stopIntercepting => exact hkept rfl

/-- What is queued in a step is begun in it, or was begun before. -/
theorem mem_of_mem_queues {p : Nat × Command} (h : p ∈ c.queues a) :
    p ∈ c.entry a ++ c.sent.map SentCommand.named := by
  cases a with
  | enqueue id =>
    obtain ⟨s, hs, rfl⟩ := Option.map_eq_some_iff.1 (Option.mem_toList.1 h)
    exact List.mem_append_right _ (List.mem_map_of_mem (mem_of_command? hs).1)
  | dispatch | resume => exact List.mem_append_left _ h
  | _ => cases h

/-- What goes out in a step. -/
theorem Step.outgoing_eq (h : Step c a c') :
    c'.outgoing = c.outgoing ++
      if c.writing then (c.queues a).map fun p => p.2.frame p.1 else [] := by
  have hkept (hsame : c'.outgoing = c.outgoing) (hqueues : c.queues a = []) :
      c'.outgoing = c.outgoing ++
        if c.writing then (c.queues a).map fun p => p.2.frame p.1 else [] := by
    simp [hsame, hqueues]
  cases h with
  | enqueue h hphase hwriting =>
    rw [if_pos hwriting, queues, h]
    exact (List.append_assoc ..).symm
  | refuse h hphase hwriting =>
    rw [hwriting]
    exact (List.append_nil _).symm
  | dispatch command => exact outgoing_dispatched ..
  | receive h htaken => cases htaken <;> exact hkept rfl rfl
  | write hwriting hqueue => exact hkept (by simp [outgoing, hqueue]) rfl
  | resume hi hl hinbox hresumed =>
    have hqueues := entry_resume hi hl hinbox
    cases hresumed with
    | ignored h => exact hkept rfl (by rw [queues, hqueues, h]; rfl)
    | answered h hwriting | failed h hwriting =>
      rw [queues, hqueues, h]
      exact outgoing_dispatched (c.leaving _ _) _
  | _ => exact hkept rfl rfl

/-- The numbers of commands after a run. -/
structure Numbered (limit : Nat) (past : List ConnectionAction) (c : Connection) : Prop where
  run_eq : (opened limit).run past = some c
  lt_nextId : ∀ p ∈ (opened limit).begun past, p.1 < c.nextId
  increasing : ((opened limit).begun past).Pairwise fun p q => p.1 < q.1
  sent : (c.sent.map SentCommand.named).Sublist ((opened limit).begun past)
  frames : ∀ frame ∈ c.outgoing, ∃ p ∈ (opened limit).begun past, frame = p.2.frame p.1

theorem numbered_opened (limit : Nat) : Numbered limit [] (opened limit) :=
  ⟨rfl, by simp [begun, gathered], .nil, .slnil, by simp [outgoing, opened]⟩

theorem Numbered.step {limit : Nat} (hn : Numbered limit past c) (h : c.step a = some c') :
    Numbered limit (past ++ [a]) c' := by
  have hstep := Step.of_step h
  have hentry : ∀ p ∈ c.entry a, p.1 = c.nextId := by
    intro p hp
    obtain ⟨command, -, rfl⟩ := Option.map_eq_some_iff.1 (Option.mem_toList.1 hp)
    rfl
  have hnext := hstep.nextId_eq
  refine ⟨?_, ?_, ?_, ?_, ?_⟩
  · rw [run_append, hn.run_eq, Option.bind_some, run, h]
    rfl
  · rw [begun, gathered_concat hn.run_eq h]
    intro p hp
    rcases List.mem_append.1 hp with hp | hp
    · have hlt := hn.lt_nextId p hp
      omega
    · have hpos := List.length_pos_of_mem hp
      rw [hentry p hp]
      omega
  · rw [begun, gathered_concat hn.run_eq h]
    refine List.pairwise_append.2 ⟨hn.increasing, ?_, fun p hp q hq => ?_⟩
    · unfold entry
      cases c.begins? a with
      | none => exact .nil
      | some command => exact List.pairwise_singleton _ _
    · rw [hentry q hq]
      exact hn.lt_nextId p hp
  · rw [begun, gathered_concat hn.run_eq h]
    exact hstep.named_sublist hn.sent
  · rw [begun, gathered_concat hn.run_eq h]
    intro frame hframe
    rw [hstep.outgoing_eq] at hframe
    rcases List.mem_append.1 hframe with hframe | hframe
    · obtain ⟨p, hp, heq⟩ := hn.frames frame hframe
      exact ⟨p, List.mem_append_left _ hp, heq⟩
    · obtain ⟨p, hp, rfl⟩ := List.mem_map.1 (List.mem_ite_nil_right.1 hframe).2
      refine ⟨p, ?_, rfl⟩
      rcases List.mem_append.1 (mem_of_mem_queues hp) with hp | hp
      · exact List.mem_append_right _ hp
      · exact List.mem_append_left _ (hn.sent.subset hp)

namespace Numbered

variable {limit : Nat}

theorem id_lt (hn : Numbered limit past c) (hs : s ∈ c.sent) : s.id < c.nextId :=
  hn.lt_nextId s.named (hn.sent.subset (List.mem_map_of_mem hs))

/-- A number belongs to one command. -/
theorem eq_of_id (hn : Numbered limit past c) {t : SentCommand} (hs : s ∈ c.sent) (ht : t ∈ c.sent)
    (hid : s.id = t.id) : s = t := by
  have hpairwise := (hn.increasing.sublist hn.sent).imp fun hlt => Nat.ne_of_lt hlt
  have hnodup : (c.sent.map SentCommand.id).Nodup := by
    rw [List.pairwise_map] at hpairwise
    exact List.pairwise_map.2 hpairwise
  exact List.inj_on_of_nodup_map hnodup hs ht hid

theorem eq_of_command? (hn : Numbered limit past c) {t : SentCommand} (h : c.command? id = some s)
    (ht : t ∈ c.sent) (hid : t.id = id) : t = s :=
  hn.eq_of_id ht (mem_of_command? h).1 (hid.trans (mem_of_command? h).2.symm)

theorem phase_eq (hn : Numbered limit past c) {t : SentCommand} {phase : CommandPhase}
    (h : c.phase? id = some phase) (ht : t ∈ c.sent) (hid : t.id = id) : t.phase = phase := by
  obtain ⟨s, hcommand, hphase⟩ := exists_of_phase? h
  rw [hn.eq_of_command? hcommand ht hid, hphase]

end Numbered

/-! ## What a step does to a command -/

/-- What a step does to a command, and whether it is in the table after it. -/
inductive Change (c : Connection) (a : ConnectionAction) (c' : Connection) (s : SentCommand) :
    SentCommand → Prop
  | kept (hanswer : s.id ∈ c.table → a.answer? s.id = none) (hnumber : a.number? ≠ some s.id)
      (htable : s.id ∈ c'.table ↔ s.id ∈ c.table) : Change c a c' s s
  | registered (ha : a = .register s.id) (hphase : s.phase = .numbered) (htable : s.id ∈ c'.table) :
      Change c a c' s { s with phase := .registered }
  | queued (ha : a = .enqueue s.id) (hphase : s.phase = .registered) (hwriting : c.writing = true)
      (htable : s.id ∈ c'.table ↔ s.id ∈ c.table) :
      Change c a c' s (SentCommand.settled { s with phase := .waiting })
  | refused (ha : a = .enqueue s.id) (hphase : s.phase = .registered) (hwriting : c.writing = false)
      (htable : s.id ∉ c'.table) : Change c a c' s { s with phase := .finished (.error .closed) }
  | expired (ha : a = .expire s.id) (hphase : s.phase = .waiting) (htable : s.id ∉ c'.table) :
      Change c a c' s
        { s with phase := .finished (.error (.timeout s.command.method c.commandTimeoutMs)) }
  | abandoned (ha : a = .abandon s.id)
      (hphase : s.phase = .numbered ∨ s.phase = .registered ∨ s.phase = .waiting)
      (htable : s.id ∈ c'.table ↔ s.id ∈ c.table) : Change c a c' s { s with phase := .abandoned }
  | answered {r : AnswerContent} (hanswer : a.answer? s.id = some r) (hreading : c.reading = true)
      (hid : s.id ∈ c.table) (htable : s.id ∉ c'.table) : Change c a c' s (s.leave (.answered r))
  | closed (ha : a = .endReading) (hreading : c.reading = true) (hid : s.id ∈ c.table)
      (htable : s.id ∉ c'.table) : Change c a c' s (s.leave .gone)

/-- A step changes each command by itself, and adds the one that is begun in it. -/
def Changes (c : Connection) (a : ConnectionAction) (c' : Connection) : Prop :=
  ∃ f new, c'.sent = c.sent.map f ++ new ∧ (∀ s ∈ c.sent, Change c a c' s (f s)) ∧
    ∀ s ∈ new, ∃ command, a = .send command ∧ s = ⟨c.nextId, command, .numbered, .empty⟩

namespace Changes

/-- In most steps all commands and the table stay as they are. -/
theorem kept (hsent : c'.sent = c.sent) (htable : c'.table = c.table)
    (hanswer : ∀ id ∈ c.table, a.answer? id = none) (hnumber : a.number? = none) :
    Changes c a c' :=
  ⟨id, [], by simp [hsent], fun s _ => .kept (hanswer s.id) (by simp [hnumber]) (by rw [htable]),
    by simp⟩

/-- In others those with a number change. -/
theorem updated {d : Connection} {f : SentCommand → SentCommand} (hd : d.sent = c.sent)
    (hchanged : ∀ s ∈ c.sent, s.id = id → Change c a (d.update id f) s (f s))
    (hother : ∀ s ∈ c.sent, s.id ≠ id → Change c a (d.update id f) s s) :
    Changes c a (d.update id f) := by
  refine ⟨fun s => if s.id = id then f s else s, [], ?_, fun s hs => ?_, by simp⟩
  · rw [update, hd, List.append_nil]
  · dsimp only
    split
    · next hid => exact hchanged s hs hid
    · next hid => exact hother s hs hid

theorem of_mem (h : Changes c a c') (hs : s ∈ c.sent) : ∃ s' ∈ c'.sent, Change c a c' s s' := by
  obtain ⟨f, new, hsent, hchange, -⟩ := h
  exact ⟨f s, hsent ▸ List.mem_append_left _ (List.mem_map_of_mem hs), hchange s hs⟩

theorem of_mem' {s' : SentCommand} (h : Changes c a c') (hs : s' ∈ c'.sent) :
    (∃ s ∈ c.sent, Change c a c' s s') ∨
      ∃ command, a = .send command ∧ s' = ⟨c.nextId, command, .numbered, .empty⟩ := by
  obtain ⟨f, new, hsent, hchange, hnew⟩ := h
  rw [hsent] at hs
  rcases List.mem_append.1 hs with hs | hs
  · obtain ⟨t, ht, rfl⟩ := List.mem_map.1 hs
    exact .inl ⟨t, ht, hchange t ht⟩
  · exact .inr (hnew s' hs)

end Changes

theorem Numbered.changes {limit : Nat} (hn : Numbered limit past c) (h : Step c a c') :
    Changes c a c' := by
  have hother {k j : Nat} (hne : j ≠ k) : some k ≠ some j := fun heq =>
    hne (Option.some.inj heq).symm
  cases h with
  | send command =>
    refine ⟨id, [⟨c.nextId, command, .numbered, .empty⟩], by simp, fun s _ => ?_, by simp⟩
    exact .kept (fun _ => rfl) (by simp [ConnectionAction.number?]) .rfl
  | register hphase =>
    refine .updated rfl (fun s hs hid => ?_) fun s hs hid => ?_
    · subst hid
      exact .registered rfl (hn.phase_eq hphase hs rfl) (by simp)
    · exact .kept (fun _ => rfl) (hother hid) (by simp [hid])
  | enqueue hcommand hphase hwriting =>
    obtain rfl := (mem_of_command? hcommand).2
    refine .updated rfl (fun s hs hid => ?_) fun s hs hid => ?_
    · obtain rfl := hn.eq_of_command? hcommand hs hid
      exact .queued rfl hphase hwriting .rfl
    · exact .kept (fun _ => rfl) (hother hid) .rfl
  | refuse hcommand hphase hwriting =>
    obtain rfl := (mem_of_command? hcommand).2
    refine .updated rfl (fun s hs hid => ?_) fun s hs hid => ?_
    · obtain rfl := hn.eq_of_command? hcommand hs hid
      exact .refused rfl hphase hwriting (by simp)
    · exact .kept (fun _ => rfl) (hother hid) (by simp [hid])
  | expire hcommand hphase =>
    refine .updated rfl (fun s hs hid => ?_) fun s hs hid => ?_
    · obtain rfl := hn.eq_of_command? hcommand hs hid
      subst hid
      exact .expired rfl hphase (by simp)
    · exact .kept (fun _ => rfl) (hother hid) (by simp [hid])
  | abandon hphase hlive =>
    refine .updated rfl (fun s hs hid => ?_) fun s hs hid => ?_
    · subst hid
      exact .abandoned rfl (hn.phase_eq hphase hs rfl ▸ hlive) .rfl
    · exact .kept (fun _ => rfl) (hother hid) .rfl
  | receive hreading htaken =>
    cases htaken with
    | response hframe htable =>
      refine .updated rfl (fun s hs hid => ?_) fun s hs hid => ?_
      · subst hid
        exact .answered (by simp [hframe]) hreading htable (by simp)
      · exact .kept (fun _ => by simp [hframe, Ne.symm hid]) nofun (by simp [hid])
    | event hframe => exact .kept rfl rfl (fun _ _ => by simp [hframe]) rfl
    | @unknown id r hframe htable =>
      refine .kept rfl rfl (fun k hk => ?_) rfl
      have hne : id ≠ k := by
        rintro rfl
        exact htable hk
      simp [hframe, hne]
    | unreadable hframe => exact .kept rfl rfl (fun _ _ => by simp [hframe]) rfl
  | endReading hreading =>
    refine ⟨fun s => if c.table.contains s.id then s.leave .gone else s, [], by simp [close],
      fun s hs => ?_, by simp⟩
    dsimp only
    split
    · next htable => exact .closed rfl hreading (by simpa using htable) List.not_mem_nil
    · next htable => exact .kept (fun _ => rfl) nofun (by simpa [close] using htable)
  | resume hi hl hinbox hresumed => cases hresumed <;> exact .kept rfl rfl (fun _ _ => rfl) rfl
  | _ => exact .kept rfl rfl (fun _ _ => rfl) rfl

end Connection

end PageScan

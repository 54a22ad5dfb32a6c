import PageScan.Proofs.Browser.Numbers

/-!
# Answers find their commands

Many commands wait for answers over one connection, and the browser answers in any order, late,
twice, or to nobody. A command that comes to an answer comes to the first one with its number that
arrives since it is in the table, and no other frame has an effect on it.

* `FirstAnswer`: which answer that is, and `firstAnswer?` finds it (`firstAnswer?_eq_some_iff`).
* `Tracked`, `Sound`: how the table, the slots and the phases of commands agree with what has
  arrived. `Sound.step` keeps this.
* `correlated_of_run`: what is the case after every run.
-/

namespace PageScan

namespace SentCommand

/-- With an answer the command `s` is `s'`: over, if it has waited. -/
structure Takes (s : SentCommand) (x : AnswerContent) (s' : SentCommand) : Prop where
  id : s'.id = s.id
  command : s'.command = s.command
  waiting : s.phase = .waiting → s'.phase = .finished
    (match x with
      | .ok v => .ok v
      | .error e => .error (.remote s.command.method e.code e.message))
  other : s.phase ≠ .waiting → s'.phase = s.phase ∧ s'.slot = .answered x

theorem takes_leave (s : SentCommand) (x : AnswerContent) : s.Takes x (s.leave (.answered x)) where
  id := congrArg Prod.fst (s.named_leave _)
  command := congrArg Prod.snd (s.named_leave _)
  waiting hphase := by
    rw [leave_answered hphase]
    cases x <;> rfl
  other hphase := by
    rw [leave_of_ne hphase]
    exact ⟨rfl, rfl⟩

end SentCommand

namespace Connection

/-- The first answer to the command with a number that arrives since it is registered. -/
def firstAnswer? (id : Nat) : List ConnectionAction → Option AnswerContent
  | [] => none
  | .register k :: rest =>
    if k = id then rest.findSome? fun a => a.answer? id else firstAnswer? id rest
  | _ :: rest => firstAnswer? id rest

/-- An answer to the command with a number has arrived, and none before it since the command is
registered. -/
inductive FirstAnswer (id : Nat) : List ConnectionAction → AnswerContent → Prop
  | mk {before between after : List ConnectionAction} {text : String} {x : AnswerContent}
    (hregister : .register id ∉ before) (hanswer : Inbound.Answers text id x)
    (hfirst : ∀ text, .receive text ∈ between → ∀ x, ¬Inbound.Answers text id x) :
    FirstAnswer id (before ++ .register id :: between ++ .receive text :: after) x

variable {c c' : Connection} {a : ConnectionAction} {s : SentCommand} {id : Nat}
  {past : List ConnectionAction} {x : AnswerContent}

/-! ## The first answer -/

theorem exists_receive_of_answer? (h : a.answer? id = some x) :
    ∃ text, a = .receive text ∧ Inbound.Answers text id x := by
  cases a with
  | receive text => exact ⟨text, rfl, ConnectionAction.answer?_receive_eq_some_iff.1 h⟩
  | _ => cases h

theorem findSome?_answer?_eq_some_iff :
    (past.findSome? fun a => a.answer? id) = some x ↔
      ∃ between text after, past = between ++ .receive text :: after ∧
        Inbound.Answers text id x ∧
        ∀ text, .receive text ∈ between → ∀ x, ¬Inbound.Answers text id x := by
  rw [List.findSome?_eq_some_iff]
  constructor
  · rintro ⟨between, a, after, rfl, ha, hfirst⟩
    obtain ⟨text, rfl, hanswer⟩ := exists_receive_of_answer? ha
    refine ⟨between, text, after, rfl, hanswer, fun text htext x hx => ?_⟩
    have hnone := hfirst _ htext
    rw [ConnectionAction.answer?_receive_eq_some_iff.2 hx] at hnone
    cases hnone
  · rintro ⟨between, text, after, rfl, hanswer, hfirst⟩
    refine ⟨between, _, after, rfl, ConnectionAction.answer?_receive_eq_some_iff.2 hanswer,
      fun a ha => ?_⟩
    by_contra hsome
    obtain ⟨x, hx⟩ := Option.ne_none_iff_exists'.1 hsome
    obtain ⟨text, rfl, hanswer⟩ := exists_receive_of_answer? hx
    exact hfirst text ha x hanswer

/-- The answers before a command is registered do not count, whatever they are. -/
theorem firstAnswer?_append_register {before after : List ConnectionAction}
    (h : .register id ∉ before) :
    firstAnswer? id (before ++ .register id :: after) = after.findSome? fun a => a.answer? id := by
  induction before with
  | nil => rw [List.nil_append, firstAnswer?, if_pos rfl]
  | cons a before ih =>
    have hbefore := ih fun hmem => h (List.mem_cons_of_mem _ hmem)
    cases a with
    | register k =>
      have hne : k ≠ id := by
        rintro rfl
        exact h List.mem_cons_self
      rw [List.cons_append, firstAnswer?, if_neg hne, hbefore]
    | _ => exact hbefore

theorem firstAnswer?_eq_none (h : .register id ∉ past) : firstAnswer? id past = none := by
  induction past with
  | nil => rfl
  | cons a rest ih =>
    have hrest := ih fun hmem => h (List.mem_cons_of_mem _ hmem)
    cases a with
    | register k =>
      have hne : k ≠ id := by
        rintro rfl
        exact h List.mem_cons_self
      rw [firstAnswer?, if_neg hne, hrest]
    | _ => exact hrest

theorem firstAnswer?_eq_some_iff : firstAnswer? id past = some x ↔ FirstAnswer id past x := by
  constructor
  · intro h
    have hregister : .register id ∈ past := by
      by_contra hnot
      cases (firstAnswer?_eq_none hnot).symm.trans h
    obtain ⟨before, rest, rfl, hbefore⟩ := List.eq_append_cons_of_mem hregister
    rw [firstAnswer?_append_register hbefore] at h
    obtain ⟨between, text, after, rfl, hanswer, hfirst⟩ := findSome?_answer?_eq_some_iff.1 h
    have hpast : FirstAnswer id (before ++ .register id :: between ++ .receive text :: after) x :=
      .mk hbefore hanswer hfirst
    rwa [List.append_assoc, List.cons_append] at hpast
  · rintro ⟨hbefore, hanswer, hfirst⟩
    rw [List.append_assoc, List.cons_append, firstAnswer?_append_register hbefore]
    exact findSome?_answer?_eq_some_iff.2 ⟨_, _, _, rfl, hanswer, hfirst⟩

theorem firstAnswer?_eq_none_iff : firstAnswer? id past = none ↔ ∀ x, ¬FirstAnswer id past x := by
  simp only [← firstAnswer?_eq_some_iff, Option.eq_none_iff_forall_ne_some, ne_eq]

/-- Nothing that comes later changes what the first answer is. -/
theorem firstAnswer?_append_of_some (h : firstAnswer? id past = some x)
    (more : List ConnectionAction) : firstAnswer? id (past ++ more) = some x := by
  induction past with
  | nil => cases h
  | cons a rest ih =>
    cases a with
    | register k =>
      rw [List.cons_append, firstAnswer?]
      rw [firstAnswer?] at h
      split
      · next heq =>
        rw [if_pos heq] at h
        rw [List.findSome?_append, h, Option.some_or]
      · next hne =>
        rw [if_neg hne] at h
        exact ih h
    | _ => exact ih h

/-- A step in which no answer arrives for a command changes nothing for it. -/
theorem firstAnswer?_concat_of_none (h : a.answer? id = none) :
    firstAnswer? id (past ++ [a]) = firstAnswer? id past := by
  induction past with
  | nil =>
    cases a with
    | register k => simp [firstAnswer?]
    | _ => rfl
  | cons b rest ih =>
    cases b with
    | register k =>
      rw [List.cons_append, firstAnswer?, firstAnswer?, ih, List.findSome?_append]
      simp [h]
    | _ => exact ih

/-- The first answer arrives. -/
theorem firstAnswer?_concat_of_some (hregistered : .register id ∈ past)
    (hnone : firstAnswer? id past = none) (h : a.answer? id = some x) :
    firstAnswer? id (past ++ [a]) = some x := by
  induction past with
  | nil => cases hregistered
  | cons b rest ih =>
    cases b with
    | register k =>
      rw [List.cons_append, firstAnswer?]
      rw [firstAnswer?] at hnone
      split
      · next heq =>
        rw [if_pos heq] at hnone
        rw [List.findSome?_append, hnone]
        simp [h]
      · next hne =>
        rw [if_neg hne] at hnone
        refine ih ?_ hnone
        rcases List.mem_cons.1 hregistered with heq | hmem
        · exact absurd (ConnectionAction.register.inj heq).symm hne
        · exact hmem
    | _ =>
      refine ih ?_ hnone
      rcases List.mem_cons.1 hregistered with heq | hmem
      · cases heq
      · exact hmem

/-! ## What has arrived -/

theorem Step.commandTimeoutMs_eq (h : Step c a c') :
    c'.commandTimeoutMs = c.commandTimeoutMs := by
  cases h with
  | receive h htaken => cases htaken <;> rfl
  | resume hi hl hinbox hresumed => cases hresumed <;> rfl
  | _ => rfl

/-- How a command stands to the table and to what has arrived. -/
structure Tracked (limit : Nat) (past : List ConnectionAction) (table : List Nat)
    (s : SentCommand) : Prop where
  /-- As long as a command is in the table, no answer to it has arrived. -/
  tabled : s.id ∈ table → s.slot = .empty ∧ firstAnswer? s.id past = none
  /-- What is left for a command is the first answer to it. -/
  answered : ∀ x, s.slot = .answered x → firstAnswer? s.id past = some x
  untouched : .register s.id ∉ past → s.slot = .empty
  numbered : s.phase = .numbered → .register s.id ∉ past
  registered : s.phase = .registered → s.slot = .empty → s.id ∈ table
  waiting : s.phase = .waiting → s.id ∈ table
  finished : ∀ r, s.phase = .finished r →
    (∃ x, firstAnswer? s.id past = some x ∧ r = s.result x) ∨
      r = .error .closed ∨ r = .error (.timeout s.command.method limit)
  dismissed : ∀ r, s.phase = .finished r → s.id ∉ table

/-- The commands of a connection agree with what has arrived. -/
structure Sound (limit : Nat) (past : List ConnectionAction) (c : Connection) : Prop
    extends Numbered limit past c where
  limit_eq : c.commandTimeoutMs = limit
  registered_lt : ∀ id, .register id ∈ past → id < c.nextId
  table_registered : ∀ id ∈ c.table, .register id ∈ past
  tracked : ∀ s ∈ c.sent, Tracked limit past c.table s

namespace Tracked

variable {limit : Nat} {table table' : List Nat}

/-- A command that was not there before. -/
theorem begun {command : Command} (hregister : .register id ∉ past) (htable : id ∉ table) :
    Tracked limit (past ++ [.send command]) table ⟨id, command, .numbered, .empty⟩ where
  tabled h := absurd h htable
  answered _ h := by cases h
  untouched _ := rfl
  numbered _ := by simp [hregister]
  registered h := by cases h
  waiting h := by cases h
  finished _ h := by cases h
  dismissed _ h := by cases h

/-- A command enters the table. -/
theorem enter (ht : Tracked limit past table s) (hphase : s.phase = .numbered)
    (hid : s.id ∈ table') :
    Tracked limit (past ++ [.register s.id]) table' { s with phase := .registered } where
  tabled _ := by
    have hnot := ht.numbered hphase
    exact ⟨ht.untouched hnot, by rw [firstAnswer?_concat_of_none rfl, firstAnswer?_eq_none hnot]⟩
  answered x hx := firstAnswer?_append_of_some (ht.answered x hx) _
  untouched h := by simp at h
  numbered h := by cases h
  registered _ _ := hid
  waiting h := by cases h
  finished _ h := by cases h
  dismissed _ h := by cases h

/-- A command goes on to a phase, and nothing is left for it. -/
theorem move (ht : Tracked limit past table s) {phase : CommandPhase}
    (htable : s.id ∈ table' → s.id ∈ table ∧ a.answer? s.id = none)
    (hnumbered : phase = .numbered → .register s.id ∉ past ++ [a])
    (hregistered : phase = .registered → s.slot = .empty → s.id ∈ table')
    (hwaiting : phase = .waiting → s.id ∈ table')
    (hfinished : ∀ r, phase = .finished r → s.id ∉ table' ∧
      ((∃ x, firstAnswer? s.id past = some x ∧ r = s.result x) ∨
        r = .error .closed ∨ r = .error (.timeout s.command.method limit))) :
    Tracked limit (past ++ [a]) table' { s with phase } where
  tabled hid := by
    obtain ⟨hslot, hnone⟩ := ht.tabled (htable hid).1
    exact ⟨hslot, by rwa [firstAnswer?_concat_of_none (htable hid).2]⟩
  answered x hx := firstAnswer?_append_of_some (ht.answered x hx) _
  untouched hnot := ht.untouched fun hmem => hnot (List.mem_append_left _ hmem)
  numbered := hnumbered
  registered := hregistered
  waiting := hwaiting
  finished r hr :=
    (hfinished r hr).2.imp_left fun ⟨x, hx, heq⟩ => ⟨x, firstAnswer?_append_of_some hx _, heq⟩
  dismissed r hr := (hfinished r hr).1

/-- A command comes to an end without an answer. -/
theorem finish (ht : Tracked limit past table s) {r : Except DevToolsError Json.Value}
    (hr : r = .error .closed ∨ r = .error (.timeout s.command.method limit))
    (hid : s.id ∉ table') : Tracked limit (past ++ [a]) table' { s with phase := .finished r } :=
  ht.move (fun h => absurd h hid) nofun nofun nofun fun _ heq =>
    ⟨hid, .inr (CommandPhase.finished.inj heq ▸ hr)⟩

/-- A command begins to wait. It is over by then if something is left for it. -/
theorem wait (ht : Tracked limit past table s) (hphase : s.phase = .registered)
    (htable : s.id ∈ table' ↔ s.id ∈ table) (hanswer : a.answer? s.id = none) :
    Tracked limit (past ++ [a]) table' (SentCommand.settled { s with phase := .waiting }) := by
  have hout (hslot : s.slot ≠ .empty) : s.id ∉ table' := fun hid =>
    hslot (ht.tabled (htable.1 hid)).1
  obtain ⟨hslot, heq⟩ | ⟨x, hslot, heq⟩ | ⟨hslot, heq⟩ := s.settled_waiting <;> rw [heq]
  · exact ht.move (fun h => ⟨htable.1 h, hanswer⟩) nofun nofun
      (fun _ => htable.2 (ht.registered hphase hslot)) nofun
  · refine ht.move (fun h => ⟨htable.1 h, hanswer⟩) nofun nofun nofun fun r hr => ?_
    have hid := hout (by rw [hslot]; nofun)
    exact ⟨hid, .inl ⟨x, ht.answered x hslot, (CommandPhase.finished.inj hr).symm⟩⟩
  · exact ht.finish (.inl rfl) (hout (by rw [hslot]; nofun))

/-- Something is left for a command, which leaves the table with it. -/
theorem leave (ht : Tracked limit past table s) (hregister : .register s.id ∈ past)
    {slot : AnswerSlot} (hid : s.id ∉ table') (hslot : slot ≠ .empty)
    (hanswered : ∀ x, slot = .answered x → firstAnswer? s.id (past ++ [a]) = some x) :
    Tracked limit (past ++ [a]) table' (s.leave slot) := by
  have hnumbered : s.phase ≠ .numbered := fun hphase => ht.numbered hphase hregister
  have hleft {phase : CommandPhase} (hphase : phase ≠ .numbered) (hwaiting : phase ≠ .waiting)
      (hfinished : ∀ r, phase = .finished r →
        (∃ x, firstAnswer? s.id (past ++ [a]) = some x ∧ r = s.result x) ∨
          r = .error .closed ∨ r = .error (.timeout s.command.method limit)) :
      Tracked limit (past ++ [a]) table' { s with phase, slot } :=
    { tabled := fun h => absurd h hid
      answered := hanswered
      untouched := fun h => absurd (List.mem_append_left _ hregister) h
      numbered := fun h => absurd h hphase
      registered := fun _ h => absurd h hslot
      waiting := fun h => absurd h hwaiting
      finished := hfinished
      dismissed := fun _ _ => hid }
  by_cases hphase : s.phase = .waiting
  · cases slot with
    | empty => exact absurd rfl hslot
    | answered x =>
      rw [SentCommand.leave_answered hphase]
      refine hleft nofun nofun fun r hr => .inl ⟨x, hanswered x rfl, ?_⟩
      exact (CommandPhase.finished.inj hr).symm
    | gone =>
      rw [SentCommand.leave_gone hphase]
      exact hleft nofun nofun fun r hr => .inr (.inl (CommandPhase.finished.inj hr).symm)
  · rw [SentCommand.leave_of_ne hphase]
    refine hleft hnumbered hphase fun r hr => (ht.finished r hr).imp_left fun ⟨x, hx, heq⟩ => ?_
    exact ⟨x, firstAnswer?_append_of_some hx _, heq⟩

end Tracked

theorem sound_opened (limit : Nat) : Sound limit [] (opened limit) :=
  { numbered_opened limit with
    limit_eq := rfl
    registered_lt := by simp
    table_registered := by simp [opened]
    tracked := by simp [opened] }

namespace Sound

variable {limit : Nat}

/-- A step keeps the number of a command that was registered below the next number. -/
theorem registered_lt_step (hs : Sound limit past c) (h : Step c a c')
    (hregister : .register id ∈ past ++ [a]) : id < c'.nextId := by
  have hle : c.nextId ≤ c'.nextId := h.nextId_eq ▸ Nat.le_add_right ..
  rcases List.mem_append.1 hregister with hmem | hmem
  · exact Nat.lt_of_lt_of_le (hs.registered_lt id hmem) hle
  · obtain rfl := List.mem_singleton.1 hmem
    cases h with
    | register hphase =>
      obtain ⟨s, hcommand, -⟩ := exists_of_phase? hphase
      obtain ⟨hsent, rfl⟩ := mem_of_command? hcommand
      exact hs.id_lt hsent

theorem tracked_change (hs : Sound limit past c) {s' : SentCommand} (hsent : s ∈ c.sent)
    (h : Change c a c' s s') : Tracked limit (past ++ [a]) c'.table s' := by
  have ht := hs.tracked s hsent
  cases h with
  | kept hanswer hnumber htable =>
    have hregister : .register s.id ≠ a := by
      rintro rfl
      exact hnumber rfl
    refine ht.move (fun h => ⟨htable.1 h, hanswer (htable.1 h)⟩) (fun hphase => ?_)
      (fun hphase hslot => htable.2 (ht.registered hphase hslot))
      (fun hphase => htable.2 (ht.waiting hphase))
      fun r hr => ⟨fun h => ht.dismissed r hr (htable.1 h), ht.finished r hr⟩
    simp [ht.numbered hphase, hregister]
  | registered ha hphase htable =>
    subst ha
    exact ht.enter hphase htable
  | queued ha hphase hwriting htable =>
    subst ha
    exact ht.wait hphase htable rfl
  | refused ha hphase hwriting htable => exact ht.finish (.inl rfl) htable
  | expired ha hphase htable =>
    rw [hs.limit_eq]
    exact ht.finish (.inr rfl) htable
  | abandoned ha hphase htable =>
    subst ha
    exact ht.move (fun h => ⟨htable.1 h, rfl⟩) nofun nofun nofun nofun
  | answered hanswer hreading hid htable =>
    have hregister := hs.table_registered s.id hid
    refine ht.leave hregister htable nofun fun x hx => ?_
    obtain rfl := AnswerSlot.answered.inj hx
    exact firstAnswer?_concat_of_some hregister (ht.tabled hid).2 hanswer
  | closed ha hreading hid htable => exact ht.leave (hs.table_registered s.id hid) htable nofun nofun

theorem step (hs : Sound limit past c) (h : c.step a = some c') :
    Sound limit (past ++ [a]) c' := by
  have hstep := Step.of_step h
  refine { hs.toNumbered.step h with
    limit_eq := hstep.commandTimeoutMs_eq.trans hs.limit_eq
    registered_lt := fun _ hmem => hs.registered_lt_step hstep hmem
    table_registered := fun id hid => ?_
    tracked := fun s hmem => ?_ }
  · refine List.mem_append.2 ((hstep.mem_table hid).imp (hs.table_registered id) fun ha => ?_)
    exact List.mem_singleton.2 ha.symm
  · rcases (hs.changes hstep).of_mem' hmem with ⟨t, ht, hchange⟩ | ⟨command, rfl, rfl⟩
    · exact hs.tracked_change ht hchange
    · have hnew : .register c.nextId ∉ past := fun hmem =>
        Nat.lt_irrefl _ (hs.registered_lt c.nextId hmem)
      refine .begun hnew fun hid => ?_
      rcases hstep.mem_table hid with hid | ha
      · exact hnew (hs.table_registered c.nextId hid)
      · cases ha

end Sound

theorem sound_of_run {limit : Nat} {actions : List ConnectionAction}
    (h : (opened limit).run actions = some c) : Sound limit actions c :=
  invariant_of_run (fun _ _ _ _ hs hstep => hs.step hstep) (sound_opened limit) h

/-! ## Every run -/

/-- How commands and answers go together after a run. -/
structure Correlated (limit : Nat) (past : List ConnectionAction) (c : Connection) : Prop where
  /-- No two commands have one number, whether somebody waits for their answers or not. -/
  numbers : (((opened limit).begun past).map Prod.fst).Nodup
  sent : (c.sent.map SentCommand.named).Sublist ((opened limit).begun past)
  /-- A frame carries the number of its command, and says what the command is to do. -/
  frames : ∀ frame ∈ c.outgoing, ∃ p ∈ (opened limit).begun past, frame = p.2.frame p.1 ∧
    (p.1 < 2 ^ 64 → p.2.params.Legible → p.2.StandsIn p.1 frame)
  /-- A value that a command comes to is what its first answer says. -/
  value : ∀ s ∈ c.sent, ∀ v, s.phase = .finished (.ok v) → FirstAnswer s.id past (.ok v)
  /-- So is an error of the browser. -/
  remote : ∀ s ∈ c.sent, ∀ method code message,
    s.phase = .finished (.error (.remote method code message)) →
      method = s.command.method ∧ FirstAnswer s.id past (.error ⟨code, message⟩)
  /-- The first answer does not pass by a command that waits. -/
  waiting : ∀ s ∈ c.sent, s.phase = .waiting → ∀ x, ¬FirstAnswer s.id past x
  /-- A frame has no effect on commands, unless it is the first answer to one that is registered
  and not over. Then it has none on the others. -/
  received : ∀ text c', c.step (.receive text) = some c' →
    c'.sent = c.sent ∨
      ∃ s ∈ c.sent, ∃ x, Inbound.Answers text s.id x ∧ .register s.id ∈ past ∧
        (∀ x, ¬FirstAnswer s.id past x) ∧ (∀ r, s.phase ≠ .finished r) ∧
        (∃ s' ∈ c'.sent, s.Takes x s') ∧ ∀ t ∈ c.sent, t = s ∨ t ∈ c'.sent

/-- What a frame does to the commands of a connection. -/
theorem Sound.received {limit : Nat} {text : String} (hs : Sound limit past c)
    (h : c.step (.receive text) = some c') :
    c'.sent = c.sent ∨
      ∃ s ∈ c.sent, ∃ x, Inbound.Answers text s.id x ∧ .register s.id ∈ past ∧
        (∀ x, ¬FirstAnswer s.id past x) ∧ (∀ r, s.phase ≠ .finished r) ∧
        (∃ s' ∈ c'.sent, s.Takes x s') ∧ ∀ t ∈ c.sent, t = s ∨ t ∈ c'.sent := by
  cases Step.of_step h with
  | receive hreading htaken =>
    cases htaken with
    | @response id x hframe htable =>
      by_cases hmem : ∃ s ∈ c.sent, s.id = id
      · obtain ⟨s, hsent, rfl⟩ := hmem
        have ht := hs.tracked s hsent
        refine .inr ⟨s, hsent, x, Inbound.ofText_eq_response_iff.1 hframe,
          hs.table_registered s.id htable, firstAnswer?_eq_none_iff.1 (ht.tabled htable).2,
          fun r hr => ht.dismissed r hr htable, ⟨_, ?_, s.takes_leave x⟩, fun t ht => ?_⟩
        · exact mem_update.2 ⟨s, hsent, if_pos rfl⟩
        · by_cases hid : t.id = s.id
          · exact .inl (hs.eq_of_id ht hsent hid)
          · exact .inr (mem_update.2 ⟨t, ht, if_neg hid⟩)
      · refine .inl <| (List.map_congr_left fun t ht => if_neg fun hid => ?_).trans (List.map_id _)
        exact hmem ⟨t, ht, hid⟩
    | event | unknown | unreadable => exact .inl rfl

/-- After every run, whatever the browser sends and in whatever order the steps come, commands
have come to their own answers. -/
theorem correlated_of_run {limit : Nat} {actions : List ConnectionAction}
    (h : (opened limit).run actions = some c) : Correlated limit actions c := by
  have hs := sound_of_run h
  refine ⟨?_, hs.sent, fun frame hframe => ?_, fun s hmem v hv => ?_,
    fun s hmem method code message hr => ?_, fun s hmem hphase => ?_,
    fun _ _ hstep => hs.received hstep⟩
  · rw [List.Nodup, List.pairwise_map]
    exact hs.increasing.imp Nat.ne_of_lt
  · obtain ⟨p, hp, rfl⟩ := hs.frames frame hframe
    exact ⟨p, hp, rfl, Command.standsIn_frame⟩
  · obtain ⟨x, hx, heq⟩ | heq | heq := (hs.tracked s hmem).finished _ hv
    · cases x with
      | ok w =>
        obtain rfl := Except.ok.inj heq
        exact firstAnswer?_eq_some_iff.1 hx
      | error e => cases heq
    · cases heq
    · cases heq
  · obtain ⟨x, hx, heq⟩ | heq | heq := (hs.tracked s hmem).finished _ hr
    · cases x with
      | ok w => cases heq
      | error e =>
        cases heq
        exact ⟨rfl, firstAnswer?_eq_some_iff.1 hx⟩
    · cases heq
    · cases heq
  · have ht := hs.tracked s hmem
    exact firstAnswer?_eq_none_iff.1 (ht.tabled (ht.waiting hphase)).2

/-- An exchange with answers in the wrong order, twice, late, to a command that nobody waits for and
to none at all, a frame that cannot be read, and an event. -/
def disorder : List ConnectionAction :=
  [.send ⟨"First", .null, none⟩, .send ⟨"Second", .null, none⟩, .dispatch ⟨"Third", .null, none⟩,
    .register 2, .register 1, .enqueue 1, .enqueue 2,
    .receive "\x7b\"id\":2,\"result\":true\x7d", .receive "\x7b\"id\":2\x7d",
    .receive "\x7b\"id\":3\x7d", .receive "\x7b\"id\":9\x7d", .receive "no frame",
    .receive "\x7b\"method\":\"Page.loadEventFired\"\x7d", .expire 1,
    .receive "\x7b\"id\":1\x7d"]

theorem correlated_disorder :
    ∃ c, (opened 200).run disorder = some c ∧ Correlated 200 disorder c ∧
      [1, 2, 3].map (fun id => (c.outcome? id).map fun r =>
          (r.map Json.Value.compact).mapError DevToolsError.message) =
        [some (.error "First timed out after 200ms"), some (.ok "true"), none] := by
  have hrun : ∃ c ∈ (opened 200).run disorder,
      [1, 2, 3].map (fun id => (c.outcome? id).map fun r =>
          (r.map Json.Value.compact).mapError DevToolsError.message) =
        [some (.error "First timed out after 200ms"), some (.ok "true"), none] := by
    decide +kernel
  obtain ⟨c, hc, houtcomes⟩ := hrun
  exact ⟨c, hc, correlated_of_run hc, houtcomes⟩

end Connection

end PageScan

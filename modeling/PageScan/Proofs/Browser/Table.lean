import PageScan.Proofs.Browser.Closing

/-!
# The table of commands

While the reader runs, the table holds the numbers of the commands that an answer would be kept for.
A command leaves it with its first answer, when its time is over, and when it cannot be queued. One
that is abandoned does not: its number stays until an answer comes or the reader ends.

* `SentCommand.IsOpen`: the command was registered, is not answered and has not returned.
* `Tabled`: the numbers in the table are those of open commands. `Tabled.step` keeps this.
* `table_of_run`, `mem_table_iff_of_run`, `mem_table_of_abandoned`: what the table holds after every
  run.
-/

namespace PageScan

/-- The command was registered, no answer to it has arrived, and it has not returned. -/
structure SentCommand.IsOpen (past : List ConnectionAction) (s : SentCommand) : Prop where
  registered : .register s.id ∈ past
  unanswered : Connection.firstAnswer? s.id past = none
  not_finished : ∀ r, s.phase ≠ .finished r

namespace Connection

variable {c c' : Connection} {a : ConnectionAction} {s s' : SentCommand} {limit id : Nat}
  {past actions : List ConnectionAction}

/-- As long as the reader runs, the table holds the open commands, each once. -/
structure Tabled (limit : Nat) (past : List ConnectionAction) (c : Connection) : Prop
    extends Sound limit past c where
  nodup : c.table.Nodup
  exists_sent : ∀ id ∈ c.table, ∃ s ∈ c.sent, s.id = id
  mem_table : c.reading = true → ∀ s ∈ c.sent, s.IsOpen past → s.id ∈ c.table

theorem Step.reading_of (h : Step c a c') (hreading : c'.reading = true) : c.reading = true := by
  cases hc : c.reading with
  | true => rfl
  | false => cases (h.reading_eq hc).symm.trans hreading

theorem Step.table_nodup (hs : Sound limit past c) (h : Step c a c') (hnodup : c.table.Nodup) :
    c'.table.Nodup := by
  cases h with
  | register hphase =>
    obtain ⟨s, hcommand, hnumbered⟩ := exists_of_phase? hphase
    obtain ⟨hsent, rfl⟩ := mem_of_command? hcommand
    have hnew : s.id ∉ c.table := fun hid =>
      (hs.tracked s hsent).numbered hnumbered (hs.table_registered s.id hid)
    exact List.concat_eq_append ▸ hnodup.concat hnew
  | refuse | expire => exact hnodup.filter _
  | receive hreading htaken =>
    cases htaken with
    | response => exact hnodup.filter _
    | event | unknown | unreadable => exact hnodup
  | endReading => exact .nil
  | resume hi hl hinbox hresumed => cases hresumed <;> exact hnodup
  | _ => exact hnodup

/-- A step changes neither the number of a command nor the command. -/
theorem Change.named_eq (h : Change c a c' s s') : s'.named = s.named := by
  cases h with
  | queued => exact SentCommand.named_settled _
  | answered | closed => exact SentCommand.named_leave _ _
  | _ => rfl

namespace Tabled

theorem opened (limit : Nat) : Tabled limit [] (opened limit) :=
  { sound_opened limit with
    nodup := .nil
    exists_sent := by simp [Connection.opened]
    mem_table := by simp [Connection.opened] }

/-- A command that is open after a step was so before it, or has just been registered. -/
theorem mem_table_step (ht : Tabled limit past c) (hstep : Step c a c')
    (hreading : c'.reading = true) (hsent : s ∈ c.sent) (h : Change c a c' s s')
    (hopen : s'.IsOpen (past ++ [a])) : s'.id ∈ c'.table := by
  have htracked := ht.tracked s hsent
  have hbefore (hid : s'.id = s.id) (hregister : a ≠ .register s.id)
      (hphase : ∀ r, s.phase ≠ .finished r) : s.id ∈ c.table := by
    refine ht.mem_table (hstep.reading_of hreading) s hsent ⟨?_, ?_, hphase⟩
    · have hmem := hid ▸ hopen.registered
      exact (List.mem_append.1 hmem).resolve_right (mt List.mem_singleton.1 hregister.symm)
    · refine Option.eq_none_iff_forall_ne_some.2 fun x hx => ?_
      have hnone := hid ▸ hopen.unanswered
      cases (firstAnswer?_append_of_some hx [a]).symm.trans hnone
  cases h with
  | kept hanswer hnumber htable =>
    refine htable.2 (hbefore rfl ?_ hopen.not_finished)
    rintro rfl
    exact hnumber rfl
  | registered ha hphase htable => exact htable
  | queued ha hphase hwriting htable =>
    obtain ⟨-, heq⟩ | ⟨x, -, heq⟩ | ⟨-, heq⟩ := s.settled_waiting <;> rw [heq] at hopen ⊢
    · exact htable.2 (hbefore (by rw [heq]) (by rw [ha]; nofun) (by simp [hphase]))
    · exact absurd rfl (hopen.not_finished _)
    · exact absurd rfl (hopen.not_finished _)
  | refused | expired => exact absurd rfl (hopen.not_finished _)
  | abandoned ha hphase htable =>
    refine htable.2 (hbefore rfl (by rw [ha]; nofun) fun r hr => ?_)
    simp [hr] at hphase
  | answered hanswer hread hid htable =>
    have hnone := hopen.unanswered
    rw [show (s.leave _).id = s.id from congrArg Prod.fst (s.named_leave _),
      firstAnswer?_concat_of_some (ht.table_registered s.id hid) (htracked.tabled hid).2 hanswer]
      at hnone
    cases hnone
  | closed ha =>
    subst ha
    cases hstep
    cases hreading

theorem step (ht : Tabled limit past c) (h : c.step a = some c') :
    Tabled limit (past ++ [a]) c' := by
  have hstep := Step.of_step h
  have hchanges := ht.changes hstep
  -- By `Sound` none but open commands are in the table. What remains is that none of them is missing.
  refine { ht.toSound.step h with
    nodup := hstep.table_nodup ht.toSound ht.nodup
    exists_sent := fun id hid => ?_
    mem_table := fun hreading s' hsent' hopen => ?_ }
  · have hsent : ∃ s ∈ c.sent, s.id = id := by
      rcases hstep.mem_table hid with hid | rfl
      · exact ht.exists_sent id hid
      · cases hstep with
        | register hphase =>
          obtain ⟨s, hcommand, -⟩ := exists_of_phase? hphase
          exact ⟨s, mem_of_command? hcommand⟩
    obtain ⟨s, hsent, rfl⟩ := hsent
    obtain ⟨s', hsent', hchange⟩ := hchanges.of_mem hsent
    exact ⟨s', hsent', congrArg Prod.fst hchange.named_eq⟩
  · rcases hchanges.of_mem' hsent' with ⟨s, hsent, hchange⟩ | ⟨command, rfl, rfl⟩
    · exact ht.mem_table_step hstep hreading hsent hchange hopen
    · have hmem := hopen.registered
      rw [List.mem_append, List.mem_singleton] at hmem
      exact absurd (ht.registered_lt _ (hmem.resolve_right nofun)) (Nat.lt_irrefl _)

end Tabled

theorem tabled_of_run (h : (opened limit).run actions = some c) : Tabled limit actions c :=
  invariant_of_run (P := Tabled limit) (fun _ _ _ _ ht hstep => ht.step hstep)
    (Tabled.opened limit) h

/-- The table of a connection whose reader runs. -/
theorem table_of_run (h : (opened limit).run actions = some c) (hreading : c.reading = true) :
    c.table.Nodup ∧ ∀ id, id ∈ c.table ↔ ∃ s ∈ c.sent, s.id = id ∧ s.IsOpen actions := by
  have ht := tabled_of_run h
  refine ⟨ht.nodup, fun id => ⟨fun hid => ?_, ?_⟩⟩
  · obtain ⟨s, hsent, rfl⟩ := ht.exists_sent id hid
    have htracked := ht.tracked s hsent
    exact ⟨s, hsent, rfl, ht.table_registered s.id hid, (htracked.tabled hid).2,
      fun r hr => htracked.dismissed r hr hid⟩
  · rintro ⟨s, hsent, rfl, hopen⟩
    exact ht.mem_table hreading s hsent hopen

/-- A command that was not abandoned is in the table if it waits, or is about to. -/
theorem mem_table_iff_of_run (h : (opened limit).run actions = some c) (hsent : s ∈ c.sent)
    (hphase : s.phase ≠ .abandoned) :
    s.id ∈ c.table ↔ s.phase = .waiting ∨ s.phase = .registered ∧ s.slot = .empty := by
  have hs := sound_of_run h
  have ht := hs.tracked s hsent
  refine ⟨fun hid => ?_, fun h => h.elim ht.waiting fun h => ht.registered h.1 h.2⟩
  cases hcase : s.phase with
  | numbered => exact absurd (hs.table_registered s.id hid) (ht.numbered hcase)
  | registered => exact .inr ⟨rfl, (ht.tabled hid).1⟩
  | waiting => exact .inl rfl
  | finished r => exact absurd hid (ht.dismissed r hcase)
  | abandoned => exact absurd hcase hphase

/-- One that was abandoned stays in the table, with nobody to wait for it, until an answer to it
arrives. -/
theorem mem_table_of_abandoned (h : (opened limit).run actions = some c)
    (hreading : c.reading = true) (hsent : s ∈ c.sent) (hphase : s.phase = .abandoned)
    (hregistered : .register s.id ∈ actions) (hnone : firstAnswer? s.id actions = none) :
    s.id ∈ c.table :=
  (tabled_of_run h).mem_table hreading s hsent
    ⟨hregistered, hnone, fun r hr => by cases hphase.symm.trans hr⟩

example (command : Command) :
    (((opened limit).run [.send command, .register 1, .enqueue 1, .write, .abandon 1]).map
      Connection.table) = some [1] := by
  rfl

end Connection

end PageScan

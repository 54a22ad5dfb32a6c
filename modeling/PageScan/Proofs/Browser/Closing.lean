import PageScan.Proofs.Browser.Answers
import PageScan.Proofs.Browser.Listeners

/-!
# When the reader ends

The reader ends when the browser closes the connection or cannot be read any more. It lets go of
all commands in the table and then of all listeners, once each. The writer may not have noticed by
then, so that whoever comes later can still queue a command, or listen, and is told nothing.

* `SentCommand.IsOver`, `Sound.over_of_run`, `Sound.waiting_of_run`: what can still become of a
  command without a reader.
* `Ending`: what the reader has left behind for commands that are yet to be queued.
* `ended_of_run`: commands from before are over with `closed`, and later ones only if the writer has
  ended. Listeners from before they are let go are over, and later ones are not.
-/

namespace PageScan

/-- Nobody waits for the command any more. -/
def SentCommand.IsOver (s : SentCommand) : Prop :=
  s.phase = .abandoned ∨ ∃ r, s.phase = .finished r

namespace Connection

variable {c c' : Connection} {a : ConnectionAction} {s s' : SentCommand} {limit : Nat}
  {past before actions : List ConnectionAction}

/-! ## Without a reader -/

/-- What is over stays as it is. -/
theorem Change.eq_of_isOver (h : Change c a c' s s') (hreading : c.reading = false)
    (hover : s.IsOver) : s' = s := by
  cases h with
  | kept => rfl
  | registered ha hphase | queued ha hphase | refused ha hphase | expired ha hphase =>
    simp [SentCommand.IsOver, hphase] at hover
  | abandoned ha hphase =>
    rcases hover with hover | ⟨r, hover⟩ <;> simp [hover] at hphase
  | answered hanswer h | closed ha h => rw [hreading] at h; cases h

theorem Sound.over_of_run (hs : Sound limit past c) (hreading : c.reading = false)
    (hsent : s ∈ c.sent) (hover : s.IsOver) (h : c.run actions = some c') : s ∈ c'.sent := by
  induction actions generalizing past c with
  | nil =>
    obtain rfl := Option.some.inj h
    exact hsent
  | cons a rest ih =>
    obtain ⟨c₁, hfirst, hrest⟩ := Option.bind_eq_some_iff.1 h
    have hstep := Step.of_step hfirst
    obtain ⟨s', hsent', hchange⟩ := (hs.changes hstep).of_mem hsent
    obtain rfl := hchange.eq_of_isOver hreading hover
    exact ih (hs.step hfirst) (hstep.reading_eq hreading) hsent' hrest

/-- A command that waits without a reader waits in vain. -/
theorem Sound.waiting_of_run (hs : Sound limit past c) (hreading : c.reading = false)
    (hsent : s ∈ c.sent) (hphase : s.phase = .waiting) (h : c.run actions = some c') :
    s ∈ c'.sent ∨
    .expire s.id ∈ actions ∧
      { s with phase := .finished (.error (.timeout s.command.method limit)) } ∈ c'.sent ∨
    .abandon s.id ∈ actions ∧ { s with phase := .abandoned } ∈ c'.sent := by
  induction actions generalizing past c with
  | nil =>
    obtain rfl := Option.some.inj h
    exact .inl hsent
  | cons a rest ih =>
    obtain ⟨c₁, hfirst, hrest⟩ := Option.bind_eq_some_iff.1 h
    have hstep := Step.of_step hfirst
    have hreading' := hstep.reading_eq hreading
    obtain ⟨s', hsent', hchange⟩ := (hs.changes hstep).of_mem hsent
    cases hchange with
    | kept =>
      refine (ih (hs.step hfirst) hreading' hsent' hrest).imp_right fun h => ?_
      exact h.imp (.imp_left (List.mem_cons_of_mem _)) (.imp_left (List.mem_cons_of_mem _))
    | expired ha =>
      rw [hs.limit_eq] at hsent'
      refine .inr (.inl ⟨ha ▸ List.mem_cons_self, ?_⟩)
      exact (hs.step hfirst).over_of_run hreading' hsent' (.inr ⟨_, rfl⟩) hrest
    | abandoned ha =>
      refine .inr (.inr ⟨ha ▸ List.mem_cons_self, ?_⟩)
      exact (hs.step hfirst).over_of_run hreading' hsent' (.inl rfl) hrest
    | registered ha h | queued ha h | refused ha h => rw [hphase] at h; cases h
    | answered hanswer h | closed ha h => rw [hreading] at h; cases h

/-! ## What the reader leaves behind -/

/-- How a command stands to the end of the reader, which came after the steps `before`. -/
structure Late (before : List ConnectionAction) (s : SentCommand) : Prop where
  numbered : s.phase = .numbered → .register s.id ∉ before
  untouched : .register s.id ∉ before → s.slot = .empty
  registered : s.phase = .registered → .register s.id ∈ before →
    firstAnswer? s.id before = none → s.slot = .gone

theorem Late.move (hl : Late before s) {phase : CommandPhase} (hnumbered : phase ≠ .numbered)
    (hregistered : phase ≠ .registered) : Late before { s with phase } where
  numbered h := absurd h hnumbered
  untouched := hl.untouched
  registered h := absurd h hregistered

theorem Late.change (hl : Late before s) (h : Change c a c' s s') (hreading : c.reading = false) :
    Late before s' := by
  cases h with
  | kept => exact hl
  | registered ha hphase =>
    exact ⟨nofun, hl.untouched, fun _ hmem => absurd hmem (hl.numbered hphase)⟩
  | queued =>
    obtain ⟨-, heq⟩ | ⟨x, -, heq⟩ | ⟨-, heq⟩ := s.settled_waiting <;> rw [heq] <;>
      exact hl.move nofun nofun
  | refused | expired | abandoned => exact hl.move nofun nofun
  | answered hanswer h | closed ha h => rw [hreading] at h; cases h

/-- A connection whose reader has ended after the steps `before`. -/
structure Ending (limit : Nat) (before past : List ConnectionAction) (c : Connection) : Prop
    extends Sound limit past c where
  reading_eq : c.reading = false
  subset : before ⊆ past
  late : ∀ s ∈ c.sent, Late before s

theorem Sound.ending (hs : Sound limit before c) (h : c.step .endReading = some c') :
    Ending limit before (before ++ [.endReading]) c' := by
  have hstep := Step.of_step h
  refine { hs.step h with
    reading_eq := ?_
    subset := List.subset_append_left ..
    late := fun s' hmem => ?_ }
  · cases hstep
    rfl
  · rcases (hs.changes hstep).of_mem' hmem with ⟨s, hsent, hchange⟩ | ⟨command, ha, -⟩
    · have ht := hs.tracked s hsent
      cases hchange with
      | kept hanswer hnumber htable =>
        refine ⟨ht.numbered, ht.untouched, fun hphase hregister hnone => ?_⟩
        cases hslot : s'.slot with
        | empty =>
          have hid : s'.id ∈ c'.table := htable.2 (ht.registered hphase hslot)
          cases hstep
          cases hid
        | answered x => exact absurd (ht.answered x hslot) (by simp [hnone])
        | gone => rfl
      | closed ha hreading hid htable =>
        have hregister := hs.table_registered s.id hid
        by_cases hphase : s.phase = .waiting
        · rw [SentCommand.leave_gone hphase]
          exact ⟨nofun, fun h => absurd hregister h, nofun⟩
        · rw [SentCommand.leave_of_ne hphase]
          exact ⟨ht.numbered, fun h => absurd hregister h, fun _ _ _ => rfl⟩
      | registered ha | queued ha | refused ha | expired ha | abandoned ha => cases ha
      | answered hanswer => cases hanswer
    · cases ha

theorem Ending.step (he : Ending limit before past c) (h : c.step a = some c') :
    Ending limit before (past ++ [a]) c' := by
  have hstep := Step.of_step h
  refine { he.toSound.step h with
    reading_eq := hstep.reading_eq he.reading_eq
    subset := fun b hb => List.mem_append_left _ (he.subset hb)
    late := fun s' hmem => ?_ }
  rcases (he.changes hstep).of_mem' hmem with ⟨s, hsent, hchange⟩ | ⟨command, -, rfl⟩
  · exact (he.late s hsent).change hchange he.reading_eq
  · refine ⟨fun _ hregister => ?_, fun _ => rfl, nofun⟩
    exact Nat.lt_irrefl _ (he.registered_lt c.nextId (he.subset hregister))

/-- What comes of a command that is queued without a reader. -/
theorem Ending.queued {id : Nat} (he : Ending limit before past c)
    (h : c.run (.enqueue id :: actions) = some c') :
    ∃ s, c.command? id = some s ∧
      (.register id ∈ before → firstAnswer? id before = none →
        { s with phase := .finished (.error .closed) } ∈ c'.sent) ∧
      (.register id ∉ before → c.writing = false →
        { s with phase := .finished (.error .closed) } ∈ c'.sent) ∧
      (.register id ∉ before → c.writing = true →
        { s with phase := .waiting } ∈ c'.sent ∨
        .expire id ∈ actions ∧
          { s with phase := .finished (.error (.timeout s.command.method limit)) } ∈ c'.sent ∨
        .abandon id ∈ actions ∧ { s with phase := .abandoned } ∈ c'.sent) := by
  obtain ⟨c₁, hfirst, hrest⟩ := Option.bind_eq_some_iff.1 h
  have he₁ := he.step hfirst
  have hstep := Step.of_step hfirst
  have hcommand : ∃ s, c.command? id = some s := by
    cases hstep with
    | enqueue hcommand | refuse hcommand => exact ⟨_, hcommand⟩
  obtain ⟨s, hcommand⟩ := hcommand
  obtain ⟨hsent, rfl⟩ := mem_of_command? hcommand
  have hl := he.late s hsent
  refine ⟨s, hcommand, ?_⟩
  obtain ⟨s', hsent', hchange⟩ := (he.changes hstep).of_mem hsent
  cases hchange with
  | queued ha hphase hwriting =>
    refine ⟨fun hregister hnone => ?_, fun _ hnot => ?_, fun hregister _ => ?_⟩
    · have hgone := hl.registered hphase hregister hnone
      obtain ⟨hslot, -⟩ | ⟨x, hslot, -⟩ | ⟨-, heq⟩ := s.settled_waiting
      · cases hgone.symm.trans hslot
      · cases hgone.symm.trans hslot
      · rw [heq] at hsent'
        exact he₁.over_of_run he₁.reading_eq hsent' (.inr ⟨_, rfl⟩) hrest
    · rw [hwriting] at hnot
      cases hnot
    · have hempty := hl.untouched hregister
      obtain ⟨-, heq⟩ | ⟨x, hslot, -⟩ | ⟨hslot, -⟩ := s.settled_waiting
      · rw [heq] at hsent'
        exact he₁.waiting_of_run he₁.reading_eq hsent' rfl hrest
      · cases hempty.symm.trans hslot
      · cases hempty.symm.trans hslot
  | refused ha hphase hwriting =>
    have hover := he₁.over_of_run he₁.reading_eq hsent' (.inr ⟨_, rfl⟩) hrest
    refine ⟨fun _ _ => hover, fun _ _ => hover, fun _ hnot => ?_⟩
    rw [hwriting] at hnot
    cases hnot
  | kept hanswer hnumber => exact absurd rfl hnumber
  | registered ha | expired ha | abandoned ha | closed ha => cases ha
  | answered hanswer => cases hanswer

/-! ## Listeners -/

theorem hear_of_not_registered {l : Listener} (h : l.registered = false) (e : DevToolsEvent) :
    l.hear e = l := by
  simp [Listener.hear, h]

/-- A listener that has been let go gets nothing more. -/
theorem foldl_after_of_not_registered {l : Listener} (h : l.registered = false)
    (actions : List ConnectionAction) :
    (actions.foldl Listener.after l).registered = false ∧
      (actions.foldl Listener.after l).inbox <:+ l.inbox := by
  induction actions generalizing l with
  | nil => exact ⟨h, List.suffix_rfl⟩
  | cons a rest ih =>
    have hstep : (l.after a).registered = false ∧ (l.after a).inbox <:+ l.inbox := by
      cases a with
      | receive text =>
        rw [Listener.after]
        split
        · rw [hear_of_not_registered h]
          exact ⟨h, List.suffix_rfl⟩
        · exact ⟨h, List.suffix_rfl⟩
      | releaseListeners => exact ⟨rfl, List.suffix_rfl⟩
      | dropListener key =>
        rw [Listener.after]
        split
        · exact ⟨h, List.nil_suffix⟩
        · exact ⟨h, List.suffix_rfl⟩
      | resume key =>
        rw [Listener.after]
        split
        · exact ⟨h, List.drop_suffix ..⟩
        · exact ⟨h, List.suffix_rfl⟩
      | _ => exact ⟨h, List.suffix_rfl⟩
    exact (ih hstep.1).imp_right (·.trans hstep.2)

/-- A listener that was added after the others were let go: it hears nothing, and does not learn
that it never will. -/
def Deaf (l : Listener) : Prop :=
  l.registered = true ∧ l.inbox = []

theorem Deaf.after {l : Listener} (hl : Deaf l) (h : Step c a c') (hreading : c.reading = false)
    (hlistening : c.listening = false) : Deaf (l.after a) := by
  cases h with
  | receive h => rw [hreading] at h; cases h
  | releaseListeners _ h => rw [hlistening] at h; cases h
  | dropListener key =>
    rw [Listener.after]
    split
    · exact ⟨hl.1, rfl⟩
    · exact hl
  | resume =>
    rw [Listener.after]
    split
    · exact ⟨hl.1, by rw [hl.2]; rfl⟩
    · exact hl
  | _ => exact hl

theorem deaf_of_run (hk : Keyed c) (hreading : c.reading = false) (hlistening : c.listening = false)
    (h : c.run actions = some c') {key : Nat} {l : Listener} (hkey : c.listeners.length ≤ key)
    (hl : c'.listeners[key]? = some l) : Deaf l := by
  have hinv : Keyed c' ∧ (c'.reading = false ∧ c'.listening = false) ∧
      ∀ key l, c.listeners.length ≤ key → c'.listeners[key]? = some l → Deaf l := by
    refine kept_of_run (P := fun d => Keyed d ∧ (d.reading = false ∧ d.listening = false) ∧
      ∀ key l, c.listeners.length ≤ key → d.listeners[key]? = some l → Deaf l) ?_ ?_ h
    · intro d a d' ⟨hk, ⟨hreading, hlistening⟩, hdeaf⟩ hstep
      have hrelease : a ≠ .releaseListeners := by
        rintro rfl
        cases hstep with
        | releaseListeners _ h => cases h.symm.trans hlistening
      refine ⟨hk.step hstep, ⟨hstep.reading_eq hreading, ?_⟩, fun key l hkey hl => ?_⟩
      · rw [hstep.listening_eq hrelease, hlistening]
      · rw [hstep.listeners_eq hk, List.getElem?_append] at hl
        split at hl
        · rw [List.getElem?_map] at hl
          obtain ⟨old, hold, rfl⟩ := Option.map_eq_some_iff.1 hl
          exact (hdeaf key old hkey hold).after hstep hreading hlistening
        · cases a with
          | listen method =>
            obtain rfl := List.mem_singleton.1 (List.mem_of_getElem? hl)
            exact ⟨rfl, rfl⟩
          | _ => simp [joining] at hl
    · refine ⟨hk, ⟨hreading, hlistening⟩, fun key l hkey hl => ?_⟩
      rw [List.getElem?_eq_none hkey] at hl
      cases hl
  exact hinv.2.2 key l hkey hl

theorem listening_of_run (h : (opened limit).run actions = some c) (hreading : c.reading = true) :
    c.listening = true := by
  have hkept : c.listening = false → c.reading = false :=
    kept_of_run (P := fun c => c.listening = false → c.reading = false)
      (fun _ _ _ hc hstep => hstep.reading_of_listening hc) (fun h => by cases h) h
  cases hlistening : c.listening with
  | true => rfl
  | false => cases hreading.symm.trans (hkept hlistening)

/-- The reader can let go of the listeners once it has ended, if it has not done so yet. -/
theorem exists_release (hreading : c.reading = false) (hlistening : c.listening = true)
    (h : c.run actions = some c') (hnot : .releaseListeners ∉ actions) :
    ∃ d, c'.step .releaseListeners = some d := by
  induction actions generalizing c with
  | nil =>
    obtain rfl := Option.some.inj h
    exact ⟨c.release, by simp [Connection.step, hreading, hlistening]⟩
  | cons a rest ih =>
    obtain ⟨c₁, hfirst, hrest⟩ := Option.bind_eq_some_iff.1 h
    have hstep := Step.of_step hfirst
    obtain ⟨hne, hnot⟩ := not_or.1 (mt List.mem_cons.2 hnot)
    exact ih (hstep.reading_eq hreading) ((hstep.listening_eq (Ne.symm hne)).trans hlistening) hrest
      hnot

/-! ## Every run -/

/-- What has come of the commands and listeners of a connection whose reader ended after the steps
`before`, when it was `c₁`. The steps `after` have followed, and it is `c` now. -/
structure Ended (limit : Nat) (before : List ConnectionAction) (c₁ : Connection)
    (after : List ConnectionAction) (c : Connection) : Prop where
  /-- Commands that waited are over. -/
  waiting : ∀ s ∈ c₁.sent, s.phase = .waiting →
    { s with phase := .finished (.error .closed), slot := .gone } ∈ c.sent
  /-- One that is queued later is over at once if it was in the table before, or if the writer has
  ended. If neither is the case it waits until its time is over. -/
  queued : ∀ middle id rest c₂, after = middle ++ .enqueue id :: rest →
    c₁.close.run middle = some c₂ →
      ∃ s, c₂.command? id = some s ∧
        (.register id ∈ before → firstAnswer? id before = none →
          { s with phase := .finished (.error .closed) } ∈ c.sent) ∧
        (.register id ∉ before → c₂.writing = false →
          { s with phase := .finished (.error .closed) } ∈ c.sent) ∧
        (.register id ∉ before → c₂.writing = true →
          { s with phase := .waiting } ∈ c.sent ∨
          .expire id ∈ rest ∧
            { s with phase := .finished (.error (.timeout s.command.method limit)) } ∈ c.sent ∨
          .abandon id ∈ rest ∧ { s with phase := .abandoned } ∈ c.sent)
  /-- A listener that is there when they are let go gets what was brought to it before, and then is
  over. -/
  released : ∀ middle rest c₂, after = middle ++ .releaseListeners :: rest →
    c₁.close.run middle = some c₂ → ∀ (key : Nat) l, c₂.listeners[key]? = some l →
      ∃ l', c.listeners[key]? = some l' ∧ l'.inbox <:+ l.inbox ∧ l'.isOver = l'.inbox.isEmpty
  /-- One that is added later hears nothing, and is not over. -/
  deaf : ∀ middle rest c₂, after = middle ++ .releaseListeners :: rest →
    c₁.close.run middle = some c₂ → ∀ (key : Nat) l, c₂.listeners.length ≤ key →
      c.listeners[key]? = some l → l.inbox = [] ∧ l.isOver = false
  /-- Nothing keeps the reader from letting them go. -/
  releases : .releaseListeners ∉ after → ∃ d, c.step .releaseListeners = some d

/-- What the end of the reader means, in whichever order the steps before and after it come. -/
theorem ended_of_run {after : List ConnectionAction}
    (h : (opened limit).run (before ++ .endReading :: after) = some c) :
    ∃ c₁, (opened limit).run before = some c₁ ∧ Ended limit before c₁ after c := by
  rw [run_append] at h
  obtain ⟨c₁, hbefore, h⟩ := Option.bind_eq_some_iff.1 h
  obtain ⟨c₂, hend, hafter⟩ := Option.bind_eq_some_iff.1 h
  have hs := sound_of_run hbefore
  have he := hs.ending hend
  have hstep := Step.of_step hend
  have hk := (keyed_of_run hbefore).step hstep
  obtain rfl : c₂ = c₁.close := by
    cases hstep
    rfl
  have hreleased {middle rest : List ConnectionAction} {c₂ : Connection}
      (heq : after = middle ++ .releaseListeners :: rest)
      (hmiddle : c₁.close.run middle = some c₂) :
      Keyed c₂ ∧ Step c₂ .releaseListeners c₂.release ∧ c₂.release.run rest = some c := by
    rw [heq, run_append, hmiddle, Option.bind_some] at hafter
    obtain ⟨c₃, hrelease, hrest⟩ := Option.bind_eq_some_iff.1 hafter
    have hstep := Step.of_step hrelease
    obtain rfl : c₃ = c₂.release := by
      cases hstep
      rfl
    exact ⟨kept_of_run (fun _ _ _ hk hstep => hk.step hstep) hk hmiddle, hstep, hrest⟩
  refine ⟨c₁, hbefore, fun s hsent hphase => ?_, fun middle id rest c₂ heq hmiddle => ?_,
    fun middle rest c₂ heq hmiddle key l hl => ?_,
    fun middle rest c₂ heq hmiddle key l hkey hl => ?_, fun hnot => ?_⟩
  · have hid := (hs.tracked s hsent).waiting hphase
    have hleft : s.leave .gone ∈ c₁.close.sent :=
      List.mem_map.2 ⟨s, hsent, if_pos (by simpa using hid)⟩
    rw [SentCommand.leave_gone hphase] at hleft
    exact he.over_of_run he.reading_eq hleft (.inr ⟨_, rfl⟩) hafter
  · subst heq
    have he₂ := invariant_of_run (P := Ending limit before)
      (fun _ _ _ _ he hstep => he.step hstep) he hmiddle
    rw [run_append, hmiddle] at hafter
    exact he₂.queued hafter
  · obtain ⟨hk₂, hrelease, hrest⟩ := hreleased heq hmiddle
    obtain ⟨hregistered, hinbox⟩ :=
      foldl_after_of_not_registered (l := l.after .releaseListeners) rfl rest
    refine ⟨_, listeners_of_run (hk₂.step hrelease) hrest (hrelease.getElem?_listeners hk₂ hl),
      hinbox, ?_⟩
    rw [Listener.isOver, hregistered, Bool.not_false, Bool.true_and]
  · obtain ⟨hk₂, hrelease, hrest⟩ := hreleased heq hmiddle
    have hlength : c₂.release.listeners.length ≤ key := by rwa [release, List.length_map]
    have hreading : c₂.release.reading = false := by
      cases hrelease with
      | releaseListeners hreading => exact hreading
    obtain ⟨hregistered, hinbox⟩ := deaf_of_run (hk₂.step hrelease) hreading rfl hrest hlength hl
    exact ⟨hinbox, by rw [Listener.isOver, hregistered]; rfl⟩
  · have hreading : c₁.reading = true := by
      cases hstep with
      | endReading hreading => exact hreading
    have hlistening : c₁.close.listening = true :=
      (hstep.listening_eq (by simp)).trans (listening_of_run hbefore hreading)
    exact exists_release he.reading_eq hlistening hafter hnot

/-- A command that waits for its answer. -/
def parting : List ConnectionAction :=
  [.send ⟨"First", .null, none⟩, .register 1, .enqueue 1, .write]

/-- A command and a listener that come before the writer has noticed anything, and a command that
comes after that. -/
def afterwards : List ConnectionAction :=
  [.releaseListeners, .send ⟨"Second", .null, none⟩, .register 2, .enqueue 2,
    .listen "Page.loadEventFired", .failWriting, .send ⟨"Third", .null, none⟩, .register 3,
    .enqueue 3, .expire 2]

theorem ended_parting :
    ∃ c, (opened 200).run (parting ++ .endReading :: afterwards) = some c ∧
      ∃ c₁, (opened 200).run parting = some c₁ ∧ Ended 200 parting c₁ afterwards c :=
  ⟨_, rfl, ended_of_run rfl⟩

/-- Not every command that comes after the end of the reader fails with `closed`, and not every
listener is over. -/
theorem outcomes_parting :
    ((opened 200).run (parting ++ .endReading :: afterwards)).map (fun c =>
        (c.outcome? 1, c.outcome? 2, c.outcome? 3, c.listeners.map Listener.isOver)) =
      some (some (.error .closed), some (.error (.timeout "Second" 200)), some (.error .closed),
        [false]) :=
  rfl

end Connection

end PageScan

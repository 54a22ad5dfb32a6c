import PageScan.Proofs.Browser.Steps

/-!
# Listeners

A listener is known by the position at which it was added. What becomes of it depends on it and on
the steps of a run only, not on what else there is: other listeners, subscribers, interceptors of
other pages, or commands.

* `Listener.after`: what a step does to a listener.
* `Step.listeners_eq`, `listeners_of_run`: a step, and a run, do just that to each of them.
-/

namespace PageScan

namespace Listener

/-- A listener after a step. -/
def after (l : Listener) : ConnectionAction → Listener
  | .receive text =>
    match Inbound.ofText text with
    | .ok (.event e) => l.hear e
    | _ => l
  | .releaseListeners => { l with registered := false }
  | .dropListener key => if l.key = key then { l with dropped := true, inbox := [] } else l
  | .resume key => if l.key = key then { l with inbox := l.inbox.drop 1 } else l
  | _ => l

@[simp]
theorem key_hear (l : Listener) (e : DevToolsEvent) : (l.hear e).key = l.key := by
  unfold hear
  split
  · split <;> rfl
  · rfl

@[simp]
theorem key_after (l : Listener) (a : ConnectionAction) : (l.after a).key = l.key := by
  cases a with
  | receive text =>
    rw [after]
    split
    · exact l.key_hear _
    · rfl
  | dropListener key =>
    rw [after]
    split <;> rfl
  | resume key =>
    rw [after]
    split <;> rfl
  | _ => rfl

end Listener

namespace Connection

variable {c c' : Connection} {a : ConnectionAction} {key : Nat} {l : Listener}

/-- Listeners are numbered in the order in which they were added. -/
def Keyed (c : Connection) : Prop :=
  ∀ (key : Nat) (l : Listener), c.listeners[key]? = some l → l.key = key

theorem Keyed.eq_of_key (hk : Keyed c) (h : c.listeners[key]? = some l) {other : Listener}
    (hother : other ∈ c.listeners) (heq : other.key = key) : other = l := by
  obtain ⟨k, hk'⟩ := List.mem_iff_getElem?.1 hother
  obtain rfl := (hk k other hk').symm.trans heq
  exact Option.some.inj (hk'.symm.trans h)

/-- The listener that a step adds. -/
def joining (c : Connection) : ConnectionAction → List Listener
  | .listen method => [⟨c.listeners.length, method, [], true, false⟩]
  | _ => []

/-- Each listener is changed by itself. -/
theorem Step.listeners_eq (hk : Keyed c) (h : Step c a c') :
    c'.listeners = c.listeners.map (·.after a) ++ c.joining a := by
  have hkept (hsame : c'.listeners = c.listeners) (hafter : ∀ l : Listener, l.after a = l)
      (hjoining : c.joining a = []) :
      c'.listeners = c.listeners.map (·.after a) ++ c.joining a := by
    simp [hsame, hafter, hjoining]
  cases h with
  | receive hreading htaken =>
    cases htaken with
    | event hframe => simp [takeEvent, Listener.after, hframe, joining]
    | response hframe | unknown hframe | unreadable hframe =>
      exact hkept rfl (fun l => by rw [Listener.after, hframe]) rfl
  | releaseListeners => simp [release, Listener.after, joining]
  | listen method => simp [Listener.after, joining]
  | dropListener key => simp [Listener.after, joining]
  | @resume key i l e rest c' hi hl hinbox hresumed =>
    obtain ⟨hmem, hkey⟩ := mem_of_find_listener hl
    have hleaving : (c.leaving l.key rest).listeners =
        c.listeners.map (·.after (.resume key)) ++ c.joining (.resume key) := by
      refine Eq.trans (List.map_congr_left fun other hother => ?_) (List.append_nil _).symm
      rw [Listener.after, hkey]
      split
      · next heq =>
        obtain ⟨k, hget⟩ := List.mem_iff_getElem?.1 hmem
        obtain rfl := hk k l hget
        rw [hk.eq_of_key hget hother (heq.trans hkey.symm), hinbox, List.drop_one, List.tail_cons]
      · rfl
    cases hresumed <;> exact hleaving
  | _ => exact hkept rfl (fun _ => rfl) rfl

theorem Keyed.step (hk : Keyed c) (h : Step c a c') : Keyed c' := by
  intro key l hl
  rw [h.listeners_eq hk, List.getElem?_append] at hl
  split at hl
  · rw [List.getElem?_map] at hl
    obtain ⟨old, hold, rfl⟩ := Option.map_eq_some_iff.1 hl
    rw [Listener.key_after, hk key old hold]
  · next hlt =>
    cases a with
    | listen method =>
      rw [joining, List.getElem?_singleton] at hl
      obtain ⟨hkey, heq⟩ := Option.ite_none_right_eq_some.1 hl
      obtain rfl := Option.some.inj heq
      rw [List.length_map] at hkey hlt
      dsimp only
      omega
    | _ => simp [joining] at hl

theorem keyed_of_run {limit : Nat} {actions : List ConnectionAction}
    (h : (opened limit).run actions = some c) : Keyed c :=
  kept_of_run (fun _ _ _ hk hstep => hk.step hstep) (fun _ _ hl => by simp [opened] at hl) h

theorem Step.getElem?_listeners (h : Step c a c') (hk : Keyed c) (hl : c.listeners[key]? = some l) :
    c'.listeners[key]? = some (l.after a) := by
  rw [h.listeners_eq hk, List.getElem?_append_left]
  · rw [List.getElem?_map, hl, Option.map_some]
  · rw [List.length_map]
    exact (List.getElem?_eq_some_iff.1 hl).1

/-- A run does to a listener what its steps do. -/
theorem listeners_of_run (hk : Keyed c) {actions : List ConnectionAction}
    (h : c.run actions = some c') (hl : c.listeners[key]? = some l) :
    c'.listeners[key]? = some (actions.foldl Listener.after l) := by
  induction actions generalizing c l with
  | nil =>
    obtain rfl := Option.some.inj h
    exact hl
  | cons a rest ih =>
    obtain ⟨c₁, hstep, hrest⟩ := Option.bind_eq_some_iff.1 h
    have hstep := Step.of_step hstep
    exact ih (hk.step hstep) hrest (hstep.getElem?_listeners hk hl)

end Connection

end PageScan

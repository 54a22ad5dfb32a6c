import PageScan.Proofs.Scan.Transcript

/-!
# Waiting for a reply

A scan waits for the reply to a call for a limited time. What it gets and how long it waits depend
on the reply and the limit alone, not on the time of the clock.

* `Reply.within?`, `Reply.waitMs`: what is there of a reply within a limit, and how long that takes.
* `ask_apply`: a call with a limit does just that to the world.
-/

namespace PageScan

namespace Reply

variable {ε α : Type}

/-- What is there of a reply within so many milliseconds. -/
def within? (r : Reply ε α) (limitMs : Nat) : Option (Except ε α) :=
  if r.delayMs ≤ limitMs then r.outcome else none

/-- How long a reply is waited for. -/
def waitMs (r : Reply ε α) (limitMs : Nat) : Nat :=
  match r.outcome with
  | some _ => min r.delayMs limitMs
  | none => limitMs

theorem waitMs_le (r : Reply ε α) (limitMs : Nat) : r.waitMs limitMs ≤ limitMs := by
  unfold waitMs
  split
  · exact Nat.min_le_right _ _
  · exact Nat.le_refl _

end Reply

/-- The world after a call that was waited for so long, with the state that the page has then. -/
def World.asked {σ : Type} (w : World σ) (call : PageCall) (s : σ) (waitMs : Nat) : World σ :=
  { w with now := w.now + waitMs, page := s, calls := w.calls ++ [(w.now, call)] }

namespace Scan

variable {σ : Type} {page : Page σ} {call : PageCall} {w : World σ} {s : σ}
  {reply : Reply PageError call.Answer}

/-- Waiting with a limit ends when the reply is there, or with the limit. -/
theorem await_add {ε α : Type} (limitMs : Nat) (reply : Reply ε α) (w : World σ) :
    await (w.now + limitMs) reply w =
      (reply.within? limitMs, { w with now := w.now + reply.waitMs limitMs }) := by
  obtain ⟨delay, _ | outcome⟩ := reply
  · simp [await, Reply.within?, Reply.waitMs]
  · by_cases h : delay ≤ limitMs
    · have harrival : delay = 0 ∨ w.now + delay ≤ w.now + limitMs := by omega
      simp [await, arrival?, Reply.within?, Reply.waitMs, h]
    · have harrival : ¬(delay = 0 ∨ w.now + delay ≤ w.now + limitMs) := by omega
      have hmax : max w.now (w.now + limitMs) = w.now + min delay limitMs := by omega
      simp only [await, arrival?, Reply.within?, Reply.waitMs, if_neg harrival, if_neg h, hmax]

theorem askBy_apply (limitMs : Nat) (hreply : page.answer call w.page = (reply, s)) :
    askBy page (w.now + limitMs) call w =
      (reply.within? limitMs, w.asked call s (reply.waitMs limitMs)) := by
  have hasked : askBy page (w.now + limitMs) call w = _ :=
    await_add limitMs (page.answer call w.page).1
      { w with page := (page.answer call w.page).2, calls := w.calls ++ [(w.now, call)] }
  rw [hasked, hreply]
  rfl

/-- A call with a limit comes to what is there of the reply, or to a failure of its own. -/
theorem ask_apply (limitMs : Nat) (operation : String)
    (hreply : page.answer call w.page = (reply, s)) :
    ask page limitMs operation call w =
      ((reply.within? limitMs).getD (.error (.timeout operation limitMs)),
        w.asked call s (reply.waitMs limitMs)) := by
  rw [ask, bind_apply]
  show (askBy page (w.now + limitMs) call >>= _) w = _
  rw [bind_apply, askBy_apply limitMs hreply]
  cases reply.within? limitMs <;> rfl

end Scan

end PageScan

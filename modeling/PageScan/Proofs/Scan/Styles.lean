import PageScan.Proofs.Scan.Waiting
import PageScan.Scan.Audit

/-!
# Styles that fail

An audit goes on if its styles cannot be injected. But the styles share the budget of the audit, so
that they can still bring it down: by using up the time in which the engine would have run.

* `Page.restyled`: a page with other endings of the injection of styles.
* `runBy_restyled`: what comes of the engine, as far as the styles leave it time.
* `audit_restyled`: an audit is what it would be with styles that are injected at once, unless the
  styles leave the engine too little time.
-/

namespace PageScan

variable {σ : Type}

/-- The page with other replies when styles are injected. All else that it does is left alone. -/
def Page.restyled (page : Page σ) (style : String → σ → Reply PageError Unit) : Page σ where
  answer
    | .injectStyle css, s => (style css s, (page.answer (.injectStyle css) s).2)
    | call, s => page.answer call s

namespace Scan

variable (page : Page σ) (style : String → σ → Reply PageError Unit) (engine : RuleEngine)
  (deadline : Nat)

/-- Brings the engine into the page until a deadline, and why it is not there; nothing if the
deadline passes. -/
def bringEngine : Scan σ (Option (Except AuditFailure Unit)) := do
  match ← askBy page deadline (.injectScript engine.source) with
  | none => return none
  | some (.error e) => return some (.error (.injection e))
  | some (.ok ()) =>
    match ← askBy page deadline (.evaluate .auditProbe) with
    | none => return none
    | some (.error e) => return some (.error (.probe e))
    | some (.ok answer) =>
      return some (if isTrue answer then .ok () else .error .engineMissing)

/-- What the page replies when the engine is run after the styles. -/
def runReply (s : σ) : Reply PageError Json.Value :=
  (page.answer (.evaluate .auditRun) (page.answer (.injectStyle highlightStyles) s).2).1

/-- Styles that come to this leave the engine the time that it takes. -/
def stylesFit (w : World σ) : Bool :=
  let styles := style highlightStyles w.page
  (styles.by? w.now deadline).isSome &&
    ((runReply page w.page).by? (w.now + styles.delayMs) deadline).isSome

/-- The engine is there, and the styles do not leave it the time that it takes. -/
def stylesOverrun (w : World σ) : Bool :=
  match bringEngine page engine deadline w with
  | (some (.ok ()), w₁) => !stylesFit page style deadline w₁
  | _ => false

/-- What becomes of an audit when the engine has run. -/
def runVerdict : Except PageError Json.Value → Except AuditFailure AuditResult
  | .error e => .error (.execution e)
  | .ok payload => (AuditResult.ofPayload payload).mapError .payload

variable {page style engine deadline} {w : World σ} {s : σ}

/-! ## The engine and its styles -/

theorem askBy_fst {call : PageCall} :
    (askBy page deadline call w).1 = (page.answer call w.page).1.by? w.now deadline := by
  obtain ⟨now, h⟩ := await_apply deadline (page.answer call w.page).1
    { w with page := (page.answer call w.page).2, calls := w.calls ++ [(w.now, call)] }
  exact congrArg Prod.fst h

/-- A call that is answered in time takes as long as the answer. -/
theorem askBy_of_by? {call : PageCall} {outcome : Except PageError call.Answer}
    {reply : Reply PageError call.Answer} (hreply : page.answer call w.page = (reply, s))
    (h : reply.by? w.now deadline = some outcome) :
    askBy page deadline call w = (some outcome, w.asked call s reply.delayMs) := by
  obtain ⟨hintime, houtcome⟩ := Option.ite_none_right_eq_some.1 h
  show await deadline (page.answer call w.page).1
    { w with page := (page.answer call w.page).2, calls := w.calls ++ [(w.now, call)] } = _
  rw [hreply]
  simp only [await, arrival?, houtcome, if_pos hintime]
  rfl

theorem bringEngine_restyled :
    bringEngine (page.restyled style) engine deadline = bringEngine page engine deadline :=
  rfl

theorem outcome_of_by? {ε α : Type} {r : Reply ε α} {askedAt : Nat} {outcome : Except ε α}
    (h : r.by? askedAt deadline = some outcome) : r.outcome = some outcome :=
  (Option.ite_none_right_eq_some.1 h).2

/-- The engine comes to what it replies, if the styles leave it the time, and to nothing else. -/
theorem runBy_restyled :
    (runBy (page.restyled style) deadline w).1 =
      if stylesFit page style deadline w then (runReply page w.page).outcome.map runVerdict
      else none := by
  have hreply : (page.restyled style).answer (.injectStyle highlightStyles) w.page =
      (style highlightStyles w.page, (page.answer (.injectStyle highlightStyles) w.page).2) := rfl
  rw [runBy, bind_apply]
  cases hstyles : (style highlightStyles w.page).by? w.now deadline with
  | none =>
    have hnone :
        (askBy (page.restyled style) deadline (.injectStyle highlightStyles) w).1 = none := by
      rw [askBy_fst, hreply, hstyles]
    rw [hnone, stylesFit, hstyles]
    rfl
  | some outcome =>
    have hran : (askBy (page.restyled style) deadline (.evaluate .auditRun)
        (w.asked (.injectStyle highlightStyles)
          (page.answer (.injectStyle highlightStyles) w.page).2
          (style highlightStyles w.page).delayMs)).1 =
        (runReply page w.page).by? (w.now + (style highlightStyles w.page).delayMs) deadline :=
      askBy_fst
    rw [askBy_of_by? hreply hstyles, stylesFit, hstyles]
    dsimp only
    rw [bind_apply, hran]
    rcases hrun : (runReply page w.page).by? (w.now + (style highlightStyles w.page).delayMs)
        deadline with _ | _ | payload
    · rfl
    · rw [outcome_of_by? hrun]
      rfl
    · rw [outcome_of_by? hrun]
      rfl

/-- An audit brings the engine and then runs it. -/
theorem auditBy_apply :
    auditBy page engine deadline w =
      match bringEngine page engine deadline w with
      | (some (.ok ()), w₁) => runBy page deadline w₁
      | (some (.error f), w₁) => (some (.error f), w₁)
      | (none, w₁) => (none, w₁) := by
  rw [auditBy, bringEngine, bind_apply, bind_apply]
  rcases askBy page deadline (.injectScript engine.source) w with ⟨_ | _ | _, w₁⟩
  · rfl
  · rfl
  · dsimp only
    rw [bind_apply, bind_apply]
    rcases askBy page deadline (.evaluate .auditProbe) w₁ with ⟨_ | _ | answer, w₂⟩
    · rfl
    · rfl
    · dsimp only
      cases isTrue answer <;> rfl

theorem isSome_by?_mono {ε α : Type} {r : Reply ε α} {askedAt askedAt' : Nat}
    (hle : askedAt ≤ askedAt') (h : (r.by? askedAt' deadline).isSome = true) :
    (r.by? askedAt deadline).isSome = true := by
  obtain ⟨outcome, houtcome⟩ := Option.isSome_iff_exists.1 h
  obtain ⟨hintime, houtcome⟩ := Option.ite_none_right_eq_some.1 houtcome
  have hearlier : r.delayMs = 0 ∨ askedAt + r.delayMs ≤ deadline := hintime.imp_right (by omega)
  rw [Reply.by?, if_pos hearlier, houtcome]
  rfl

/-- Styles that leave the engine its time do so all the more if they take none. -/
theorem stylesFit_now (h : stylesFit page style deadline w = true) :
    stylesFit page (fun _ _ => .now ()) deadline w = true :=
  isSome_by?_mono (Nat.le_add_right _ _) (Bool.and_eq_true_iff.1 h).2

theorem audit_fst {config : AuditConfig} {url : String} :
    (audit page engine config url w).1 =
      match (auditBy page engine (w.now + config.timeoutMs) w).1 with
      | some outcome => outcome.mapError fun f => .audit url f.message
      | none => .error (.audit url (AuditFailure.budget config.timeoutMs).message) := by
  rw [audit, bind_apply, bind_apply]
  simp only [now]
  rcases (auditBy page engine (w.now + config.timeoutMs) w).1 with _ | outcome <;> rfl

/-- An audit comes to what it comes to if its styles are injected at once, unless they leave the
engine too little of the budget; then it fails for want of time. -/
theorem audit_restyled (page : Page σ) (style : String → σ → Reply PageError Unit)
    (engine : RuleEngine) (config : AuditConfig) (url : String) (w : World σ) :
    (audit (page.restyled style) engine config url w).1 =
      if stylesOverrun page style engine (w.now + config.timeoutMs) w then
        .error (.audit url (AuditFailure.budget config.timeoutMs).message)
      else (audit (page.restyled fun _ _ => .now ()) engine config url w).1 := by
  rw [audit_fst, audit_fst, auditBy_apply, auditBy_apply, bringEngine_restyled,
    bringEngine_restyled, stylesOverrun]
  rcases bringEngine page engine (w.now + config.timeoutMs) w with ⟨_ | _ | _, w₁⟩
  · rfl
  · rfl
  · dsimp only
    rw [runBy_restyled, runBy_restyled]
    by_cases hfit : stylesFit page style (w.now + config.timeoutMs) w₁ = true
    · simp [hfit, stylesFit_now hfit]
    · simp [hfit]

/-- A page with an engine that takes 10 ms and finds nothing. -/
def flawless : Page Unit where
  answer
    | .evaluate .auditRun, _ =>
      (⟨10, some (.ok (.object
        [("violations", .array []), ("passes", .array []), ("incomplete", .array [])]))⟩, ())
    | .evaluate _, _ => (.now (.bool true), ())
    | .injectScript _, _ => (.now (), ())
    | .injectStyle _, _ => (.now (), ())
    | .navigate .., _ | .screenshot _, _ | .interceptRequests _, _ => (.never, ())

/-- Styles that are refused just before the budget of an audit is used up make it fail, and it would
not fail if they were refused at once. -/
theorem not_audit_independent_of_styles :
    ¬∀ (σ : Type) (page : Page σ) (style style' : String → σ → Reply PageError Unit)
      (engine : RuleEngine) (config : AuditConfig) (url : String) (w : World σ),
      (audit (page.restyled style) engine config url w).1 =
        (audit (page.restyled style') engine config url w).1 := by
  intro h
  have hsame := h Unit flawless (fun _ _ => ⟨995, some (.error (.script "refused"))⟩)
    (fun _ _ => .refuse (.script "refused")) ⟨"window.axe = {}"⟩ { timeoutMs := 1000 }
    "https://shop.example.com/" (.start ())
  have hlate : (audit (flawless.restyled fun _ _ => ⟨995, some (.error (.script "refused"))⟩)
      ⟨"window.axe = {}"⟩ { timeoutMs := 1000 } "https://shop.example.com/" (.start ())).1 =
      .error (.audit "https://shop.example.com/" (AuditFailure.budget 1000).message) := rfl
  have hprompt : (audit (flawless.restyled fun _ _ => .refuse (.script "refused"))
      ⟨"window.axe = {}"⟩ { timeoutMs := 1000 } "https://shop.example.com/" (.start ())).1 =
      .ok ⟨[], [], []⟩ := rfl
  cases hlate.symm.trans (hsame.trans hprompt)

end Scan

end PageScan

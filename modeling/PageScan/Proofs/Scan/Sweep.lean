import PageScan.Proofs.Decimal.Naturals
import PageScan.Proofs.Scan.Waiting
import PageScan.Scan.Stabilization

/-!
# The sweep over a page

A page is scrolled through until the distance covers its height, which is read anew after each step
and may have grown by then. The steps are limited, and a step that fails ends the sweep.

* `attempt`, `answers`: a step with its pause, and what the page would answer step after step.
* `Sweeping`: a sweep step by step; `SweepEnds`: which step ends it, and how.
* `stabilize_swept`: how a page is brought to rest.
-/

namespace PageScan

variable {σ : Type}

/-- The report after a step more. -/
def StabilizationReport.stepped (r : StabilizationReport) (px : Nat) : StabilizationReport :=
  { r with scrollSteps := r.scrollSteps + 1, sweptPx := r.sweptPx + px }

namespace Scan

/-- A step of a sweep, after its pause. -/
def attempt (page : Page σ) (config : StabilizerConfig) : Scan σ (Except PageError Json.Value) := do
  sleep config.scrollIntervalMs
  ask page config.stepTimeoutMs "scroll step" (.evaluate (.scrollBy config.scrollStepPx))

/-- What the page answers to one step after another, if they are made without end. -/
def answers (page : Page σ) (config : StabilizerConfig) (w : World σ) :
    Nat → Except PageError Json.Value
  | 0 => (attempt page config w).1
  | i + 1 => answers page config (attempt page config w).2 i

/-! ## Step by step -/

/-- A sweep with so many steps left goes from a report and a world to others, in so many steps. -/
inductive Sweeping (page : Page σ) (config : StabilizerConfig) :
    (stepsLeft : Nat) → StabilizationReport → World σ →
      (made : Nat) → StabilizationReport → World σ → Prop
  | capped (r : StabilizationReport) (w : World σ) :
      Sweeping page config 0 r w 0 { r with truncated := true } w
  | failed {e : PageError} {n : Nat} {r : StabilizationReport} {w w₁ : World σ}
      (h : attempt page config w = (.error e, w₁)) : Sweeping page config (n + 1) r w 1 r w₁
  | covered {a : Json.Value} {n : Nat} {r : StabilizationReport} {w w₁ : World σ}
      (h : attempt page config w = (.ok a, w₁))
      (hcovered : Float.ofNat (r.sweptPx + config.scrollStepPx) ≥ heightOf a) :
      Sweeping page config (n + 1) r w 1 (r.stepped config.scrollStepPx) w₁
  | onward {a : Json.Value} {n made : Nat} {r r' : StabilizationReport} {w w₁ w' : World σ}
      (h : attempt page config w = (.ok a, w₁))
      (hcovered : ¬Float.ofNat (r.sweptPx + config.scrollStepPx) ≥ heightOf a)
      (rest : Sweeping page config n (r.stepped config.scrollStepPx) w₁ made r' w') :
      Sweeping page config (n + 1) r w (made + 1) r' w'

section

variable (page : Page σ) (config : StabilizerConfig)

theorem ask_calls (limitMs : Nat) (operation : String) (call : PageCall) (w : World σ) :
    (ask page limitMs operation call w).2.calls.map Prod.snd = w.calls.map Prod.snd ++ [call] := by
  rw [ask_apply limitMs operation rfl, World.asked, List.map_append]
  rfl

theorem calls_of_attempt {w w₁ : World σ} {answer : Except PageError Json.Value}
    (h : attempt page config w = (answer, w₁)) :
    w₁.calls.map Prod.snd =
      w.calls.map Prod.snd ++ [.evaluate (.scrollBy config.scrollStepPx)] := by
  obtain rfl : (attempt page config w).2 = w₁ := congrArg Prod.snd h
  exact ask_calls page _ _ _ _

theorem sweep_succ (n : Nat) (r : StabilizationReport) (w : World σ) :
    sweep page config (n + 1) r w =
      match attempt page config w with
      | (.error _, w₁) => (r, w₁)
      | (.ok a, w₁) =>
        if Float.ofNat (r.sweptPx + config.scrollStepPx) ≥ heightOf a then
          (r.stepped config.scrollStepPx, w₁)
        else sweep page config n (r.stepped config.scrollStepPx) w₁ := by
  rcases h : attempt page config w with ⟨answer, w₁⟩
  have hasked : ask page config.stepTimeoutMs "scroll step"
      (.evaluate (.scrollBy config.scrollStepPx))
      { w with now := w.now + config.scrollIntervalMs } = (answer, w₁) := h
  rw [sweep, bind_apply, bind_apply]
  simp only [sleep]
  rw [hasked]
  rcases answer with e | a
  · rfl
  · dsimp only
    split <;> rfl

/-- A sweep comes to an end. -/
theorem sweep_sweeping (n : Nat) (r : StabilizationReport) (w : World σ) :
    ∃ made r' w', sweep page config n r w = (r', w') ∧ Sweeping page config n r w made r' w' := by
  induction n generalizing r w with
  | zero => exact ⟨0, _, w, rfl, .capped r w⟩
  | succ n ih =>
    rw [sweep_succ]
    rcases h : attempt page config w with ⟨e | a, w₁⟩
    · exact ⟨1, r, w₁, rfl, .failed h⟩
    · by_cases hcovered : Float.ofNat (r.sweptPx + config.scrollStepPx) ≥ heightOf a
      · exact ⟨1, _, w₁, if_pos hcovered, .covered h hcovered⟩
      · obtain ⟨made, r', w', hrun, hsweeping⟩ := ih (r.stepped config.scrollStepPx) w₁
        exact ⟨made + 1, r', w', (if_neg hcovered).trans hrun, .onward h hcovered hsweeping⟩

end

namespace Sweeping

variable {page : Page σ} {config : StabilizerConfig} {n made : Nat} {r r' : StabilizationReport}
  {w w' : World σ}

theorem made_le (h : Sweeping page config n r w made r' w') : made ≤ n := by
  induction h with
  | capped => exact Nat.le_refl _
  | failed | covered => exact Nat.succ_le_succ (Nat.zero_le _)
  | onward _ _ _ ih => exact Nat.succ_le_succ ih

theorem calls (h : Sweeping page config n r w made r' w') :
    w'.calls.map Prod.snd = w.calls.map Prod.snd ++
      List.replicate made (.evaluate (.scrollBy config.scrollStepPx)) := by
  induction h with
  | capped => simp
  | failed h | covered h => exact calls_of_attempt page config h
  | onward h _ _ ih =>
    rw [ih, calls_of_attempt page config h, List.append_assoc, List.singleton_append,
      List.replicate_succ]

theorem scrollSteps_le (h : Sweeping page config n r w made r' w') :
    r'.scrollSteps ≤ r.scrollSteps + made := by
  induction h with
  | capped | covered => exact Nat.le_refl _
  | failed => exact Nat.le_succ _
  | onward _ _ _ ih =>
    simp only [StabilizationReport.stepped] at ih
    omega

/-- Each step that counts goes the same distance. -/
theorem sweptPx_add (h : Sweeping page config n r w made r' w') :
    r'.sweptPx + r.scrollSteps * config.scrollStepPx =
      r.sweptPx + r'.scrollSteps * config.scrollStepPx := by
  induction h with
  | capped | failed => rfl
  | covered =>
    simp only [StabilizationReport.stepped, Nat.add_mul]
    omega
  | onward _ _ _ ih =>
    simp only [StabilizationReport.stepped, Nat.add_mul] at ih
    omega

end Sweeping

/-! ## Which step ends a sweep -/

section

variable (answers : Nat → Except PageError Json.Value) (stepPx done : Nat)

/-- A step fails. Steps are numbered from zero. -/
def Fails (i : Nat) : Prop :=
  ∃ e, answers i = .error e

/-- After a step the distance is no less than the height, the number that the page tells. So many
steps were done before. -/
def Covers (i : Nat) : Prop :=
  ∃ a, answers i = .ok a ∧ Decimal.AtMost (heightOf a) ((done + i + 1) * stepPx)

/-- A step after which there are no more. -/
def Stops (i : Nat) : Prop :=
  Fails answers i ∨ Covers answers stepPx done i

/-- How a sweep ends that has some steps done and no more than `cap` left, of which it makes some:
with the first step that fails or covers the height, or with the cap if there is no such step. The
distances on the way have to be exact as floats. -/
structure SweepEnds (cap made : Nat) (r : StabilizationReport) : Prop where
  failed : ∀ i < cap, (done + i) * stepPx < 2 ^ 53 →
    (∀ j < i, ¬Stops answers stepPx done j) → Fails answers i →
      made = i + 1 ∧ r.scrollSteps = done + i ∧ r.truncated = false
  covered : ∀ i < cap, (done + i + 1) * stepPx < 2 ^ 53 →
    (∀ j < i, ¬Stops answers stepPx done j) → Covers answers stepPx done i →
      made = i + 1 ∧ r.scrollSteps = done + i + 1 ∧ r.truncated = false
  capped : (done + cap) * stepPx < 2 ^ 53 → (∀ i < cap, ¬Stops answers stepPx done i) →
    made = cap ∧ r.scrollSteps = done + cap ∧ r.truncated = true

end

section

variable {answers : Nat → Except PageError Json.Value} {stepPx done cap made : Nat}
  {r : StabilizationReport}

theorem not_fails_of_ok {a : Json.Value} {i : Nat} (h : answers i = .ok a) : ¬Fails answers i := by
  rintro ⟨e, he⟩
  cases h.symm.trans he

theorem not_covers_of_error {e : PageError} {i : Nat} (h : answers i = .error e) :
    ¬Covers answers stepPx done i := by
  rintro ⟨a, ha, -⟩
  cases h.symm.trans ha

/-- A height in whole pixels is covered by any distance that is no less. -/
theorem stops_iff_of_ofNat {height i : Nat} (h : answers i = .ok (.ofNat height))
    (hheight : height < 2 ^ 53) :
    Stops answers stepPx done i ↔ height ≤ (done + i + 1) * stepPx := by
  have hfloat : heightOf (.ofNat height) = Float.ofNat height := by
    show (if (height : Int) < 0 then -Float.ofNat height else Float.ofNat height) = _
    exact if_neg (Int.not_lt.2 (Int.natCast_nonneg height))
  rw [Stops, Covers, h]
  constructor
  · rintro (hfails | ⟨a, ha, hcovers⟩)
    · exact absurd hfails (not_fails_of_ok h)
    · rw [← Except.ok.inj ha, hfloat] at hcovers
      exact (Decimal.atMost_ofNat hheight).1 hcovers
  · exact fun hle => .inr ⟨_, rfl, by rwa [hfloat, Decimal.atMost_ofNat hheight]⟩

theorem lt_of_mul_lt {a b limit : Nat} (h : b * stepPx < limit) (hle : a ≤ b) :
    a * stepPx < limit :=
  Nat.lt_of_le_of_lt (Nat.mul_le_mul_right stepPx hle) h

theorem SweepEnds.of_failed {e : PageError} (h : answers 0 = .error e)
    (hsteps : r.scrollSteps = done) (hopen : r.truncated = false) :
    SweepEnds answers stepPx done (cap + 1) 1 r := by
  have hstops : Stops answers stepPx done 0 := .inl ⟨e, h⟩
  constructor
  · rintro (_ | i) _ _ hbefore _
    · exact ⟨rfl, hsteps, hopen⟩
    · exact absurd hstops (hbefore 0 (Nat.succ_pos i))
  · rintro (_ | i) _ _ hbefore hcovers
    · exact absurd hcovers (not_covers_of_error h)
    · exact absurd hstops (hbefore 0 (Nat.succ_pos i))
  · exact fun _ hnone => absurd hstops (hnone 0 (Nat.succ_pos cap))

theorem SweepEnds.of_covered {a : Json.Value} (h : answers 0 = .ok a)
    (hcovers : (done + 1) * stepPx < 2 ^ 53 → Covers answers stepPx done 0)
    (hsteps : r.scrollSteps = done + 1) (hopen : r.truncated = false) :
    SweepEnds answers stepPx done (cap + 1) 1 r := by
  have hstops {n : Nat} (hexact : n * stepPx < 2 ^ 53) (hlt : done < n) :
      Stops answers stepPx done 0 :=
    .inr (hcovers (lt_of_mul_lt hexact hlt))
  constructor
  · rintro (_ | i) _ hexact hbefore hfails
    · exact absurd hfails (not_fails_of_ok h)
    · exact absurd (hstops hexact (by omega)) (hbefore 0 (Nat.succ_pos i))
  · rintro (_ | i) _ hexact hbefore _
    · exact ⟨rfl, hsteps, hopen⟩
    · exact absurd (hstops hexact (by omega)) (hbefore 0 (Nat.succ_pos i))
  · exact fun hexact hnone =>
      absurd (hstops hexact (by omega)) (hnone 0 (Nat.succ_pos cap))

theorem stops_succ_iff {i : Nat} :
    Stops (fun j => answers (j + 1)) stepPx (done + 1) i ↔ Stops answers stepPx done (i + 1) := by
  have hdistance : done + 1 + i + 1 = done + (i + 1) + 1 := by omega
  rw [Stops, Stops, Fails, Fails, Covers, Covers, hdistance]

/-- After a step that does not end it a sweep ends as the rest of it does. -/
theorem SweepEnds.cons {a : Json.Value} (hanswer : answers 0 = .ok a)
    (hgo : (done + 1) * stepPx < 2 ^ 53 → ¬Covers answers stepPx done 0)
    (h : SweepEnds (fun i => answers (i + 1)) stepPx (done + 1) cap made r) :
    SweepEnds answers stepPx done (cap + 1) (made + 1) r := by
  have hdone (i : Nat) : done + 1 + i = done + (i + 1) := by omega
  have hfirst {i : Nat} (h : ∀ j < i + 1, ¬Stops answers stepPx done j) : ∀ j < i,
      ¬Stops (fun j => answers (j + 1)) stepPx (done + 1) j :=
    fun j hj => mt stops_succ_iff.1 (h (j + 1) (Nat.succ_lt_succ hj))
  constructor
  · rintro (_ | i) hi hexact hbefore hfails
    · exact absurd hfails (not_fails_of_ok hanswer)
    · obtain ⟨hmade, hsteps, hopen⟩ := h.failed i (Nat.lt_of_succ_lt_succ hi)
        (by rwa [hdone]) (hfirst hbefore) hfails
      exact ⟨by omega, by omega, hopen⟩
  · rintro (_ | i) hi hexact hbefore hcovers
    · exact absurd hcovers (hgo hexact)
    · obtain ⟨hmade, hsteps, hopen⟩ := h.covered i (Nat.lt_of_succ_lt_succ hi)
        (by rwa [hdone]) (hfirst hbefore) (by rwa [Covers, hdone])
      exact ⟨by omega, by omega, hopen⟩
  · intro hexact hnone
    obtain ⟨hmade, hsteps, hopen⟩ := h.capped (by rwa [hdone]) (hfirst hnone)
    exact ⟨by omega, by omega, hopen⟩

end

theorem ge_iff_atMost {r : StabilizationReport} {stepPx : Nat}
    (hswept : r.sweptPx = r.scrollSteps * stepPx) (hexact : (r.scrollSteps + 1) * stepPx < 2 ^ 53)
    (height : Float) :
    Float.ofNat (r.sweptPx + stepPx) ≥ height ↔
      Decimal.AtMost height ((r.scrollSteps + 1) * stepPx) := by
  have hdistance : r.sweptPx + stepPx = (r.scrollSteps + 1) * stepPx := by
    rw [hswept, Nat.succ_mul]
  rw [hdistance]
  exact Decimal.ofNat_ge_iff hexact height

/-- The first step that fails or covers the height ends a sweep. -/
theorem Sweeping.ends {page : Page σ} {config : StabilizerConfig} {n made : Nat}
    {r r' : StabilizationReport} {w w' : World σ} (h : Sweeping page config n r w made r' w')
    (hswept : r.sweptPx = r.scrollSteps * config.scrollStepPx) (hopen : r.truncated = false) :
    SweepEnds (answers page config w) config.scrollStepPx r.scrollSteps n made r' := by
  induction h with
  | capped r w =>
    exact ⟨fun i hi => absurd hi (Nat.not_lt_zero i), fun i hi => absurd hi (Nat.not_lt_zero i),
      fun _ _ => ⟨rfl, rfl, rfl⟩⟩
  | failed h => exact .of_failed (congrArg Prod.fst h) rfl hopen
  | @covered a n r w w₁ h hcovered =>
    have hanswer : answers page config w 0 = .ok a := congrArg Prod.fst h
    exact .of_covered hanswer
      (fun hexact => ⟨a, hanswer, (ge_iff_atMost hswept hexact _).1 hcovered⟩) rfl hopen
  | @onward a n made r r' w w₁ w' h hcovered rest ih =>
    have hanswer : answers page config w 0 = .ok a := congrArg Prod.fst h
    have hrest : (fun i => answers page config w (i + 1)) = answers page config w₁ := by
      funext i
      rw [answers, h]
    refine .cons hanswer ?_ ?_
    · rintro hexact ⟨a', hanswer', hcovers⟩
      obtain rfl := Except.ok.inj (hanswer'.symm.trans hanswer)
      exact hcovered ((ge_iff_atMost hswept hexact _).2 hcovers)
    · rw [hrest]
      refine ih ?_ hopen
      simp only [StabilizationReport.stepped, hswept, Nat.succ_mul]

/-! ## Bringing a page to rest -/

theorem awaitFonts_calls (page : Page σ) (ceilingMs : Nat) (w : World σ) :
    (awaitFonts page ceilingMs w).2.calls.map Prod.snd =
      w.calls.map Prod.snd ++ [.evaluate .fontsReady] := by
  have hworld : (awaitFonts page ceilingMs w).2 =
      (ask page ceilingMs "fonts" (.evaluate .fontsReady) w).2 := by
    rw [awaitFonts, bind_apply]
    cases (ask page ceilingMs "fonts" (.evaluate .fontsReady) w).1 <;> rfl
  rw [hworld, ask_calls]

/-- The world in which the sweep over a page begins. -/
def sweepStart (page : Page σ) (config : StabilizerConfig) (w : World σ) : World σ :=
  (sleep config.settleMs (awaitFonts page config.fontCeilingMs w).2).2

/-- What bringing a page to rest does, with so many steps made. -/
structure Swept (page : Page σ) (config : StabilizerConfig) (w : World σ) (made : Nat)
    (r : StabilizationReport) (w' : World σ) : Prop where
  /-- The page is scrolled back to its top once, after the last step. -/
  calls : w'.calls.map Prod.snd = w.calls.map Prod.snd ++ .evaluate .fontsReady ::
    List.replicate made (.evaluate (.scrollBy config.scrollStepPx)) ++ [.evaluate .scrollToTop]
  made_le : made ≤ config.maxScrollSteps
  scrollSteps_le : r.scrollSteps ≤ config.maxScrollSteps
  sweptPx_eq : r.sweptPx = r.scrollSteps * config.scrollStepPx
  sweptPx_lt : config.maxScrollSteps < 2 ^ 32 → config.scrollStepPx < 2 ^ 32 → r.sweptPx < 2 ^ 64
  ends : SweepEnds (answers page config (sweepStart page config w)) config.scrollStepPx 0
    config.maxScrollSteps made r

/-- A page is brought to rest whatever it does, in no more steps than there may be; the first step
that fails or covers the height is the last one. -/
theorem stabilize_swept (page : Page σ) (config : StabilizerConfig) (w : World σ) :
    ∃ r made w', stabilize page config w = (r, w') ∧ Swept page config w made r w' := by
  obtain ⟨made, r, w₁, hrun, hsweeping⟩ := sweep_sweeping page config config.maxScrollSteps
    ⟨(awaitFonts page config.fontCeilingMs w).1, 0, 0, false⟩ (sweepStart page config w)
  have hmade : made ≤ config.maxScrollSteps := hsweeping.made_le
  have hsteps : r.scrollSteps ≤ 0 + made := hsweeping.scrollSteps_le
  have hpx : r.sweptPx = r.scrollSteps * config.scrollStepPx := by
    simpa using hsweeping.sweptPx_add
  have hfonts : (sweepStart page config w).calls.map Prod.snd =
      w.calls.map Prod.snd ++ [.evaluate .fontsReady] :=
    awaitFonts_calls page config.fontCeilingMs w
  refine ⟨r, made, (sleep config.postSweepSettleMs
    (ask page config.stepTimeoutMs "scroll to top" (.evaluate .scrollToTop) w₁).2).2, ?_,
    ⟨?_, hmade, by omega, hpx, ?_, hsweeping.ends (Nat.zero_mul _).symm rfl⟩⟩
  · rw [sweepStart] at hrun
    rw [stabilize, bind_apply, bind_apply, bind_apply, hrun]
    rfl
  · show (ask page _ _ _ w₁).2.calls.map Prod.snd = _
    rw [ask_calls, hsweeping.calls, hfonts]
    simp
  · intro hcap hstep
    calc r.sweptPx = r.scrollSteps * config.scrollStepPx := hpx
      _ ≤ 2 ^ 32 * config.scrollStepPx := Nat.mul_le_mul_right _ (by omega)
      _ < 2 ^ 32 * 2 ^ 32 := Nat.mul_lt_mul_of_pos_left hstep (by decide)
      _ = 2 ^ 64 := by decide

/-- A page whose height is 500 at first, and 900 after the first step. -/
def lengthening : Page Nat where
  answer
    | .evaluate (.scrollBy _), steps => (.now (.ofNat (if steps = 0 then 500 else 900)), steps + 1)
    | .evaluate _, steps => (.now .null, steps)
    | _, steps => (.never, steps)

/-- With three steps of 300 that page is covered by the last of them. -/
theorem stabilize_swept_lengthening :
    ∃ r made w', stabilize lengthening { maxScrollSteps := 3 } (World.start 0) = (r, w') ∧
      made = 3 ∧ r.scrollSteps = 3 ∧ r.sweptPx = 900 ∧ r.truncated = false := by
  let config : StabilizerConfig := { maxScrollSteps := 3 }
  let start := sweepStart lengthening config (World.start 0)
  obtain ⟨r, made, w', hrun, hswept⟩ := stabilize_swept lengthening config (World.start 0)
  have hzero : answers lengthening config start 0 = .ok (.ofNat 500) := rfl
  have hone : answers lengthening config start 1 = .ok (.ofNat 900) := rfl
  have htwo : answers lengthening config start 2 = .ok (.ofNat 900) := rfl
  have hfirst : ∀ i < 2, ¬Stops (answers lengthening config start) config.scrollStepPx 0 i
    | 0, _ => mt (stops_iff_of_ofNat hzero (by decide)).1 (by decide)
    | 1, _ => mt (stops_iff_of_ofNat hone (by decide)).1 (by decide)
  have hcovers : Covers (answers lengthening config start) config.scrollStepPx 0 2 :=
    ((stops_iff_of_ofNat htwo (by decide)).2 (by decide)).resolve_left (not_fails_of_ok htwo)
  obtain ⟨hmade, hsteps, hopen⟩ := hswept.ends.covered 2 (by decide) (by decide) hfirst hcovers
  have hpx : r.sweptPx = 900 := by
    rw [hswept.sweptPx_eq, hsteps]
    rfl
  exact ⟨r, made, w', hrun, hmade, hsteps, hpx, hopen⟩

end Scan

end PageScan

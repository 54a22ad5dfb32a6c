import PageScan.Proofs.Report.Documents
import PageScan.Proofs.Scan.SecondEngine
import PageScan.Proofs.Secondary.Lighthouse
import PageScan.Simulated.Page

/-!
# What a scan reports is read back

The report of a scan is written to a text and read again. The scan sees to it that all numbers in
the report fit where they are written, so that only what the second engine wrote can get in the
way: it is read from a text of its own, where it may nest as deep as any text, and written two
levels down.

* `sound_of_run`: the numbers in a report fit.
* `run_readback`: the report is read back exactly if two levels more are not too deep for what the
  second engine wrote.
-/

namespace PageScan

/-! ## What a computation always gives -/

namespace Scan

variable {σ α β : Type} {m : Scan σ α} {P Q : α → Prop}

/-- What the computation gives is so, whatever the world. -/
def Always (m : Scan σ α) (P : α → Prop) : Prop :=
  ∀ w, P (m w).1

theorem Always.pure {a : α} (h : P a) : Always (Pure.pure a : Scan σ α) P :=
  fun _ => h

theorem Always.bind {f : α → Scan σ β} {P : β → Prop} (h : ∀ a, Always (f a) P) :
    Always (m >>= f) P :=
  fun w => h (m w).1 (m w).2

theorem Always.bind_of {f : α → Scan σ β} {P : β → Prop} (hm : Always m Q)
    (h : ∀ a, Q a → Always (f a) P) : Always (m >>= f) P :=
  fun w => h (m w).1 (hm w) (m w).2

end Scan

namespace PageCapture

/-- The size of the page is two machine words. -/
structure Fits (c : PageCapture) : Prop where
  pageWidth : c.pageWidth < Nat.pow 2 32
  pageHeight : c.pageHeight < Nat.pow 2 32

end PageCapture

theorem DocumentSize.pixels_lt (x : Float) : pixels x < Nat.pow 2 32 := by
  unfold pixels
  split
  · exact UInt32.toNat_lt _
  · decide

namespace Scan

variable {σ : Type}

theorem always_capture (page : Page σ) (config : CaptureConfig) (url : String) :
    Always (capture page config url) fun r => ∀ c, r = .ok c → c.Fits := by
  unfold capture
  refine .bind fun measured => ?_
  split
  · exact .pure nofun
  split
  · exact .pure nofun
  refine .bind fun pictured => ?_
  split
  · exact .pure nofun
  split
  · exact .pure nofun
  refine .bind fun takenAt => .pure ?_
  rintro _ ⟨⟩
  exact ⟨DocumentSize.pixels_lt _, DocumentSize.pixels_lt _⟩

end Scan

namespace Pipeline

open Scan (Always)

variable {σ : Type} (p : Pipeline) (page : Page σ) (url : String) (endpoint : BrowserEndpoint)

theorem always_inspect :
    Always (p.inspect page url) fun r => ∀ found, r = .ok found → found.1.Fits := by
  unfold inspect
  refine .bind fun installed => ?_
  split
  · exact .pure nofun
  refine .bind fun navigated => ?_
  split
  · exact .pure nofun
  refine .bind fun _ => .bind fun _ =>
    .bind_of (Scan.always_capture page p.config.capture url) fun captured hcaptured => ?_
  split
  · exact .pure nofun
  refine .bind fun _ => .bind fun audited => ?_
  split
  · exact .pure nofun
  refine .bind fun _ => .pure ?_
  rintro _ ⟨⟩
  exact hcaptured _ rfl

theorem always_stages :
    Always (p.stages page endpoint url) fun r => ∀ f, r = .ok f → f.capture.Fits := by
  unfold stages
  refine .bind_of (always_inspect p page url) fun inspected hinspected => ?_
  split
  · exact .pure nofun
  refine .bind fun _ => .bind fun _ => .pure ?_
  rintro _ ⟨⟩
  exact hinspected _ rfl

end Pipeline

namespace SecondaryConfig

variable {config : SecondaryConfig} {reply : Reply String EngineReport} {slice : SecondaryResult}

/-- If an engine reports what engines report, so does its slice. -/
theorem Fills.sound (h : config.Fills reply slice)
    (hreply : ∀ report, reply.outcome = some (.ok report) → report.Sound) :
    slice.Sound ∧ slice.rawDepth < Json.depthLimit := by
  by_cases hdelivers : ∃ report, config.Delivers reply report
  · obtain ⟨report, hreport⟩ := hdelivers
    have hsound := hreply report hreport.2.1
    obtain ⟨members, hmembers⟩ := hsound.isObject
    obtain ⟨hscores, hraw⟩ := h.delivered report hreport
    refine ⟨⟨fun s hs => ?_, fun v hv => ?_⟩, ?_⟩
    · rw [hscores] at hs
      cases hs
      exact hsound.scores
    · rw [hraw] at hv
      cases hv
      exact ⟨hsound.raw, by simp [hmembers]⟩
    · rw [SecondaryResult.rawDepth, hraw]
      exact hsound.raw.depth
  · obtain ⟨-, hscores, hraw⟩ := h.bare hdelivers
    refine ⟨⟨by simp [hscores], by simp [hraw]⟩, ?_⟩
    rw [SecondaryResult.rawDepth, hraw]
    decide

end SecondaryConfig

namespace Pipeline

variable {σ : Type} (p : Pipeline) (binary : String)
  (program : List String → Reply String ProgramOutput) (identity : ScanIdentity) (page : Page σ)
  (endpoint : BrowserEndpoint) (request : ScanRequest) (s : σ)

/-- A report is made up of what the stages found. -/
theorem exists_of_run {r : ScanReport}
    (h : (p.run identity page endpoint request (World.start s)).1 = .ok r) :
    ∃ w w₁ f, p.stages page endpoint request.url w = (.ok f, w₁) ∧
      r = f.report identity request := by
  obtain ⟨w, -, hrun⟩ := run_of_stages page endpoint identity request s
  obtain ⟨found, w₁, hstages⟩ : ∃ found w₁, p.stages page endpoint request.url w = (found, w₁) :=
    ⟨_, _, rfl⟩
  obtain ⟨w₂, hran, -⟩ := hrun p found w₁ hstages
  rw [hran] at h
  cases found with
  | error e => cases h
  | ok f =>
    cases h
    exact ⟨w, w₁, f, hstages, rfl⟩

/-- What a scan with such an engine reports fits where it is written, if positions do. -/
theorem sound_of_run {r : ScanReport}
    (h : ((p.withEngine (.lighthouse binary program)).run identity page endpoint request
      (World.start s)).1 = .ok r) (hindex : ∀ q ∈ r.heatmap, q.index < Nat.pow 2 64) :
    r.Sound ∧ r.secondaryAudit.rawDepth < Json.depthLimit := by
  obtain ⟨w, w₁, f, hstages, rfl⟩ := exists_of_run _ identity page endpoint request s h
  have hfits := always_stages (p.withEngine (.lighthouse binary program)) page request.url endpoint
    w f (by rw [hstages])
  obtain ⟨hslice, hdepth⟩ := (fills_of_stages _ page request.url endpoint hstages).sound
    fun report hreport => SecondaryEngine.sound_of_lighthouse hreport
  exact ⟨⟨hfits.pageWidth, hfits.pageHeight, hindex, hslice⟩, hdepth⟩

/-- Whatever the page and the program of the second engine do: the report of a scan, written in
either form, is read back as that report if two levels more are not too deep for what the program
printed, and is refused if they are. The identifier, the time and the floats in it are taken to be
read back, and positions to be machine words. -/
theorem run_readback {r : ScanReport}
    (h : ((p.withEngine (.lighthouse binary program)).run identity page endpoint request
      (World.start s)).1 = .ok r) (hindex : ∀ q ∈ r.heatmap, q.index < Nat.pow 2 64)
    (hparts : r.PartsReadBack) {text : String}
    (htext : text = r.toJson.compact ∨ text = r.toJson.indented) :
    r.secondaryAudit.rawDepth < Json.depthLimit ∧
      ScanReport.ofText text = if r.secondaryAudit.rawDepth + 2 < Json.depthLimit then .ok r
        else .error (.fault .tooDeep) := by
  obtain ⟨hsound, hdepth⟩ := sound_of_run p binary program identity page endpoint request s h hindex
  exact ⟨hdepth, ScanReport.ofText_toJson hsound hparts htext⟩

/-! ## A scan of a shop -/

section Shop

open Json (Value)

/-- A shop whose image has no text. -/
def shopPage : SimulatedPage where
  width := 64
  height := 48
  elements := [("#hero", ⟨12.5, 0.5, 12.5, 12.5⟩)]
  audit := .payload <| .object
    [("violations", .array
      [.object
        [("id", .string "image-alt"), ("impact", .string "critical"),
          ("description", .string "Images need a text"), ("help", .string "Add a text"),
          ("nodes", .array [.object [("target", .array [.string "#hero"])]])]])]

/-- What the program prints of the shop: scores, and these audits. -/
def shopOutput (audits : Value) : Value :=
  let category (name : String) : String × Value :=
    (name, .object [("score", .number (.float 0.5))])
  .object
    [("audits", audits),
      ("categories", .object
        [category "accessibility", category "best-practices", category "performance",
          category "seo"])]

/-- The program that prints this of the shop. -/
def shopProgram (audits : Value) (_ : List String) : Reply String ProgramOutput :=
  ⟨1500, some (.ok ⟨Text.utf8 (shopOutput audits).compact, [], some 0⟩)⟩

/-- What a scan of the shop works with; it is given a second engine. -/
def shopPipeline : Pipeline where
  config := {}
  ruleEngine := ⟨"window.axe = \x7b\x7d"⟩
  secondaryEngine _ := .never

/-- A scan of the shop on a morning in March. -/
def shopIdentity : ScanIdentity where
  id := ⟨[0x5b, 0x1c, 0x2f, 0x5e, 0x7c, 0x1d, 0x4a, 0x57, 0x9a, 0x2a, 0x0c, 0x8e, 0, 0, 0, 1]⟩
  timeAt _ := ⟨Calendar.dayNumber 2026 3 14, 34200, 0⟩

/-- The scan of the shop with this engine. -/
def shopScan (engine : SecondaryEngine) : Except ScanError ScanReport × World SimulatedPage :=
  (shopPipeline.withEngine engine).run shopIdentity SimulatedPage.page SimulatedPage.endpoint
    ⟨"https://shop.example.com/"⟩ (World.start shopPage)

/-- What the report on the shop says, as far as it matters for reading it back. -/
structure IsShopReport (depth : Nat) (r : ScanReport) : Prop where
  scanId : r.scanId = shopIdentity.id
  timestamp : r.timestamp = shopIdentity.timeAt 0
  index : r.heatmap.map HeatmapPoint.index = [0]
  floats : r.floats = [12.5, 0.5, 12.5, 12.5, 0.5, 0.5, 0.5, 0.5]
  rawDepth : r.secondaryAudit.rawDepth = depth

instance (depth : Nat) : DecidablePred (IsShopReport depth) := fun r =>
  decidable_of_iff
    (r.scanId = shopIdentity.id ∧ r.timestamp = shopIdentity.timeAt 0 ∧
      r.heatmap.map HeatmapPoint.index = [0] ∧
      r.floats = [12.5, 0.5, 12.5, 12.5, 0.5, 0.5, 0.5, 0.5] ∧ r.secondaryAudit.rawDepth = depth)
    ⟨fun ⟨h₁, h₂, h₃, h₄, h₅⟩ => ⟨h₁, h₂, h₃, h₄, h₅⟩,
      fun ⟨h₁, h₂, h₃, h₄, h₅⟩ => ⟨h₁, h₂, h₃, h₄, h₅⟩⟩

/-- A result that passes a check. -/
theorem exists_ok_of_any {ε α : Type} {x : Except ε α} {P : α → Prop} [DecidablePred P]
    (h : x.toOption.any (fun a => decide (P a)) = true) : ∃ a, x = .ok a ∧ P a := by
  cases x with
  | error e => cases h
  | ok a => exact ⟨a, rfl, of_decide_eq_true h⟩

theorem readsBack_twelveAndHalf : (Json.Number.float 12.5).ReadsBack :=
  ⟨⟨false, ['1', '2'], some ['5'], none⟩, rfl, by unfold Json.Numeral.value Json.Numeral.scale; rfl⟩

theorem readsBack_half : (Json.Number.float 0.5).ReadsBack :=
  ⟨⟨false, ['0'], some ['5'], none⟩, rfl, by unfold Json.Numeral.value Json.Numeral.scale; rfl⟩

theorem IsShopReport.index_lt {depth : Nat} {r : ScanReport} (h : IsShopReport depth r) :
    ∀ q ∈ r.heatmap, q.index < Nat.pow 2 64 := by
  intro q hq
  have hmem : q.index ∈ r.heatmap.map HeatmapPoint.index := List.mem_map_of_mem hq
  rw [h.index, List.mem_singleton] at hmem
  rw [hmem]
  decide

theorem IsShopReport.partsReadBack {depth : Nat} {r : ScanReport} (h : IsShopReport depth r) :
    r.PartsReadBack where
  scanId := by
    rw [h.scanId]
    rfl
  timestamp := by
    obtain ⟨t, ht, rfl⟩ : ∃ t, Timestamp.ofText (shopIdentity.timeAt 0).text = .ok t ∧
      t = shopIdentity.timeAt 0 := exists_ok_of_any (by decide +kernel)
    rw [h.timestamp, ht]
  floats := by
    rw [h.floats]
    simp [readsBack_half, readsBack_twelveAndHalf]

/-- What the program prints is read as it was meant. -/
theorem lighthouse_shopProgram {audits : Value} (hlegible : audits.Legible)
    (hnormal : audits.normal = audits) (hdepth : audits.depth + 1 < Json.depthLimit) :
    SecondaryEngine.lighthouse "lighthouse" (shopProgram audits) = fun _ =>
      ⟨1500, some ((EngineReport.ofJson (shopOutput audits)).mapError
        LighthouseError.message)⟩ := by
  have houtput : (shopOutput audits).Legible := by
    simp [shopOutput, hlegible, readsBack_half]
  have hsorted : (shopOutput audits).normal = shopOutput audits :=
    Value.normal_object_of_sortedKeys
      (List.pairwise_pair.2 (by decide : "audits" < "categories"))
      (List.forall_mem_cons.2 ⟨hnormal, List.forall_mem_singleton.2 rfl⟩)
  have hmax : (shopOutput audits).depth = max audits.depth 2 + 1 := rfl
  have hlimit : (shopOutput audits).depth < Json.depthLimit := by
    simp only [hmax, Json.depthLimit] at hdepth ⊢
    omega
  funext request
  show (⟨1500, some ((EngineReport.ofRun "lighthouse"
    (.ok ⟨Text.utf8 (shopOutput audits).compact, [], some 0⟩)).mapError _)⟩ : Reply _ _) = _
  rw [EngineReport.ofRun_compact "lighthouse" houtput hsorted hlimit]

/-- Arrays in an array, so many deep. -/
def nested : Nat → Value
  | 0 => .array []
  | n + 1 => .array [nested n]

theorem legible_nested (n : Nat) : (nested n).Legible := by
  induction n with
  | zero => simp [nested]
  | succ n ih => simp [nested, ih]

theorem normal_nested (n : Nat) : (nested n).normal = nested n := by
  induction n with
  | zero => rfl
  | succ n ih => rw [nested, Value.normal_array, List.map_singleton, ih]

theorem depth_nested (n : Nat) : (nested n).depth = n + 1 := by
  induction n with
  | zero => rfl
  | succ n ih => rw [nested, Value.depth, Value.depthOfItems, Value.depthOfItems, ih, Nat.max_zero]

/-- Audits as deep as a text may nest are read off what the program prints. -/
theorem lighthouse_nested {n : Nat} (hn : n + 2 < Json.depthLimit) :
    SecondaryEngine.lighthouse "lighthouse" (shopProgram (nested n)) = fun _ =>
      ⟨1500, some ((EngineReport.ofJson (shopOutput (nested n))).mapError
        LighthouseError.message)⟩ :=
  lighthouse_shopProgram (legible_nested n) (normal_nested n) (by rwa [depth_nested])

/-- What stands 127 deep in the report is read. -/
theorem run_readback_shop : ∃ r,
    (shopScan (.lighthouse "lighthouse" (shopProgram (nested 123)))).1 = .ok r ∧
      IsShopReport 125 r ∧ ScanReport.ofText r.toJson.indented = .ok r := by
  obtain ⟨r, hr, hshop⟩ : ∃ r,
      (shopScan (.lighthouse "lighthouse" (shopProgram (nested 123)))).1 = .ok r ∧
        IsShopReport 125 r := by
    rw [lighthouse_nested (by decide)]
    exact exists_ok_of_any (by decide +kernel)
  obtain ⟨-, hread⟩ := run_readback shopPipeline "lighthouse" (shopProgram (nested 123))
    shopIdentity SimulatedPage.page SimulatedPage.endpoint ⟨"https://shop.example.com/"⟩ shopPage
    hr hshop.index_lt hshop.partsReadBack (.inr rfl)
  rw [hshop.rawDepth] at hread
  exact ⟨r, hr, hshop, hread⟩

/-- What stands 128 deep is not: the program may print it, and the report is written. -/
theorem not_readback_shop : ∃ r,
    (shopScan (.lighthouse "lighthouse" (shopProgram (nested 124)))).1 = .ok r ∧
      IsShopReport 126 r ∧ r.PartsReadBack ∧
      ScanReport.ofText r.toJson.compact = .error (.fault .tooDeep) ∧
      ScanReport.ofText r.toJson.indented = .error (.fault .tooDeep) := by
  obtain ⟨r, hr, hshop⟩ : ∃ r,
      (shopScan (.lighthouse "lighthouse" (shopProgram (nested 124)))).1 = .ok r ∧
        IsShopReport 126 r := by
    rw [lighthouse_nested (by decide)]
    exact exists_ok_of_any (by decide +kernel)
  obtain ⟨hsound, -⟩ := sound_of_run shopPipeline "lighthouse" (shopProgram (nested 124))
    shopIdentity SimulatedPage.page SimulatedPage.endpoint ⟨"https://shop.example.com/"⟩ shopPage hr
    hshop.index_lt
  have hread {text : String} (htext : text = r.toJson.compact ∨ text = r.toJson.indented) :
      ScanReport.ofText text = .error (.fault .tooDeep) := by
    rw [ScanReport.ofText_toJson hsound hshop.partsReadBack htext, hshop.rawDepth]
    rfl
  exact ⟨r, hr, hshop, hshop.partsReadBack, hread (.inl rfl), hread (.inr rfl)⟩

end Shop

end Pipeline

end PageScan

import PageScan.Proofs.Audit.Groups
import PageScan.Proofs.Export.Lines
import PageScan.Report.Summary

/-!
# The same totals everywhere

The line for a terminal takes its numbers from the groups of an audit, the document takes them from
the counts. A reader sees the same numbers in both.

* `impactSummary_eq`: the line, in terms of the counts.
* `filterMap_summary?_blocks`, `texts_summary`: what the document says of the counts, and that it
  says it once.
* `groupByImpact_totals`: groups, counts, line and document together.
-/

namespace PageScan

/-- The count of a tier, for a reader. -/
def ImpactCounts.label (c : ImpactCounts) (i : Impact) : String :=
  toString (c.get i) ++ " " ++ i.name

namespace ScanReport

variable (r : ScanReport)

theorem groupByImpact_isEmpty_iff (a : AuditResult) :
    a.groupByImpact.isEmpty = true ↔ a.impactCounts.total = 0 := by
  rw [a.total_impactCounts, ← a.perm_grouped.length_eq, List.length_eq_zero_iff,
    List.isEmpty_iff, AuditResult.grouped, List.flatMap_eq_nil_iff]
  constructor
  · intro h
    simp [h]
  · intro h
    refine List.eq_nil_iff_forall_not_mem.2 fun g hg => ?_
    exact (a.mem_groupByImpact_iff.1 hg).2 (h g hg)

/-- The line names the tiers that have violations, the gravest first. -/
theorem impactSummary_eq :
    r.impactSummary =
      if r.audit.impactCounts.total = 0 then "clean"
      else Text.join ", " <|
        (Impact.descending.filter fun i => 0 < r.audit.impactCounts.get i).map
          r.audit.impactCounts.label := by
  have hlabels : r.audit.groupByImpact.map
      (fun g => toString g.violations.length ++ " " ++ g.impact.name) =
      (Impact.descending.filter fun i => 0 < r.audit.impactCounts.get i).map
        r.audit.impactCounts.label := by
    rw [AuditResult.groupByImpact_eq, List.map_map]
    have hfilter (i : Impact) :
        (!(r.audit.tier i).isEmpty) = decide (0 < r.audit.impactCounts.get i) := by
      rw [AuditResult.get_impactCounts]
      cases r.audit.tier i <;> simp
    simp only [hfilter]
    refine List.map_congr_left fun i _ => ?_
    simp [ImpactCounts.label, AuditResult.get_impactCounts]
  rw [impactSummary, hlabels]
  by_cases h : r.audit.impactCounts.total = 0
  · rw [if_pos h, if_pos ((groupByImpact_isEmpty_iff r.audit).2 h)]
  · rw [if_neg h, if_neg (mt (groupByImpact_isEmpty_iff r.audit).1 h)]

end ScanReport

namespace Export

/-- The counts that a block shows, if it is the one for them. -/
def Block.summary? : Block → Option (ImpactCounts × Nat)
  | .summary counts nodes => some (counts, nodes)
  | _ => none

theorem blocks_ofReport (r : ScanReport) :
    (Layout.ofReport r).blocks = findings r ++ picture r ++ closing r := by
  simp [Layout.blocks, Layout.ofReport, sections, blocks_place]

theorem filterMap_summary?_cardsOf (a : AuditResult) :
    (cardsOf a).filterMap Block.summary? = [] := by
  refine List.filterMap_eq_nil_iff.2 fun b hb => ?_
  unfold cardsOf at hb
  split at hb
  · rw [List.mem_singleton.1 hb]
    rfl
  · obtain ⟨⟨v, i⟩, -, rfl⟩ := List.mem_map.1 hb
    rfl

/-- The document shows the counts once. -/
theorem filterMap_summary?_blocks (r : ScanReport) :
    (Layout.ofReport r).blocks.filterMap Block.summary? =
      [(r.audit.impactCounts, r.audit.nodeCount)] := by
  have hnotice : (noticeOf r.secondaryAudit).filterMap Block.summary? = [] := by
    refine List.filterMap_eq_nil_iff.2 fun b hb => ?_
    rw [(mem_noticeOf.1 hb).2]
    rfl
  have hpicture : (Block.ofScreenshot r.screenshot).summary? = none := by
    have hshows := showsPicture_ofScreenshot r.screenshot
    generalize Block.ofScreenshot r.screenshot = b at hshows ⊢
    cases hshows <;> rfl
  have hfindings : (findings r).filterMap Block.summary? =
      [(r.audit.impactCounts, r.audit.nodeCount)] := by
    simp [findings, Block.summary?, List.filterMap_cons, hnotice, filterMap_summary?_cardsOf]
  rw [blocks_ofReport, List.filterMap_append, List.filterMap_append, hfindings, picture,
    List.filterMap_cons_none rfl, List.filterMap_cons_none hpicture]
  rfl

/-- What is written in a row of tiers. -/
theorem texts_tierRow (counts : ImpactCounts) (top left : Float32) (tiers : List Impact) :
    ((tierRow counts top left tiers).filterMap Shape.textLine?).map (·.text) =
      tiers.map counts.label := by
  induction tiers generalizing left with
  | nil => rfl
  | cons i rest ih =>
    rw [tierRow, List.filterMap_cons_none rfl,
      List.filterMap_cons_some (textLine?_written _ _ _ _ _ _), List.map_cons, ih]
    rfl

/-- What is written in the block for the counts. -/
theorem texts_summary (counts : ImpactCounts) (nodes : Nat) (edge : HalfMm) :
    (((Block.summary counts nodes).shapes edge).filterMap Shape.textLine?).map (·.text) =
      Impact.descending.map counts.label ++
        [toString counts.total ++ " violations, " ++ toString nodes ++ " elements"] := by
  rw [Block.shapes, List.filterMap_append, List.map_append, texts_tierRow]
  rfl

end Export

/-- The groups of an audit, one after another, are its violations with the graver ones first and
otherwise in their order. No group is empty, no tier has two, and a group is as large as the count
of its tier. So the line for a terminal and the document give the same numbers for every report. -/
theorem groupByImpact_totals (a : AuditResult) :
    a.grouped.Perm a.violations ∧
      a.grouped.Pairwise (fun v w => w.impact.weight ≤ v.impact.weight) ∧
      (∀ i, a.grouped.filter (fun v => v.impact = i) =
        a.violations.filter fun v => v.impact = i) ∧
      (∀ g ∈ a.groupByImpact, g.violations ≠ [] ∧ (∀ v ∈ g.violations, v.impact = g.impact) ∧
        g.violations.length = a.impactCounts.get g.impact) ∧
      a.groupByImpact.Pairwise (fun g h => h.impact.weight < g.impact.weight) ∧
      (∀ i, (∀ g ∈ a.groupByImpact, g.impact ≠ i) → a.impactCounts.get i = 0) ∧
      a.impactCounts.total = a.violations.length ∧
      ∀ r : ScanReport, r.audit = a →
        r.summary = r.url ++ ": " ++ toString a.impactCounts.total ++ " violations (" ++
            (if a.impactCounts.total = 0 then "clean"
              else Text.join ", " <|
                (Impact.descending.filter fun i => 0 < a.impactCounts.get i).map
                  a.impactCounts.label) ++
            "), " ++ toString r.heatmap.length ++ " heatmap points, " ++ r.scoreSummary ∧
          (Export.Layout.ofReport r).blocks.filterMap Export.Block.summary? =
            [(a.impactCounts, a.nodeCount)] ∧
          ∀ edge, (((Export.Block.summary a.impactCounts a.nodeCount).shapes edge).filterMap
              Export.Shape.textLine?).map (·.text) =
            Impact.descending.map a.impactCounts.label ++
              [toString a.impactCounts.total ++ " violations, " ++ toString a.nodeCount ++
                " elements"] := by
  refine ⟨a.perm_grouped, a.pairwise_grouped, a.filter_grouped, fun g hg => ?_,
    a.pairwise_groupByImpact, fun i hi => ?_, a.total_impactCounts, ?_⟩
  · obtain ⟨htier, hsome⟩ := a.mem_groupByImpact_iff.1 hg
    refine ⟨hsome, fun v hv => a.impact_eq_of_mem_tier (htier ▸ hv), ?_⟩
    rw [a.get_impactCounts, ← htier]
  · rw [a.get_impactCounts, a.tier_eq_nil hi, List.length_nil]
  · rintro r rfl
    refine ⟨?_, Export.filterMap_summary?_blocks r, Export.texts_summary _ _⟩
    rw [ScanReport.summary, r.impactSummary_eq, r.audit.total_impactCounts]

end PageScan

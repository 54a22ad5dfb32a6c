import Mathlib.Data.List.Perm.Basic
import PageScan.Audit.Result

/-!
# Violations by impact

An audit is counted in one pass and grouped in four. Both give the same numbers.

* `mem_groupByImpact_iff`: a group holds the violations of its tier, and there are some.
* `filter_grouped`, `perm_grouped`, `pairwise_grouped`: the groups one after another are the
  violations in another order, in which those of a tier keep theirs.
* `get_impactCounts`, `total_impactCounts`: what the counts come to.
-/

namespace PageScan

/-! ## Tiers -/

namespace Impact

theorem mem_descending (i : Impact) : i ∈ descending := by
  cases i <;> decide

theorem pairwise_descending : descending.Pairwise fun i j => j.weight < i.weight := by
  decide

end Impact

/-! ## Counts -/

namespace ImpactCounts

variable (c : ImpactCounts) (i j : Impact)

theorem get_add : (c.add j).get i = c.get i + if j = i then 1 else 0 := by
  cases i <;> cases j <;> rfl

theorem total_add : (c.add j).total = c.total + 1 := by
  cases j <;> simp only [total, add] <;> omega

/-- Each violation is counted once, in its tier. -/
theorem get_foldl (violations : List Violation) :
    (violations.foldl (fun counts v => counts.add v.impact) c).get i =
      c.get i + (violations.filter fun v => v.impact = i).length := by
  induction violations generalizing c with
  | nil => rfl
  | cons v rest ih =>
    rw [List.foldl_cons, ih, get_add, List.filter_cons]
    by_cases h : v.impact = i
    · simp [h]
      omega
    · simp [h]

theorem total_foldl (violations : List Violation) :
    (violations.foldl (fun counts v => counts.add v.impact) c).total =
      c.total + violations.length := by
  induction violations generalizing c with
  | nil => rfl
  | cons v rest ih =>
    rw [List.foldl_cons, ih, total_add, List.length_cons]
    omega

end ImpactCounts

namespace AuditResult

variable (a : AuditResult) {i : Impact} {g : ImpactGroup}

/-- The violations of a tier, in the order of the audit. -/
def tier (i : Impact) : List Violation :=
  a.violations.filter fun v => v.impact = i

theorem impact_eq_of_mem_tier {v : Violation} (h : v ∈ a.tier i) : v.impact = i := by
  simpa using (List.mem_filter.1 h).2

theorem get_impactCounts (i : Impact) : a.impactCounts.get i = (a.tier i).length := by
  have hcount := ImpactCounts.zero.get_foldl i a.violations
  have hzero : ImpactCounts.zero.get i = 0 := by cases i <;> rfl
  rwa [hzero, Nat.zero_add] at hcount

theorem total_impactCounts : a.impactCounts.total = a.violations.length := by
  have htotal := ImpactCounts.zero.total_foldl a.violations
  rwa [show ImpactCounts.zero.total = 0 from rfl, Nat.zero_add] at htotal

/-! ## Groups -/

/-- There is a group for each tier that has violations. -/
theorem groupByImpact_eq :
    a.groupByImpact =
      (Impact.descending.filter fun i => !(a.tier i).isEmpty).map fun i => ⟨i, a.tier i⟩ := by
  rw [groupByImpact, List.filter_map]
  rfl

theorem mem_groupByImpact_iff :
    g ∈ a.groupByImpact ↔ g.violations = a.tier g.impact ∧ g.violations ≠ [] := by
  rw [groupByImpact_eq, List.mem_map]
  constructor
  · rintro ⟨i, hi, rfl⟩
    have hsome := (List.mem_filter.1 hi).2
    exact ⟨rfl, by simpa using hsome⟩
  · rintro ⟨htier, hsome⟩
    refine ⟨g.impact, List.mem_filter.2 ⟨g.impact.mem_descending, ?_⟩, ?_⟩
    · rw [htier] at hsome
      simpa using hsome
    · rw [← htier]

/-- A tier that no group stands for has no violations. -/
theorem tier_eq_nil (h : ∀ g ∈ a.groupByImpact, g.impact ≠ i) : a.tier i = [] := by
  by_contra hsome
  exact h ⟨i, a.tier i⟩ (a.mem_groupByImpact_iff.2 ⟨rfl, hsome⟩) rfl

/-- Graver tiers come first, so that no tier has two groups. -/
theorem pairwise_groupByImpact :
    a.groupByImpact.Pairwise fun g h => h.impact.weight < g.impact.weight := by
  rw [groupByImpact_eq, List.pairwise_map]
  exact Impact.pairwise_descending.filter _

/-- The violations in the order of the groups. -/
def grouped : List Violation :=
  a.groupByImpact.flatMap (·.violations)

/-- Tiers without violations add nothing. -/
theorem grouped_eq : a.grouped = Impact.descending.flatMap a.tier := by
  rw [grouped, groupByImpact_eq, List.flatMap_map]
  induction Impact.descending with
  | nil => rfl
  | cons i rest ih =>
    rw [List.flatMap_cons, List.filter_cons, ← ih]
    by_cases h : a.tier i = []
    · simp [h]
    · simp [h]

/-- The violations of a tier keep their order. -/
theorem filter_grouped (i : Impact) : a.grouped.filter (fun v => v.impact = i) = a.tier i := by
  have hother {j : Impact} (hj : j ≠ i) : (a.tier j).filter (fun v => v.impact = i) = [] := by
    refine List.filter_eq_nil_iff.2 fun v hv => ?_
    rw [a.impact_eq_of_mem_tier hv]
    simpa using hj
  have hself : (a.tier i).filter (fun v => v.impact = i) = a.tier i :=
    List.filter_eq_self.2 fun v hv => by simpa using a.impact_eq_of_mem_tier hv
  rw [grouped_eq]
  cases i <;> simp [Impact.descending, hother, hself]

theorem perm_grouped : a.grouped.Perm a.violations := by
  -- a violation is as often in the list as in its own tier
  rw [List.perm_iff_count]
  intro v
  have htier := congrArg (List.count v) (a.filter_grouped v.impact)
  rwa [List.count_filter (by simp), tier, List.count_filter (by simp)] at htier

theorem pairwise_grouped :
    a.grouped.Pairwise fun v w => w.impact.weight ≤ v.impact.weight := by
  rw [grouped, List.pairwise_flatMap]
  have hgroup {g : ImpactGroup} (hg : g ∈ a.groupByImpact) {v : Violation}
      (hv : v ∈ g.violations) : v.impact = g.impact := by
    rw [(a.mem_groupByImpact_iff.1 hg).1] at hv
    exact a.impact_eq_of_mem_tier hv
  -- one weight within a group, falling weights from group to group
  constructor
  · intro g hg
    refine List.pairwise_of_forall_mem_list fun v hv w hw => ?_
    exact Nat.le_of_eq (by rw [hgroup hg hv, hgroup hg hw])
  · refine a.pairwise_groupByImpact.imp_of_mem fun {g h} hg hh hlt v hv w hw => ?_
    rw [hgroup hg hv, hgroup hh hw]
    exact Nat.le_of_lt hlt

end AuditResult

end PageScan

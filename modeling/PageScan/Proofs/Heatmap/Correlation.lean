import PageScan.Heatmap.Correlation

/-!
# Which elements are looked up, and which points come of it

The counter that is threaded through violations and their elements is the position of an element in
the audit as a whole. An audit thus says beforehand which lookups there are, each with its number,
its violation and its selector (`AuditResult.lookups`), and the answers are put behind that.

* `locate_eq`: in every monad the two loops are one traversal of the lookups.
* `Correlation.Correlates`: which calls are made about elements, and which points come of the
  answers.
* `ofAudit_recorded`: a resolver with a state gets these calls, and these points come of them.
-/

namespace PageScan

/-! ## What is said of an element -/

namespace ViolationNode

/-- The selector that an element is looked up by is the first it has, unless that is empty. -/
def SoughtBy (n : ViolationNode) (selector : String) : Prop :=
  selector ≠ "" ∧ ∃ others, n.target = selector :: others

theorem primarySelector_eq_some_iff {n : ViolationNode} {selector : String} :
    n.primarySelector = some selector ↔ n.SoughtBy selector := by
  rw [primarySelector, SoughtBy]
  rcases n.target with _ | ⟨first, others⟩
  · simp
  · constructor
    · intro h
      obtain ⟨hne, hfirst⟩ := Option.ite_none_left_eq_some.1 h
      obtain rfl := Option.some.inj hfirst
      exact ⟨hne, others, rfl⟩
    · rintro ⟨hne, _, heq⟩
      obtain ⟨rfl, -⟩ := List.cons.inj heq
      exact if_neg hne

end ViolationNode

namespace Violation

/-- The headline of a violation is its help, or its description if the help says nothing. -/
inductive Headline (v : Violation) : String → Prop
  | help (h : ∃ c ∈ v.help.toList, Text.isBlank c = false) : Headline v v.help
  | description (h : ∀ c ∈ v.help.toList, Text.isBlank c = true) : Headline v v.description

theorem headline_headline (v : Violation) : v.Headline v.headline := by
  rw [headline, Text.isBlankText]
  split
  · next hblank => exact .description (List.all_eq_true.1 hblank)
  · next hblank =>
    refine .help ?_
    simpa using hblank

end Violation

/-- The point marks the element at a position in the audit: it has the box that was found for it,
and tells the impact and the headline of its violation. -/
structure HeatmapPoint.Marks (p : HeatmapPoint) (index : Nat) (v : Violation)
    (g : ElementGeometry) : Prop where
  index_eq : p.index = index
  left_eq : p.left = g.left
  top_eq : p.top = g.top
  width_eq : p.width = g.width
  height_eq : p.height = g.height
  impact_eq : p.impact = v.impact
  headline : v.Headline p.description

theorem HeatmapPoint.marks_ofElement (index : Nat) (v : Violation) (g : ElementGeometry) :
    (ofElement index v g).Marks index v g :=
  ⟨rfl, rfl, rfl, rfl, rfl, rfl, v.headline_headline⟩

/-! ## Lookups -/

/-- An element that is looked up: its position in the audit, its violation, and its selector. -/
structure Lookup where
  index : Nat
  violation : Violation
  selector : String

/-- The elements of violations, each with its violation, in order. -/
def Violation.elements (vs : List Violation) : List (Violation × ViolationNode) :=
  vs.flatMap fun v => v.nodes.map fun n => (v, n)

/-- The lookup of an element, if it has a selector that is not empty. -/
def Lookup.ofElement? : (Violation × ViolationNode) × Nat → Option Lookup
  | ((v, n), index) => n.primarySelector.map fun selector => ⟨index, v, selector⟩

namespace Lookup

/-- The point of a lookup, if the element was found. -/
def point (l : Lookup) (found : Option ElementGeometry) : Option HeatmapPoint :=
  found.map (HeatmapPoint.ofElement l.index l.violation)

/-- The lookups of elements that are numbered from `index` on. -/
def listFrom (index : Nat) (elements : List (Violation × ViolationNode)) : List Lookup :=
  (elements.zipIdx index).filterMap ofElement?

theorem listFrom_append (index : Nat) (xs ys : List (Violation × ViolationNode)) :
    listFrom index (xs ++ ys) = listFrom index xs ++ listFrom (index + xs.length) ys := by
  rw [listFrom, List.zipIdx_append, List.filterMap_append]
  rfl

section Cons

variable {v : Violation} {n : ViolationNode} {index : Nat}
  {elements : List (Violation × ViolationNode)}

theorem listFrom_cons_of_none (h : n.primarySelector = none) :
    listFrom index ((v, n) :: elements) = listFrom (index + 1) elements := by
  simp [listFrom, ofElement?, h]

theorem listFrom_cons_of_some {selector : String} (h : n.primarySelector = some selector) :
    listFrom index ((v, n) :: elements) =
      ⟨index, v, selector⟩ :: listFrom (index + 1) elements := by
  simp [listFrom, ofElement?, h]

end Cons

end Lookup

namespace AuditResult

/-- The lookups of an audit, in order. -/
def lookups (a : AuditResult) : List Lookup :=
  Lookup.listFrom 0 (Violation.elements a.violations)

theorem length_elements (a : AuditResult) :
    (Violation.elements a.violations).length = a.nodeCount := by
  simp [Violation.elements, nodeCount, List.length_flatMap, List.sum]

end AuditResult

namespace Correlation

/-! ## Two loops are one traversal -/

section Traversal

variable {m : Type → Type} [Monad m]

/-- Makes one lookup, and the point of what is found. -/
def pointAt (resolve : String → m (Option ElementGeometry)) (l : Lookup) :
    m (Option HeatmapPoint) :=
  l.point <$> resolve l.selector

variable [LawfulMonad m] (resolve : String → m (Option ElementGeometry))

/-- An element is looked up if it has a lookup, and is not found otherwise. -/
theorem geometryOf_eq (v : Violation) (n : ViolationNode) (index : Nat) :
    (fun found => (found.map (HeatmapPoint.ofElement index v)).toList) <$> geometryOf resolve n =
      (fun found => found.filterMap id) <$>
        (Lookup.listFrom index [(v, n)]).mapM (pointAt resolve) := by
  rcases h : n.primarySelector with _ | selector
  · have hnone : Lookup.listFrom index [(v, n)] = [] := Lookup.listFrom_cons_of_none h
    simp [geometryOf, h, hnone]
  · have hsome : Lookup.listFrom index [(v, n)] = [⟨index, v, selector⟩] :=
      Lookup.listFrom_cons_of_some h
    have hsingle (found : Option HeatmapPoint) : found.toList = [found].filterMap id := by
      cases found <;> rfl
    have hmapM : [⟨index, v, selector⟩].mapM (pointAt resolve) =
        (fun found => [found]) <$> pointAt resolve ⟨index, v, selector⟩ := by
      rw [List.mapM_cons, List.mapM_nil, map_eq_pure_bind]
      simp only [pure_bind]
    rw [hsome, hmapM, pointAt, Functor.map_map, Functor.map_map]
    simp only [geometryOf, h, Lookup.point, hsingle]

theorem locateNodes_cons (v : Violation) (n : ViolationNode) (rest : List ViolationNode)
    (index : Nat) :
    locateNodes resolve v index (n :: rest) = (do
      let points ← (fun found => (found.map (HeatmapPoint.ofElement index v)).toList) <$>
        geometryOf resolve n
      let (others, next) ← locateNodes resolve v (index + 1) rest
      return (points ++ others, next)) := by
  simp [locateNodes]

theorem locateNodes_eq (v : Violation) (ns : List ViolationNode) (index : Nat) :
    locateNodes resolve v index ns =
      (fun found => (found.filterMap id, index + ns.length)) <$>
        (Lookup.listFrom index (ns.map fun n => (v, n))).mapM (pointAt resolve) := by
  induction ns generalizing index with
  | nil => simp [locateNodes, Lookup.listFrom]
  | cons n rest ih =>
    have hcons : Lookup.listFrom index ((n :: rest).map fun n => (v, n)) =
        Lookup.listFrom index [(v, n)] ++ Lookup.listFrom (index + 1) (rest.map fun n => (v, n)) :=
      Lookup.listFrom_append index [(v, n)] (rest.map fun n => (v, n))
    -- the first element takes one number whether or not it is looked up
    have hnext : index + 1 + rest.length = index + (n :: rest).length := by
      simp only [List.length_cons]
      omega
    rw [locateNodes_cons, geometryOf_eq, ih, hcons, List.mapM_append, hnext]
    simp

theorem locate_eq (vs : List Violation) (index : Nat) :
    locate resolve index vs =
      (fun found => (found.filterMap id, index + (Violation.elements vs).length)) <$>
        (Lookup.listFrom index (Violation.elements vs)).mapM (pointAt resolve) := by
  induction vs generalizing index with
  | nil => simp [locate, Lookup.listFrom, Violation.elements]
  | cons v rest ih =>
    have hcons : Violation.elements (v :: rest) =
        (v.nodes.map fun n => (v, n)) ++ Violation.elements rest := List.flatMap_cons
    rw [locate, locateNodes_eq, hcons, Lookup.listFrom_append, List.mapM_append]
    simp [ih, Nat.add_assoc]

/-- Correlation is one traversal of the lookups of an audit. -/
theorem ofAudit_eq (audit : AuditResult) :
    ofAudit resolve audit =
      (fun found => ⟨found.filterMap id, audit.nodeCount⟩) <$>
        audit.lookups.mapM (pointAt resolve) := by
  rw [ofAudit, locate_eq, audit.length_elements]
  simp [AuditResult.lookups]

end Traversal

/-! ## What a resolver with a state is asked -/

section Recorded

variable {τ : Type} (resolve : String → StateM τ (Option ElementGeometry))

/-- A resolver that also keeps a record of its calls, each with its answer. -/
def recorded (selector : String) :
    StateM (τ × List (String × Option ElementGeometry)) (Option ElementGeometry) :=
  fun (t, calls) =>
    let (found, t') := resolve selector t
    (found, (t', calls ++ [(selector, found)]))

/-- The points of lookups with these answers. -/
def pointsOf (lookups : List Lookup) (answers : List (Option ElementGeometry)) :
    List HeatmapPoint :=
  (lookups.zip answers).filterMap fun (l, found) => l.point found

theorem map_apply {υ α β : Type} {f : α → β} {x : StateM υ α} {s s' : υ} {a : α}
    (h : x s = (a, s')) : (f <$> x) s = (f a, s') := by
  simp only [Functor.map, StateT.map, h]
  rfl

/-- A traversal in states goes from element to element. -/
theorem mapM_cons_apply {υ α β : Type} {f : α → StateM υ β} {x : α} {xs : List α} {s s₁ s₂ : υ}
    {b : β} {bs : List β} (hx : f x s = (b, s₁)) (hxs : xs.mapM f s₁ = (bs, s₂)) :
    (x :: xs).mapM f s = (b :: bs, s₂) := by
  rw [List.mapM_cons]
  simp only [bind, StateT.bind, hx, hxs]
  rfl

/-- A traversal calls the resolver once for each lookup, in order, and a record of that changes
nothing. -/
theorem mapM_recorded (lookups : List Lookup) (t : τ)
    (calls : List (String × Option ElementGeometry)) :
    ∃ answers t', answers.length = lookups.length ∧
      lookups.mapM (pointAt resolve) t =
        ((lookups.zip answers).map fun (l, found) => l.point found, t') ∧
      lookups.mapM (pointAt (recorded resolve)) (t, calls) =
        ((lookups.zip answers).map fun (l, found) => l.point found,
          (t', calls ++ (lookups.map (·.selector)).zip answers)) := by
  induction lookups generalizing t calls with
  | nil => exact ⟨[], t, rfl, rfl, by simp; rfl⟩
  | cons l rest ih =>
    rcases hcall : resolve l.selector t with ⟨found, t₁⟩
    have hpoint : pointAt resolve l t = (l.point found, t₁) := by
      show (l.point (resolve l.selector t).1, (resolve l.selector t).2) = _
      rw [hcall]
    have hrecord : pointAt (recorded resolve) l (t, calls) =
        (l.point found, (t₁, calls ++ [(l.selector, found)])) := by
      show (l.point (recorded resolve l.selector (t, calls)).1, _) = _
      rw [recorded, hcall]
    obtain ⟨answers, t', hlength, hrest, hrecorded⟩ := ih t₁ (calls ++ [(l.selector, found)])
    refine ⟨found :: answers, t', by simp [hlength], mapM_cons_apply hpoint hrest, ?_⟩
    rw [mapM_cons_apply hrecord hrecorded, List.append_assoc]
    rfl

end Recorded

/-! ## Calls and points -/

/-- What the elements from a position on are to be asked about, with the answer to each call, and
what points come of that. -/
inductive Correlates : Nat → List (Violation × ViolationNode) →
    List (String × Option ElementGeometry) → List HeatmapPoint → Prop
  | nil (index : Nat) : Correlates index [] [] []
  /-- An element that no selector leads to is not asked about. -/
  | unsought {index v n elements calls points} (h : ∀ selector, ¬n.SoughtBy selector)
      (rest : Correlates (index + 1) elements calls points) :
      Correlates index ((v, n) :: elements) calls points
  /-- One that is not found leaves a gap. -/
  | missing {index v n elements calls points selector} (h : n.SoughtBy selector)
      (rest : Correlates (index + 1) elements calls points) :
      Correlates index ((v, n) :: elements) ((selector, none) :: calls) points
  | found {index v n elements calls points selector g p} (h : n.SoughtBy selector)
      (hp : p.Marks index v g) (rest : Correlates (index + 1) elements calls points) :
      Correlates index ((v, n) :: elements) ((selector, some g) :: calls) (p :: points)

namespace Correlates

variable {index : Nat} {elements : List (Violation × ViolationNode)}
  {calls : List (String × Option ElementGeometry)} {points : List HeatmapPoint}

theorem index_bounds (h : Correlates index elements calls points) :
    ∀ p ∈ points, index ≤ p.index ∧ p.index < index + elements.length := by
  induction h with
  | nil => nofun
  | unsought _ _ ih | missing _ _ ih =>
    intro p hp
    have := ih p hp
    rw [List.length_cons]
    omega
  | found _ hp _ ih =>
    refine List.forall_mem_cons.2 ⟨?_, fun q hq => ?_⟩
    · rw [hp.index_eq, List.length_cons]
      omega
    · have := ih q hq
      rw [List.length_cons]
      omega

/-- Positions only grow. -/
theorem pairwise (h : Correlates index elements calls points) :
    points.Pairwise fun p q => p.index < q.index := by
  induction h with
  | nil => exact .nil
  | unsought _ _ ih | missing _ _ ih => exact ih
  | found _ hp rest ih =>
    refine .cons (fun q hq => ?_) ih
    rw [hp.index_eq]
    exact (rest.index_bounds q hq).1

theorem length_le (h : Correlates index elements calls points) :
    points.length ≤ elements.length := by
  induction h with
  | nil => exact Nat.le_refl 0
  | unsought _ _ ih | missing _ _ ih => exact Nat.le_succ_of_le ih
  | found _ _ _ ih => exact Nat.succ_le_succ ih

end Correlates

/-- Lookups that are answered correlate their elements. -/
theorem correlates_listFrom (index : Nat) (elements : List (Violation × ViolationNode))
    {answers : List (Option ElementGeometry)}
    (h : answers.length = (Lookup.listFrom index elements).length) :
    Correlates index elements
      (((Lookup.listFrom index elements).map (·.selector)).zip answers)
      (pointsOf (Lookup.listFrom index elements) answers) := by
  induction elements generalizing index answers with
  | nil => exact .nil index
  | cons x rest ih =>
    obtain ⟨v, n⟩ := x
    rcases hselector : n.primarySelector with _ | selector
    · rw [Lookup.listFrom_cons_of_none hselector] at h ⊢
      refine .unsought (fun selector hsought => ?_) (ih (index + 1) h)
      cases hselector.symm.trans (ViolationNode.primarySelector_eq_some_iff.2 hsought)
    · rw [Lookup.listFrom_cons_of_some hselector] at h ⊢
      have hsought := ViolationNode.primarySelector_eq_some_iff.1 hselector
      rcases answers with _ | ⟨answer, answers⟩
      · cases h
      have hrest := ih (index + 1) (Nat.succ.inj h)
      cases answer with
      | none => exact .missing hsought hrest
      | some g => exact .found hsought (HeatmapPoint.marks_ofElement index v g) hrest

/-! ## The points of an audit -/

/-- Correlation asks once about each element that a selector leads to, in the order of the audit,
and makes a point of each answer that finds the element: at the position of the element, with the
box of that very answer, and with the impact and the headline of the violation. So the positions of
the points grow and none is out of bounds. -/
theorem ofAudit_recorded {τ : Type} (resolve : String → StateM τ (Option ElementGeometry))
    (audit : AuditResult) (t : τ) :
    ∃ calls c t',
      ofAudit (recorded resolve) audit (t, []) = (c, (t', calls)) ∧
      ofAudit resolve audit t = (c, t') ∧
      Correlates 0 (Violation.elements audit.violations) calls c.points ∧
      c.visited = audit.nodeCount ∧
      audit.nodeCount = (Violation.elements audit.violations).length ∧
      (c.points.Pairwise fun p p' => p.index < p'.index) ∧
      (∀ p ∈ c.points, p.index < audit.nodeCount) ∧
      c.points.length ≤ c.visited ∧ c.dropped + c.points.length = audit.nodeCount := by
  obtain ⟨answers, t', hlength, hplain, hrecorded⟩ := mapM_recorded resolve audit.lookups t []
  have hpoints : ((audit.lookups.zip answers).map fun (l, found) => l.point found).filterMap id =
      pointsOf audit.lookups answers := by
    rw [List.filterMap_map]
    rfl
  have hcorrelates : Correlates 0 (Violation.elements audit.violations)
      ((audit.lookups.map (·.selector)).zip answers) (pointsOf audit.lookups answers) :=
    correlates_listFrom 0 _ hlength
  have hle : (pointsOf audit.lookups answers).length ≤ audit.nodeCount :=
    audit.length_elements ▸ hcorrelates.length_le
  refine ⟨_, ⟨pointsOf audit.lookups answers, audit.nodeCount⟩, t', ?_, ?_, hcorrelates, rfl,
    audit.length_elements.symm, hcorrelates.pairwise, fun p hp => ?_, hle, Nat.sub_add_cancel hle⟩
  · rw [ofAudit_eq, map_apply hrecorded, hpoints]
    rfl
  · rw [ofAudit_eq, map_apply hplain, hpoints]
  · have hlt := (hcorrelates.index_bounds p hp).2
    rwa [Nat.zero_add, audit.length_elements] at hlt

end Correlation

end PageScan

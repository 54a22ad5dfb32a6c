import PageScan.Audit.Result
import PageScan.Heatmap.Point

/-!
# Correlation

Every element of every violation is looked up on the page. Elements are numbered through in the
order of the audit; one that is not found leaves a gap.
-/

namespace PageScan

/-- The points that were found, and how many elements were visited. -/
structure Correlation where
  points : List HeatmapPoint
  visited : Nat

namespace Correlation

/-- How many elements were not found. -/
def dropped (c : Correlation) : Nat :=
  c.visited - c.points.length

end Correlation

/-- The point of the element with the given number. -/
def HeatmapPoint.ofElement (index : Nat) (v : Violation) (g : ElementGeometry) : HeatmapPoint :=
  ⟨index, g.left, g.top, g.width, g.height, v.impact, v.headline⟩

namespace Correlation

variable {m : Type → Type} [Monad m]

/-- Looks up an element by its first selector, if that says anything. -/
def geometryOf (resolve : String → m (Option ElementGeometry)) (n : ViolationNode) :
    m (Option ElementGeometry) :=
  match n.primarySelector with
  | some selector => resolve selector
  | none => pure none

/-- Looks up the elements of a violation, numbered from `index` on, and gives the number that comes
next. -/
def locateNodes (resolve : String → m (Option ElementGeometry)) (v : Violation) (index : Nat) :
    List ViolationNode → m (List HeatmapPoint × Nat)
  | [] => return ([], index)
  | n :: rest => do
    let found ← geometryOf resolve n
    let (points, next) ← locateNodes resolve v (index + 1) rest
    return ((found.map (HeatmapPoint.ofElement index v)).toList ++ points, next)

/-- Looks up the elements of violations, numbered from `index` on, and gives the number that comes
next. -/
def locate (resolve : String → m (Option ElementGeometry)) (index : Nat) :
    List Violation → m (List HeatmapPoint × Nat)
  | [] => return ([], index)
  | v :: rest => do
    let (points, next) ← locateNodes resolve v index v.nodes
    let (others, last) ← locate resolve next rest
    return (points ++ others, last)

/-- Looks up all elements of an audit. -/
def ofAudit (resolve : String → m (Option ElementGeometry)) (audit : AuditResult) :
    m Correlation := do
  let (points, visited) ← locate resolve 0 audit.violations
  return ⟨points, visited⟩

end Correlation

end PageScan

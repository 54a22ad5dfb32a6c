import PageScan.Json.Value

/-!
# What a scan makes known

Events tell the story of one scan; counters add up over all of them.
-/

namespace PageScan

/-- The stages of a scan that are announced when they are over. -/
inductive Stage
  | navigate
  | stabilize
  | capture
  | audit
  | correlate
  | secondaryAudit
  deriving DecidableEq, Repr

/-- The name of a stage. -/
def Stage.name : Stage → String
  | .navigate => "navigate"
  | .stabilize => "stabilize"
  | .capture => "capture"
  | .audit => "audit"
  | .correlate => "correlate"
  | .secondaryAudit => "secondary_audit"

/-- Something that happened in a scan. -/
inductive ScanEvent
  | started (url : String)
  | stageCompleted (stage : String)
  | navigationFallback (strictError : String)
  | heatmapCorrelated (points dropped : Nat)
  | secondaryDegraded (details : String)
  | finished (violations heatmapPoints : Nat)
  | failed (kind error : String)
  deriving DecidableEq

/-- How loudly an event is made known. -/
inductive EventLevel
  | info
  | warn
  deriving DecidableEq

/-- The name of a level. -/
def EventLevel.name : EventLevel → String
  | .info => "INFO"
  | .warn => "WARN"

namespace ScanEvent

/-- The name of an event. -/
def name : ScanEvent → String
  | .started _ => "scan.started"
  | .stageCompleted _ => "scan.stage_completed"
  | .navigationFallback _ => "scan.navigation_fallback"
  | .heatmapCorrelated .. => "scan.heatmap_correlated"
  | .secondaryDegraded _ => "scan.secondary_degraded"
  | .finished .. => "scan.finished"
  | .failed .. => "scan.failed"

/-- What degrades or ends a scan is a warning. -/
def level : ScanEvent → EventLevel
  | .navigationFallback _ | .secondaryDegraded _ | .failed .. => .warn
  | _ => .info

/-- The fields of an event. -/
def fields : ScanEvent → List (String × Json.Value)
  | .started url => [("url", .string url)]
  | .stageCompleted stage => [("stage", .string stage)]
  | .navigationFallback strictError => [("strict_error", .string strictError)]
  | .heatmapCorrelated points dropped => [("points", .ofNat points), ("dropped", .ofNat dropped)]
  | .secondaryDegraded details => [("details", .string details)]
  | .finished violations points =>
    [("violations", .ofNat violations), ("heatmap_points", .ofNat points)]
  | .failed kind error => [("kind", .string kind), ("error", .string error)]

/-- The event as a document. -/
def toJson (e : ScanEvent) : Json.Value :=
  .object (("event", .string e.name) :: ("level", .string e.level.name) :: e.fields)

end ScanEvent

/-- What is counted over all scans. -/
inductive Counter
  | started
  | completed
  | failed
  | fallbacks
  | dropped (n : Nat)
  | degraded
  deriving DecidableEq

/-- The counts over all scans. They start again from zero at `Metrics.modulus`. -/
structure Metrics where
  started : Nat := 0
  completed : Nat := 0
  failed : Nat := 0
  fallbacks : Nat := 0
  dropped : Nat := 0
  degraded : Nat := 0
  deriving DecidableEq

namespace Metrics

/-- One more than the greatest count. -/
def modulus : Nat := Nat.pow 2 64

/-- A count that has grown. -/
def grown (count n : Nat) : Nat :=
  (count + n) % modulus

/-- The counts with one counter raised. -/
def count (m : Metrics) : Counter → Metrics
  | .started => { m with started := grown m.started 1 }
  | .completed => { m with completed := grown m.completed 1 }
  | .failed => { m with failed := grown m.failed 1 }
  | .fallbacks => { m with fallbacks := grown m.fallbacks 1 }
  | .dropped n => { m with dropped := grown m.dropped n }
  | .degraded => { m with degraded := grown m.degraded 1 }

/-- The counts as they are made known. -/
def toJson (m : Metrics) : Json.Value :=
  .object
    [("metric", .string "flush"), ("level", .string EventLevel.info.name),
      ("scans_started", .ofNat m.started), ("scans_completed", .ofNat m.completed),
      ("scans_failed", .ofNat m.failed), ("navigation_fallbacks", .ofNat m.fallbacks),
      ("heatmap_nodes_dropped", .ofNat m.dropped), ("secondary_degraded", .ofNat m.degraded)]

end Metrics

end PageScan

import PageScan.Screenshot

/-!
# Configuration of a scan

One section for each stage. Every field has a default, so any part of a configuration may be left
out of its file. `ScanConfig.validate` refuses limits under which no scan could succeed.
-/

namespace PageScan

/-- Why there is no configuration, or no rule engine. -/
inductive ConfigError
  /-- The file could not be read. -/
  | io (path reason : String)
  | parse (path : String) (e : Json.Error)
  | invalid (reason : String)

/-- The wording of an error. -/
def ConfigError.message : ConfigError → String
  | .io path reason => "failed to read config " ++ path ++ ": " ++ reason
  | .parse path e => "failed to parse config " ++ path ++ ": " ++ e.message
  | .invalid reason => reason

/-- The limits of loading a page, in milliseconds. -/
structure NavigationConfig where
  strictTimeoutMs : Nat := 45000
  relaxedTimeoutMs : Nat := 15000
  interceptInstallTimeoutMs : Nat := 10000
  deriving DecidableEq

/-- How a page is brought to rest. -/
structure StabilizerConfig where
  fontCeilingMs : Nat := 5000
  settleMs : Nat := 1000
  scrollStepPx : Nat := 300
  scrollIntervalMs : Nat := 100
  postSweepSettleMs : Nat := 1000
  maxScrollSteps : Nat := 200
  stepTimeoutMs : Nat := 5000
  deriving DecidableEq

/-- How the screenshot is taken. -/
structure CaptureConfig where
  format : ImageFormat := .jpeg
  quality : Nat := 80
  timeoutMs : Nat := 30000
  deriving DecidableEq

/-- The limits of looking elements up. -/
structure CorrelationConfig where
  lookupTimeoutMs : Nat := 2000
  stageCeilingMs : Nat := 60000
  deriving DecidableEq

/-- The limit of the audit, and the file of the rule engine. -/
structure AuditConfig where
  timeoutMs : Nat := 60000
  engineSource : Option String := none
  deriving DecidableEq

/-- Whether and how the secondary audit is run. -/
structure SecondaryConfig where
  enabled : Bool := true
  maxWaitForFcpMs : Nat := 15000
  maxWaitForLoadMs : Nat := 30000
  ceilingMs : Nat := 120000
  binary : String := "lighthouse"
  deriving DecidableEq

/-- How many browsers may run at once. -/
structure SchedulerConfig where
  maxConcurrentBrowsers : Nat := 2
  deriving DecidableEq

/-- The configuration of a scan. -/
structure ScanConfig where
  navigation : NavigationConfig := {}
  stabilizer : StabilizerConfig := {}
  capture : CaptureConfig := {}
  audit : AuditConfig := {}
  correlation : CorrelationConfig := {}
  secondary : SecondaryConfig := {}
  scheduler : SchedulerConfig := {}
  deriving DecidableEq

namespace NavigationConfig

/-- Reads the section. -/
def decoder : Json.Decoder NavigationConfig :=
  let d : NavigationConfig := {}
  .record "NavigationConfig"
    (.cons (.defaulted "strict_timeout_ms" .u64 d.strictTimeoutMs) <|
      .cons (.defaulted "relaxed_timeout_ms" .u64 d.relaxedTimeoutMs) <|
      .cons (.defaulted "intercept_install_timeout_ms" .u64 d.interceptInstallTimeoutMs) .nil)
    fun (strict, relaxed, install, ()) => ⟨strict, relaxed, install⟩

/-- The section as a document. -/
def toJson (c : NavigationConfig) : Json.Value :=
  .object
    [("strict_timeout_ms", .ofNat c.strictTimeoutMs),
      ("relaxed_timeout_ms", .ofNat c.relaxedTimeoutMs),
      ("intercept_install_timeout_ms", .ofNat c.interceptInstallTimeoutMs)]

instance : Json.Document NavigationConfig := ⟨decoder, toJson⟩

end NavigationConfig

namespace StabilizerConfig

/-- Reads the section. -/
def decoder : Json.Decoder StabilizerConfig :=
  let d : StabilizerConfig := {}
  .record "StabilizerConfig"
    (.cons (.defaulted "font_ceiling_ms" .u64 d.fontCeilingMs) <|
      .cons (.defaulted "settle_ms" .u64 d.settleMs) <|
      .cons (.defaulted "scroll_step_px" .u32 d.scrollStepPx) <|
      .cons (.defaulted "scroll_interval_ms" .u64 d.scrollIntervalMs) <|
      .cons (.defaulted "post_sweep_settle_ms" .u64 d.postSweepSettleMs) <|
      .cons (.defaulted "max_scroll_steps" .u32 d.maxScrollSteps) <|
      .cons (.defaulted "step_timeout_ms" .u64 d.stepTimeoutMs) .nil)
    fun (fonts, settle, step, interval, post, steps, timeout, ()) =>
      ⟨fonts, settle, step, interval, post, steps, timeout⟩

/-- The section as a document. -/
def toJson (c : StabilizerConfig) : Json.Value :=
  .object
    [("font_ceiling_ms", .ofNat c.fontCeilingMs), ("settle_ms", .ofNat c.settleMs),
      ("scroll_step_px", .ofNat c.scrollStepPx), ("scroll_interval_ms", .ofNat c.scrollIntervalMs),
      ("post_sweep_settle_ms", .ofNat c.postSweepSettleMs),
      ("max_scroll_steps", .ofNat c.maxScrollSteps), ("step_timeout_ms", .ofNat c.stepTimeoutMs)]

instance : Json.Document StabilizerConfig := ⟨decoder, toJson⟩

end StabilizerConfig

namespace CaptureConfig

/-- Reads the section. -/
def decoder : Json.Decoder CaptureConfig :=
  let d : CaptureConfig := {}
  .record "CaptureConfig"
    (.cons (.defaulted "format" ImageFormat.decoder d.format) <|
      .cons (.defaulted "quality" .u8 d.quality) <|
      .cons (.defaulted "timeout_ms" .u64 d.timeoutMs) .nil)
    fun (format, quality, timeout, ()) => ⟨format, quality, timeout⟩

/-- The section as a document. -/
def toJson (c : CaptureConfig) : Json.Value :=
  .object
    [("format", c.format.toJson), ("quality", .ofNat c.quality), ("timeout_ms", .ofNat c.timeoutMs)]

instance : Json.Document CaptureConfig := ⟨decoder, toJson⟩

end CaptureConfig

namespace CorrelationConfig

/-- Reads the section. -/
def decoder : Json.Decoder CorrelationConfig :=
  let d : CorrelationConfig := {}
  .record "CorrelationConfig"
    (.cons (.defaulted "lookup_timeout_ms" .u64 d.lookupTimeoutMs) <|
      .cons (.defaulted "stage_ceiling_ms" .u64 d.stageCeilingMs) .nil)
    fun (lookup, ceiling, ()) => ⟨lookup, ceiling⟩

/-- The section as a document. -/
def toJson (c : CorrelationConfig) : Json.Value :=
  .object
    [("lookup_timeout_ms", .ofNat c.lookupTimeoutMs), ("stage_ceiling_ms", .ofNat c.stageCeilingMs)]

instance : Json.Document CorrelationConfig := ⟨decoder, toJson⟩

end CorrelationConfig

/-- Reads a path. -/
def Json.Decoder.path : Json.Decoder String :=
  .parsed "path string" .ok

namespace AuditConfig

/-- Reads the section. -/
def decoder : Json.Decoder AuditConfig :=
  let d : AuditConfig := {}
  .record "AuditConfig"
    (.cons (.defaulted "timeout_ms" .u64 d.timeoutMs) <|
      .cons (.defaulted "engine_source" (.nullable .path) d.engineSource) .nil)
    fun (timeout, engine, ()) => ⟨timeout, engine⟩

/-- The section as a document. -/
def toJson (c : AuditConfig) : Json.Value :=
  .object
    [("timeout_ms", .ofNat c.timeoutMs), ("engine_source", .ofOption .string c.engineSource)]

instance : Json.Document AuditConfig := ⟨decoder, toJson⟩

end AuditConfig

namespace SecondaryConfig

/-- Reads the section. -/
def decoder : Json.Decoder SecondaryConfig :=
  let d : SecondaryConfig := {}
  .record "SecondaryConfig"
    (.cons (.defaulted "enabled" .bool d.enabled) <|
      .cons (.defaulted "max_wait_for_fcp_ms" .u64 d.maxWaitForFcpMs) <|
      .cons (.defaulted "max_wait_for_load_ms" .u64 d.maxWaitForLoadMs) <|
      .cons (.defaulted "ceiling_ms" .u64 d.ceilingMs) <|
      .cons (.defaulted "binary" .string d.binary) .nil)
    fun (enabled, fcp, load, ceiling, binary, ()) => ⟨enabled, fcp, load, ceiling, binary⟩

/-- The section as a document. -/
def toJson (c : SecondaryConfig) : Json.Value :=
  .object
    [("enabled", .bool c.enabled), ("max_wait_for_fcp_ms", .ofNat c.maxWaitForFcpMs),
      ("max_wait_for_load_ms", .ofNat c.maxWaitForLoadMs), ("ceiling_ms", .ofNat c.ceilingMs),
      ("binary", .string c.binary)]

instance : Json.Document SecondaryConfig := ⟨decoder, toJson⟩

end SecondaryConfig

namespace SchedulerConfig

/-- Reads the section. -/
def decoder : Json.Decoder SchedulerConfig :=
  let d : SchedulerConfig := {}
  .record "SchedulerConfig"
    (.cons (.defaulted "max_concurrent_browsers" .count d.maxConcurrentBrowsers) .nil)
    fun (browsers, ()) => ⟨browsers⟩

/-- The section as a document. -/
def toJson (c : SchedulerConfig) : Json.Value :=
  .object [("max_concurrent_browsers", .ofNat c.maxConcurrentBrowsers)]

instance : Json.Document SchedulerConfig := ⟨decoder, toJson⟩

end SchedulerConfig

namespace ScanConfig

/-- Reads a configuration. -/
def decoder : Json.Decoder ScanConfig :=
  .record "ScanConfig"
    (.cons (.defaulted "navigation" NavigationConfig.decoder {}) <|
      .cons (.defaulted "stabilizer" StabilizerConfig.decoder {}) <|
      .cons (.defaulted "capture" CaptureConfig.decoder {}) <|
      .cons (.defaulted "audit" AuditConfig.decoder {}) <|
      .cons (.defaulted "correlation" CorrelationConfig.decoder {}) <|
      .cons (.defaulted "secondary" SecondaryConfig.decoder {}) <|
      .cons (.defaulted "scheduler" SchedulerConfig.decoder {}) .nil)
    fun (navigation, stabilizer, capture, audit, correlation, secondary, scheduler, ()) =>
      ⟨navigation, stabilizer, capture, audit, correlation, secondary, scheduler⟩

/-- The configuration as a document. -/
def toJson (c : ScanConfig) : Json.Value :=
  .object
    [("navigation", c.navigation.toJson), ("stabilizer", c.stabilizer.toJson),
      ("capture", c.capture.toJson), ("audit", c.audit.toJson),
      ("correlation", c.correlation.toJson), ("secondary", c.secondary.toJson),
      ("scheduler", c.scheduler.toJson)]

/-- The first objection to a configuration, if there is one. -/
def objection? (c : ScanConfig) : Option String :=
  let nav := c.navigation
  if nav.strictTimeoutMs = 0 ∨ nav.relaxedTimeoutMs = 0 then
    some "navigation timeouts must be greater than zero"
  else if nav.relaxedTimeoutMs ≥ nav.strictTimeoutMs then
    some ("relaxed navigation timeout (" ++ toString nav.relaxedTimeoutMs ++
      "ms) must be shorter than strict timeout (" ++ toString nav.strictTimeoutMs ++ "ms)")
  else if c.stabilizer.scrollStepPx = 0 then
    some "scroll_step_px must be greater than zero"
  else if c.capture.quality < 1 ∨ 100 < c.capture.quality then
    some ("capture quality must be within 1..=100, got " ++ toString c.capture.quality)
  else if c.audit.timeoutMs = 0 ∨ c.capture.timeoutMs = 0 ∨ c.stabilizer.stepTimeoutMs = 0 ∨
      nav.interceptInstallTimeoutMs = 0 ∨ c.correlation.lookupTimeoutMs = 0 ∨
      c.correlation.stageCeilingMs = 0 then
    some "stage timeouts must be greater than zero"
  else if c.secondary.enabled ∧ c.secondary.ceilingMs = 0 then
    some "secondary ceiling must be greater than zero"
  else if c.scheduler.maxConcurrentBrowsers = 0 then
    some "max_concurrent_browsers must be at least 1"
  else none

/-- Refuses a configuration under which no scan could succeed. -/
def validate (c : ScanConfig) : Except ConfigError Unit :=
  match c.objection? with
  | some reason => .error (.invalid reason)
  | none => .ok ()

/-- Reads a configuration from the text of a file. -/
def ofText (path text : String) : Except ConfigError ScanConfig := do
  let c ← (Json.Decoder.decodeText decoder text).mapError (.parse path)
  c.validate
  return c

instance : Json.Document ScanConfig := ⟨decoder, toJson⟩

end ScanConfig

end PageScan

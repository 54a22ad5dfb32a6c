import PageScan.Secondary.Engine
import PageScan.Text.Utf8

/-!
# The engine as a program

The second engine is a program that prints its report. Its arguments name the page, the port of the
browser and the limits; its report gives each category a score between zero and one.
-/

namespace PageScan

/-- How a run of the program failed. -/
inductive LighthouseError
  | start (binary reason : String)
  /-- The program exited with a code, or was killed by a signal if there is none. -/
  | exit (binary : String) (code : Option Nat) (lastWords : String)
  | output (reason : String)
  | runtime (code message : String)
  | noScore (category : AuditCategory)

/-- What a run of the program left behind. -/
structure ProgramOutput where
  stdout : List UInt8
  stderr : List UInt8
  /-- The exit code, if the program exited. -/
  code : Option Nat

namespace LighthouseError

/-- The wording of an error, without the cause behind it. -/
def outline : LighthouseError → String
  | .start binary _ => "failed to start " ++ binary
  | .exit binary code lastWords =>
    binary ++ " exited with " ++ ((code.map toString).getD "signal") ++ ": " ++ lastWords
  | .output _ => "engine produced invalid JSON"
  | .runtime code message => code ++ ": " ++ message
  | .noScore category => "no score reported for category '" ++ category.engineId ++ "'"

/-- The wording of an error, with the cause behind it. -/
def message (e : LighthouseError) : String :=
  match e with
  | .start _ reason | .output reason => e.outline ++ ": " ++ reason
  | e => e.outline

end LighthouseError

namespace SecondaryRequest

/-- The arguments of the program. -/
def args (r : SecondaryRequest) : List String :=
  [r.url, "--port=" ++ toString r.endpoint.debugPort, "--output=json", "--output-path=stdout",
    "--quiet",
    "--only-categories=" ++ Text.join "," (r.categories.map AuditCategory.engineId),
    "--disable-storage-reset", "--screenEmulation.disabled",
    "--throttling.cpuSlowdownMultiplier=1",
    "--max-wait-for-fcp=" ++ toString r.maxWaitForFcpMs,
    "--max-wait-for-load=" ++ toString r.maxWaitForLoadMs]

end SecondaryRequest

namespace EngineReport

/-- The parts of a report that are too large to keep. -/
def bulky : List String := ["i18n", "timing", "fullPageScreenshot"]

/-- A score between zero and one out of a hundred. -/
def percent (x : Float) : Nat :=
  let p := (x * 100.0).round
  if p ≤ 0.0 then 0 else if p ≥ 100.0 then 100 else p.toUInt8.toNat

/-- The score that a report gives a category. -/
def scoreOf (report : Json.Value) (c : AuditCategory) : Except LighthouseError Nat :=
  let score := do
    let categories ← report.member? "categories"
    let category ← categories.member? c.engineId
    (← category.member? "score").float?
  match score with
  | some x => .ok (percent x)
  | none => .error (.noScore c)

/-- The error that a report tells of, if it does. -/
def runtimeError? (report : Json.Value) : Option LighthouseError :=
  (report.member? "runtimeError").map fun e =>
    .runtime (((e.member? "code").bind Json.Value.string?).getD "UNKNOWN")
      (((e.member? "message").bind Json.Value.string?).getD "")

/-- The report without its bulky parts. -/
def slim : Json.Value → Json.Value
  | .object members => .object (members.filter fun m => !bulky.contains m.1)
  | v => v

/-- Reads what the program printed. -/
def ofJson (report : Json.Value) : Except LighthouseError EngineReport :=
  match runtimeError? report with
  | some e => .error e
  | none => do
    let performance ← scoreOf report .performance
    let accessibility ← scoreOf report .accessibility
    let bestPractices ← scoreOf report .bestPractices
    let seo ← scoreOf report .seo
    return ⟨⟨performance, accessibility, bestPractices, seo⟩, slim report⟩

/-- The last line that the program complained with. -/
def lastWords (stderr : List UInt8) : String :=
  match (Text.lines (Text.lossy stderr)).reverse.find? fun line => !Text.isBlankText line with
  | some line => Text.trim line
  | none => ""

/-- The report of a run of the program; the run itself can fail to start. -/
def ofRun (binary : String) (run : Except String ProgramOutput) :
    Except LighthouseError EngineReport :=
  match run with
  | .error reason => .error (.start binary reason)
  | .ok output =>
    if output.code ≠ some 0 then .error (.exit binary output.code (lastWords output.stderr))
    else
      match Text.ofUtf8? output.stdout with
      | none => .error (.output "invalid unicode code point")
      | some text =>
        match Json.Decoder.decodeText .any text with
        | .error e => .error (.output e.message)
        | .ok report => ofJson report

end EngineReport

/-- The engine that runs a program, which is told its arguments and takes its time. -/
def SecondaryEngine.lighthouse (binary : String)
    (program : List String → Reply String ProgramOutput) : SecondaryEngine := fun request =>
  let reply := program request.args
  ⟨reply.delayMs, reply.outcome.map fun run =>
    (EngineReport.ofRun binary run).mapError LighthouseError.message⟩

end PageScan

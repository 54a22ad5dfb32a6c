import PageScan.Audit.Engine
import PageScan.Audit.Payload
import PageScan.Scan.World
import PageScan.ScanError

/-!
# The audit of a page

The rule engine is injected and run. All the calls that this takes share one budget of time; styles
that cannot be injected cost only their time.
-/

namespace PageScan

/-- Why there is no audit. -/
inductive AuditFailure
  | injection (e : PageError)
  | probe (e : PageError)
  | engineMissing
  | execution (e : PageError)
  | payload (e : Json.Error)
  /-- The budget, in milliseconds, was used up. -/
  | budget (limitMs : Nat)

/-- The wording of a failure. -/
def AuditFailure.message : AuditFailure → String
  | .injection e => "injection failed: " ++ e.message
  | .probe e => "engine probe failed: " ++ e.message
  | .engineMissing => "engine global missing after injection"
  | .execution e => "execution failed: " ++ e.message
  | .payload e => "unexpected engine output: " ++ e.message
  | .budget limitMs => "rule engine did not finish within " ++ toString limitMs ++ "ms"

/-- The answer is the truth value true. -/
def isTrue : Json.Value → Bool
  | .bool true => true
  | _ => false

namespace Scan

variable {σ : Type}

/-- Gives the rule engine its styles and runs it until a deadline; none if it passes. -/
def runBy (page : Page σ) (deadline : Nat) : Scan σ (Option (Except AuditFailure AuditResult)) := do
  match ← askBy page deadline (.injectStyle highlightStyles) with
  | none => return none
  | some _ =>
    match ← askBy page deadline (.evaluate .auditRun) with
    | none => return none
    | some (.error e) => return some (.error (.execution e))
    | some (.ok payload) => return some ((AuditResult.ofPayload payload).mapError .payload)

/-- Injects and runs the rule engine until a deadline; none if it passes. -/
def auditBy (page : Page σ) (engine : RuleEngine) (deadline : Nat) :
    Scan σ (Option (Except AuditFailure AuditResult)) := do
  match ← askBy page deadline (.injectScript engine.source) with
  | none => return none
  | some (.error e) => return some (.error (.injection e))
  | some (.ok ()) =>
    match ← askBy page deadline (.evaluate .auditProbe) with
    | none => return none
    | some (.error e) => return some (.error (.probe e))
    | some (.ok answer) =>
      if isTrue answer then runBy page deadline else return some (.error .engineMissing)

/-- Audits a page within its budget. -/
def audit (page : Page σ) (engine : RuleEngine) (config : AuditConfig) (url : String) :
    Scan σ (Except ScanError AuditResult) := do
  let deadline := (← now) + config.timeoutMs
  match ← auditBy page engine deadline with
  | some outcome => return outcome.mapError fun f => .audit url f.message
  | none => return .error (.audit url (AuditFailure.budget config.timeoutMs).message)

end Scan

end PageScan

import PageScan.Config
import PageScan.Text.Quoted

/-!
# Failures of commands

Why a command ends without success. An error has an outline, which is what the command was doing,
and a message, which adds the causes.
-/

namespace PageScan

/-- Why a command failed. -/
inductive CliError
  /-- The configuration file at a path cannot be used. -/
  | configFile (path : String) (cause : ConfigError)
  /-- The file and the command line together make no sound configuration. -/
  | settings (cause : ConfigError)
  | noEngine
  | engine (cause : ConfigError)
  | writeReport (path reason : String)
  | writeManifest (path reason : String)
  | scansFailed (failed total : Nat)
  | readReport (path reason : String)
  | notReport (path : String) (cause : Json.Error)
  | noViolation (id path : String)
  | noAuditItem (id path : String)
  | writeExport (path reason : String)

namespace CliError

/-- What the command was doing. -/
def outline : CliError → String
  | .configFile path _ => "Failed to load config " ++ Text.quoted path
  | .settings cause => cause.message
  | .noEngine => "No accessibility engine configured; pass --axe-source or set UXA_AXE_SOURCE"
  | .engine cause => cause.message
  | .writeReport path _ => "Failed to write report to " ++ Text.quoted path
  | .writeManifest path _ => "Failed to write " ++ Text.quoted path
  | .scansFailed failed total => toString failed ++ " of " ++ toString total ++ " scans failed"
  | .readReport path _ => "Failed to read report " ++ Text.quoted path
  | .notReport path _ => "Not a scan report: " ++ Text.quoted path
  | .noViolation id path => "No violation " ++ Text.quoted id ++ " in " ++ Text.quoted path
  | .noAuditItem id path => "No audit item " ++ Text.quoted id ++ " in " ++ Text.quoted path
  | .writeExport path _ => "Failed to write to " ++ Text.quoted path

/-- What lies behind the outline. -/
def cause? : CliError → Option String
  | .configFile _ cause => some cause.message
  | .writeReport _ reason => some reason
  | .writeManifest _ reason => some reason
  | .readReport _ reason => some reason
  | .notReport _ cause => some cause.message
  | .writeExport _ reason => some reason
  | _ => none

/-- The outline with the causes. -/
def message (e : CliError) : String :=
  match e.cause? with
  | some cause => e.outline ++ ": " ++ cause
  | none => e.outline

/-- The error of the configuration behind an error, if it is one. -/
def configError? : CliError → Option ConfigError
  | .configFile _ cause => some cause
  | .settings cause => some cause
  | _ => none

end CliError

end PageScan

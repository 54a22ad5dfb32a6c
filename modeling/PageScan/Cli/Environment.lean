import PageScan.Cli.Arguments

/-!
# Settings from the environment

Some options may be given as variables of the environment. A variable counts where the command line
leaves the option out, and its value has to be as the option wants it.
-/

namespace PageScan

/-- The variables of an environment. -/
abbrev Environment := String → Option String

/-- An option: as it was given, or else as a variable says. -/
def Environment.fill (env : Environment) (name : String) (kind : Cli.ValueKind)
    (given : Option String) : Except Cli.UsageError (Option String) :=
  match given, env name with
  | some value, _ => .ok (some value)
  | none, some value => (kind.check value).map fun _ => some value
  | none, none => .ok none

/-- A command with the options that the environment gives. -/
def CliCommand.within (env : Environment) : CliCommand → Except Cli.UsageError CliCommand
  | .scan c => do
    let config ← env.fill "UXA_CONFIG" .path c.config
    let axeSource ← env.fill "UXA_AXE_SOURCE" .path c.overrides.axeSource
    let chrome ← env.fill "UXA_CHROME" .path c.chrome
    let maxBrowsers ← env.fill "UXA_MAX_BROWSERS" .count (c.overrides.maxBrowsers.map toString)
    let overrides : ScanOverrides :=
      { c.overrides with axeSource, maxBrowsers := maxBrowsers.bind Cli.countOf? }
    return .scan { c with config, overrides, chrome }
  | .export c => return .export c
  | .explain c key => return .explain c (← env.fill "GEMINI_API_KEY" .text key)

end PageScan

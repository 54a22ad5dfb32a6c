import PageScan.Cli.Error
import PageScan.Files
import PageScan.Text.Utf8

/-!
# The configuration of a command

The configuration of a scan comes from a file, if one is named, and from values on the command
line, which take the place of those in the file.

* `ScanOverrides.apply` puts the values of the command line in place.
* `ScanConfig.load` is the configuration that a command works with.
-/

namespace PageScan

/-- Values on the command line. -/
structure ScanOverrides where
  axeSource : Option String := none
  maxBrowsers : Option Nat := none
  noSecondary : Bool := false
  deriving DecidableEq

/-- The configuration with the values of the command line in place of its own. -/
def ScanOverrides.apply (o : ScanOverrides) (c : ScanConfig) : ScanConfig :=
  { c with
    audit.engineSource := o.axeSource <|> c.audit.engineSource
    scheduler.maxConcurrentBrowsers := o.maxBrowsers.getD c.scheduler.maxConcurrentBrowsers
    secondary.enabled := !o.noSecondary && c.secondary.enabled }

namespace ScanConfig

/-- Reads a sound configuration from a file. -/
def ofFile (files : Files) (path : String) : Except ConfigError ScanConfig := do
  let bytes ← (files.read path).mapError (.io path)
  match Text.ofUtf8? bytes with
  | some text => ofText path text
  | none => .error (.io path Files.notText)

/-- The configuration from the file at a path, if there is one, and the command line. The file has
to be sound by itself, and so has the whole. -/
def load (files : Files) (path : Option String) (o : ScanOverrides) :
    Except CliError ScanConfig := do
  let base ← match path with
    | some path => (ofFile files path).mapError (.configFile path)
    | none => pure {}
  let c := o.apply base
  c.validate.mapError .settings
  return c

end ScanConfig

end PageScan

import PageScan.Browser.Launcher
import PageScan.Cli.Environment
import PageScan.Explanation.Gemini

/-!
# The program

A command line is carried out on the files of a machine without a network: no browser can be
reached there, and no service that explains.

* `CliCommand.sources` are the files that a command reads.
* `CliCommand.carryOut` is what a command leaves behind.
* `UsageError.text` is what is said of a command line that is not carried out.
-/

namespace PageScan

/-- What a command leaves behind: its desk, and a complaint if it failed. -/
structure ProgramRun where
  desk : Desk
  complaint : Option String

/-- The service that explains, where there is no network. -/
def offlineService (key : Option String) (prompt : String) : ServiceAnswer :=
  let config : GeminiConfig := { apiKey := key }
  (config.explain (fun _ => .error "no network") prompt).mapError ServiceError.message

namespace CliCommand

/-- The files that a command reads, as far as the files that are known tell. -/
def sources (files : Files) : CliCommand → List String
  | .scan c =>
    let engine? := match ScanConfig.load files c.config c.overrides with
      | .ok config => config.audit.engineSource
      | .error _ => none
    c.config.toList ++ engine?.toList
  | .export c => [c.report]
  | .explain c _ => [c.report]

/-- The folders that have to be there for a command to write its files. -/
def folders : CliCommand → List String
  | .export c => (Path.parent c.target).toList
  | _ => []

/-- Carries out a command. -/
def carryOut (d : Desk) : CliCommand → ProgramRun
  | .scan c =>
    let r := scanCommand c d fun _ _ => c.browser.offlineLauncher (.missing Files.missing)
    match r.result with
    | .ok () => ⟨r.desk, none⟩
    | .error e => ⟨r.desk, some e.message⟩
  | .export c =>
    match exportCommand c d with
    | .ok (_, _, d) => ⟨d, none⟩
    | .error e => ⟨d, some e.message⟩
  | .explain c key =>
    match explainCommand c d.files (offlineService key) with
    | .ok text => ⟨d.print text, none⟩
    | .error e => ⟨d, some e.message⟩

end CliCommand

namespace Cli.UsageError

/-- The program asked for a text that tells about it, rather than for a command. -/
def isRequest : UsageError → Bool
  | .displayHelp | .displayVersion => true
  | _ => false

/-- How the program is used. -/
def usage : String :=
  "Usage: uxa [--verbose] [--json] <COMMAND>

Commands:
  scan <URLS>...                            Scan one or more pages
  export <REPORT> --format <FORMAT>         Render a saved report as PDF or CSV
  explain <REPORT> --violation <VIOLATION>  Explain one violation or secondary audit item"

/-- What is said of a command line that is not carried out. -/
def text : UsageError → String
  | .displayHelp | .helpOnMissing => usage
  | .displayVersion => "uxa " ++ version
  | .missingSubcommand => "error: a command is required"
  | .invalidSubcommand => "error: unrecognized command"
  | .unknownArgument => "error: unexpected argument"
  | .argumentConflict => "error: arguments cannot be used together"
  | .missingRequired => "error: a required argument was not provided"
  | .invalidValue => "error: a value is required"
  | .valueValidation => "error: invalid value"
  | .tooManyValues => "error: unexpected value"

end Cli.UsageError

end PageScan

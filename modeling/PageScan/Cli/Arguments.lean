import PageScan.Cli.Option
import PageScan.Cli.Saved

/-!
# The command line of the program

The commands `scan`, `export` and `explain` with their options. Two flags may stand before or
behind the name of the command.

* `Arguments.ofList` reads a command line.
-/

namespace PageScan

/-- The commands. -/
inductive CliCommand
  | scan (settings : ScanCommand)
  | export (settings : ExportCommand)
  | explain (settings : ExplainCommand) (apiKey : Option String)
  deriving DecidableEq

/-- A command line. -/
structure Arguments where
  verbose : Bool
  json : Bool
  command : CliCommand
  deriving DecidableEq

namespace Arguments

open Cli

/-- The options that every command takes. -/
def commonOptions : List OptionSpec :=
  [⟨"verbose", some 'v', .flag⟩, ⟨"json", none, .flag⟩, ⟨"help", some 'h', .help⟩]

/-- The names of the commands. -/
def commandNames : List String := ["scan", "export", "explain"]

/-- What stands before the name of a command. -/
def mainGrammar : Grammar :=
  ⟨commonOptions ++ [⟨"version", some 'V', .version⟩], none, commandNames ++ ["help"]⟩

/-- What the command that scans takes. -/
def scanGrammar : Grammar :=
  ⟨commonOptions ++
    [⟨"config", none, .value .path⟩, ⟨"axe-source", none, .value .path⟩,
      ⟨"chrome", none, .value .path⟩, ⟨"max-browsers", none, .value .count⟩,
      ⟨"no-secondary", none, .flag⟩, ⟨"out", some 'o', .value .path⟩],
    some ⟨"urls", .text, true⟩, []⟩

/-- What the command that exports takes. -/
def exportGrammar : Grammar :=
  ⟨commonOptions ++ [⟨"format", some 'f', .value .format⟩, ⟨"out", some 'o', .value .path⟩],
    some ⟨"report", .path, false⟩, []⟩

/-- What the command that explains takes. -/
def explainGrammar : Grammar :=
  ⟨commonOptions ++
    [⟨"violation", none, .value .text⟩, ⟨"audit-item", none, .value .text⟩,
      ⟨"api-key", none, .value .text⟩],
    some ⟨"report", .path, false⟩, []⟩

/-- The settings of a scan. -/
def scanOf (w : Words) : Except UsageError CliCommand :=
  let urls := w.all "urls"
  if urls.isEmpty then .error .missingRequired
  else
    .ok <| .scan
      { urls
        config := w.get? "config"
        overrides :=
          ⟨w.get? "axe-source", (w.get? "max-browsers").bind countOf?, w.has "no-secondary"⟩
        chrome := w.get? "chrome"
        out := (w.get? "out").getD "." }

/-- The settings of an export. -/
def exportOf (w : Words) : Except UsageError CliCommand :=
  match w.get? "report", (w.get? "format").bind fun f => (ExportFormat.ofText f).toOption with
  | some report, some format => .ok (.export ⟨report, format, w.get? "out"⟩)
  | _, _ => .error .missingRequired

/-- The settings of an explanation. It is about one finding. -/
def explainOf (w : Words) : Except UsageError CliCommand :=
  match w.get? "violation", w.get? "audit-item", w.get? "report" with
  | some _, some _, _ => .error .argumentConflict
  | some id, none, some report => .ok (.explain ⟨report, .violation id⟩ (w.get? "api-key"))
  | none, some id, some report => .ok (.explain ⟨report, .auditItem id⟩ (w.get? "api-key"))
  | _, _, _ => .error .missingRequired

/-- What a command takes, and its settings. -/
def commandNamed (name : String) : Grammar × (Words → Except UsageError CliCommand) :=
  if name = "scan" then (scanGrammar, scanOf)
  else if name = "export" then (exportGrammar, exportOf)
  else (explainGrammar, explainOf)

/-- What comes of asking for help on a command. -/
def helpOn : List String → UsageError
  | [] => .displayHelp
  | [name] => if mainGrammar.subcommands.contains name then .displayHelp else .invalidSubcommand
  | _ => .invalidSubcommand

/-- Reads a command line; the first word is the name of the program. -/
def ofList (words : List String) : Except UsageError Arguments := do
  let (before, command?) ← read mainGrammar {} (words.drop 1)
  match command? with
  | none =>
    if before.flags.isEmpty then .error .helpOnMissing else .error .missingSubcommand
  | some (name, rest) =>
    if name = "help" then .error (helpOn rest)
    else
      let (grammar, settings) := commandNamed name
      let (after, _) ← read grammar {} rest
      let command ← settings after
      return ⟨before.has "verbose" || after.has "verbose", before.has "json" || after.has "json",
        command⟩

end Arguments

end PageScan

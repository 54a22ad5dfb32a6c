import PageScan.Audit.Engine
import PageScan.Cli.Manifest
import PageScan.Cli.Overrides
import PageScan.Report.Summary
import PageScan.Scheduler.Timeline

/-!
# The command that scans

Every address that can be scanned is scanned, each report goes to a file of its own, and a manifest
says what became of every address.

* `runScans` scans addresses and writes reports and manifest.
* `scanCommand` is the whole command.
-/

namespace PageScan

/-- What a command works on: the files, and the lines that it has printed. -/
structure Desk where
  files : Files
  printed : List String := []

/-- A line of output. -/
def Desk.print (d : Desk) (line : String) : Desk :=
  { d with printed := d.printed ++ [line] }

/-- All that was printed. -/
def Desk.output (d : Desk) : String :=
  Text.join "" (d.printed.map (· ++ "\n"))

/-- An address that can be scanned, with its place on the command line. -/
structure PendingScan where
  index : Nat
  url : String
  request : ScanRequest

namespace PendingScan

/-- The addresses that can be scanned. -/
def ofUrls (urls : List String) : List PendingScan :=
  urls.zipIdx.filterMap fun (url, index) =>
    match ScanRequest.ofText url with
    | .ok request => some ⟨index, url, request⟩
    | .error _ => none

/-- Where the report on an address goes. -/
def path (p : PendingScan) (out : String) : String :=
  Path.join out (reportFileName p.index)

end PendingScan

/-- The entries of the addresses that cannot be scanned. -/
def refusedEntries (urls : List String) : List ManifestEntry :=
  urls.filterMap fun url =>
    match ScanRequest.ofText url with
    | .ok _ => none
    | .error e => some ⟨url, none, some e.toFailure⟩

/-- Takes the outcome of a scan: its report is written and summed up in a line. -/
def takeOutcome (out : String) (d : Desk) (p : PendingScan) :
    Scheduler.Outcome → Except CliError (ManifestEntry × Desk)
  | .ok report => do
    let path := p.path out
    let files ← (d.files.write path (Text.utf8 report.toJson.indented)).mapError
      (.writeReport path)
    return (⟨p.url, some path, none⟩, { d with files }.print report.summary)
  | .error e => .ok (⟨p.url, none, some e.toFailure⟩, d)

/-- Takes the outcomes of scans, in order. -/
def takeOutcomes (out : String) (d : Desk) :
    List (PendingScan × Scheduler.Outcome) → Except CliError (List ManifestEntry × Desk)
  | [] => .ok ([], d)
  | (p, outcome) :: rest => do
    let (entry, d) ← takeOutcome out d p outcome
    let (entries, d) ← takeOutcomes out d rest
    return (entry :: entries, d)

/-- Scans addresses, and writes the reports and the manifest to the folder `out`. -/
def runScans (t : Scheduler.Timeline) (d : Desk) (urls : List String) (out : String) :
    Except CliError (ScanManifest × Desk) × Scheduler.Timeline :=
  let d := { d with files := d.files.createFolder out }
  let pending := PendingScan.ofUrls urls
  let (outcomes, t) := t.scanAll (pending.map (·.request))
  let result := do
    let (entries, d) ← takeOutcomes out d (pending.zip outcomes)
    let manifest := ScanManifest.sorted urls (refusedEntries urls ++ entries)
    let path := Path.join out manifestFileName
    let files ← (d.files.write path (Text.utf8 manifest.toJson.indented)).mapError
      (.writeManifest path)
    return (manifest, { d with files })
  (result, t)

/-- The settings of a command that scans. -/
structure ScanCommand where
  urls : List String
  config : Option String := none
  overrides : ScanOverrides := {}
  chrome : Option String := none
  out : String := "."
  deriving DecidableEq

/-- What a command that scans leaves behind. -/
structure ScanCommandRun where
  result : Except CliError Unit
  desk : Desk
  /-- The counts, if they were given out. -/
  flushed : Option Metrics

/-- The configuration of a command and its rule engine. -/
def ScanCommand.prepare (c : ScanCommand) (files : Files) :
    Except CliError (ScanConfig × RuleEngine) := do
  let config ← ScanConfig.load files c.config c.overrides
  match config.audit.engineSource with
  | none => .error .noEngine
  | some path =>
    let engine ← (RuleEngine.ofFile path (files.read path)).mapError .engine
    return (config, engine)

/-- Carries out a command that scans, with browsers from a launcher that is made for its
configuration and its rule engine. At the end each failure is printed. -/
def scanCommand (c : ScanCommand) (d : Desk)
    (launcher : ScanConfig → RuleEngine → Scheduler.Launcher) : ScanCommandRun :=
  match c.prepare d.files with
  | .error e => ⟨.error e, d, none⟩
  | .ok (config, engine) =>
    let start := Scheduler.Timeline.start (launcher config engine)
      config.scheduler.maxConcurrentBrowsers
    let (result, t) := runScans start d c.urls c.out
    match result with
    | .error e => ⟨.error e, d, none⟩
    | .ok (manifest, d) =>
      let failures := manifest.failures
      let d := failures.foldl (fun d f => d.print f.toJson.compact) d
      let result : Except CliError Unit :=
        if failures.isEmpty then .ok () else .error (.scansFailed failures.length c.urls.length)
      ⟨result, d, some t.metrics⟩

end PageScan

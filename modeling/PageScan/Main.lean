import PageScan.Cli.Program

/-!
# The command line of the program

Reads the files that a command needs, carries the command out, writes the files that it has
changed, and prints what it says.
-/

namespace PageScan

/-- The files among those at some paths that can be read. -/
def readFiles (paths : List String) : IO (List (String × List UInt8)) := do
  let mut found := []
  for path in paths do
    match ← (IO.FS.readBinFile path).toBaseIO with
    | .ok bytes => found := found ++ [(path, bytes.toList)]
    | .error _ => pure ()
  return found

/-- Writes the folders and files that are new or changed. -/
def writeFiles (before after : Files) : IO Unit := do
  for folder in after.folders do
    unless before.folders.contains folder do IO.FS.createDirAll folder
  for (path, bytes) in after.contents do
    unless before.contents.lookup path = some bytes do
      IO.FS.writeBinFile path ⟨bytes.toArray⟩

/-- Carries out a command on the files of the machine, and tells the status that it ends with. -/
def runCommand (c : CliCommand) : IO UInt32 := do
  let known ← readFiles (c.sources ⟨[], []⟩)
  let more ← readFiles (c.sources ⟨[], known⟩)
  let before : Files := ⟨c.folders, known ++ more⟩
  let run := c.carryOut ⟨before, []⟩
  writeFiles before run.desk.files
  IO.print run.desk.output
  match run.complaint with
  | none => return 0
  | some reason =>
    IO.eprintln ("Error: " ++ reason)
    return 1

/-- The environment, as far as the program looks at it. -/
def readEnvironment : IO Environment := do
  let names := ["UXA_CONFIG", "UXA_AXE_SOURCE", "UXA_CHROME", "UXA_MAX_BROWSERS", "GEMINI_API_KEY"]
  let values ← names.mapM fun name => return (name, ← IO.getEnv name)
  return fun name => (values.lookup name).join

end PageScan

open PageScan

def main (args : List String) : IO UInt32 := do
  let env ← readEnvironment
  match (Arguments.ofList ("uxa" :: args)).bind fun a => a.command.within env with
  | .ok command => runCommand command
  | .error e =>
    if e.isRequest then
      IO.println e.text
      return 0
    else
      IO.eprintln e.text
      return 2

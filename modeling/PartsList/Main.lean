import PartsList.CommandLine.Program

/-!
# The command line

The program as it is called: it finds its arguments, its environment and the settings file, and
writes down what it is told to say.  No library can be loaded here, so no job gets as far as asking
for the machine or the time.
-/

namespace PartsList.CommandLine

/-- Why the system does not read a file. -/
def readRefusal : IO.Error → OsError
  | .inappropriateType .. => .isADirectory
  | .resourceExhausted .. => .exhausted
  | _ => .notFound

/-- A disk that holds the file at a path, or refuses to read it. -/
def diskWith (path : Path) : IO Disk := do
  try
    let bytes ← IO.FS.readBinFile path.spelling
    let disk := (Disk.makeParent path {}).2
    return (Disk.writeFile path (.ofBytes bytes.data.toList) disk).2
  catch error =>
    return { faults := [some (readRefusal error)] }

/-- The disk with the settings file that the command line names. -/
def disk (words : List String) : IO Disk :=
  match Options.read words with
  | .error _ => return {}
  | .ok options => (options.path? .config).elim (return {}) diskWith

/-- What the environment says. -/
def surroundings : IO Surroundings := do
  let home ← IO.getEnv "HOME"
  let logFilter ← IO.getEnv LogFilter.variableName
  let libraryPath ← IO.getEnv LibraryPlace.variableName
  return {
    home := ⟨home.getD "."⟩
    logFilter := logFilter
    libraryPath := libraryPath.map Path.mk
    loader := fun _ => .error "libraries cannot be loaded"
    host := .measured 0 0
    today := ⟨0, 0⟩ }

/-- Writes down how the program ends. -/
def report : Ending → IO Unit
  | .refused .usage => IO.eprintln Program.usageText
  | .refused .version => IO.println Program.versionText
  | .refused .help => IO.println Program.helpText
  | .brokeDown => IO.eprintln "The log filter cuts a character in two."
  | .failed error => IO.eprintln error.text
  | .finished _ => return ()

end PartsList.CommandLine

open PartsList in
/-- Runs the program and tells its exit code. -/
def main (words : List String) : IO UInt32 := do
  let run := Program.run (← CommandLine.surroundings) words (← CommandLine.disk words)
  for line in run.log do
    IO.println (line.level.name ++ " " ++ line.target ++ ": " ++ line.message)
  CommandLine.report run.ending
  return run.ending.exitCode.toUInt32

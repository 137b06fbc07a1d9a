import ComponentInstall.CommandLine.Run
import ComponentInstall.Feed.Offline

/-!
# The program

The program is a run whose calls are made to the machine. What it does, and in which order, is said by
`CommandLine.runM`; here is only how the machine answers a call.

There is no transport here: the machine is taken to be offline, so a version that is neither given
nor installed cannot be looked up. Nor are there lines for the log, which is no more than opened.
-/

namespace ComponentInstall.Main

open CommandLine Disk

/-- A refusal of the machine. -/
def refusalOf (error : IO.Error) : IoError :=
  match error with
  | .noFileOrDirectory .. => .missing
  | .alreadyExists .. => .present
  | other => .worded (toString other)

/-- The answer of a call to the machine. -/
def attempt {α : Type} (call : IO α) : IO (Except IoError α) := do
  match ← call.toBaseIO with
  | .ok a => return .ok a
  | .error error => return .error (refusalOf error)

/-- Where a path leads on the machine. -/
def placeOf (path : Path) := do return (← IO.currentDir) / path.text

instance : MonadDisk IO where
  createFolders path :=
    if path.text = "" then return .ok () else attempt (IO.FS.createDirAll path.text)
  isFolder path := do (← placeOf path).isDir
  listNames path := attempt do return (← (← placeOf path).readDir).toList.map (·.fileName)
  readText path := attempt (IO.FS.readFile path.text)
  writeText path text := attempt (IO.FS.writeFile path.text text)
  append path text := attempt (IO.FS.withFile path.text .append (·.putStr text))
  removeFile path := attempt (IO.FS.removeFile path.text)

/-- What the environment says about the user's directories. -/
def environmentOf : IO Environment := do
  return .ofVariables (← IO.getEnv "HOME") (← IO.getEnv "XDG_DATA_HOME") none

/-- Runs the program and tells its result. -/
def run (arguments : List String) : IO UInt32 := do
  let report : Report ← runM (← environmentOf) Feed.offline ⟨"", ""⟩ arguments
  IO.print report.output
  IO.eprint report.errors
  return report.exitCode.toUInt32

end ComponentInstall.Main

def main (arguments : List String) : IO UInt32 := ComponentInstall.Main.run arguments

import TickScript.Command.Execute

/-
  The program: a command line, carried out on the files of this machine.
-/

namespace TickScript.Program

/-- What a path leads to on this machine. -/
def kindOnDisk? (path : String) : IO (Option PathKind) := do
  try
    let place ← IO.FS.realPath path
    pure (some (if ← place.isDir then .directory else .file))
  catch _ => pure none

/-- The text of a file of this machine. -/
def textOnDisk? (path : String) : IO (Option String) := do
  try pure (some (← IO.FS.readFile path)) catch _ => pure none

/-- The files in a directory of this machine and below it.  Links are not followed. -/
partial def filesOnDisk (dir : String) (below : String) : IO (List String) := do
  let place ← IO.FS.realPath (Files.join dir below)
  let entries ← place.readDir
  let found ← entries.toList.mapM fun entry => do
    let name := below ++ entry.fileName
    match (← entry.path.symlinkMetadata).type with
    | .dir => filesOnDisk dir (name ++ "/")
    | .file => pure [name]
    | _ => pure []
  pure found.flatten

/-- Writes a file of this machine and the directories that it needs. -/
def writeOnDisk (path text : String) : IO Bool := do
  try
    IO.FS.createDirAll (Files.parent path)
    IO.FS.writeFile path text
    pure true
  catch _ => pure false

instance : FileAccess IO where
  workingDir := do pure (← IO.currentDir).toString
  kind? := kindOnDisk?
  readText? := textOnDisk?
  filesBelow dir := do
    try filesOnDisk dir "" catch _ => pure []
  writeText := writeOnDisk

end TickScript.Program

/-- Carries out the command line and returns its exit code. -/
def main (args : List String) : IO UInt32 := do
  let ending : TickScript.Command.Ending ← TickScript.Command.runLine args
  for line in ending.output do IO.println line
  for line in ending.complaint do IO.eprintln line
  pure ending.exitCode.toUInt32

import EventWiki.CommandLine.Reads
import EventWiki.CommandLine.Run

namespace EventWiki.CommandLine

/-! The program. What a command may read is read first, the command is run on it, and the files
that it changed are written. -/

def watchedVariables : List String :=
  [gamePathVariable, LogFilter.variableName] ++ Terminal.watched

def readEnvironment : IO Environment := do
  let found ← watchedVariables.filterMapM fun name => do
    return (← IO.getEnv name).map (name, ·)
  if ← (← IO.getStdout).isTty then return (Terminal.presenceVariable, "1") :: found
  else return found

partial def readEntry? (path : String) : IO (Option Disk.Entry) := do
  let place := System.mkFilePath [path]
  if ← place.isDir then
    let names := (← place.readDir).toList.map (·.fileName)
    let entries ← names.filterMapM fun name => do
      return (← readEntry? (Path.join path name)).map (name, ·)
    return some (.directory entries)
  else if ← place.pathExists then
    return some (.file (← IO.FS.readBinFile path))
  else
    return none

def install (disk : Disk) (path : String) : IO Disk := do
  if path.isEmpty then return disk
  match ← readEntry? path with
  | some entry => return disk.install path entry
  | none => return disk

/-- The settings lead to the rules, and the rules to further parts of the game. -/
def rounds : Nat := 3

def readDisk (command : Command) : IO Disk := do
  let working := Path.names (Path.steps (← IO.currentDir).toString)
  let mut disk := Disk.empty working
  let mut known : List String := []
  for _ in List.range rounds do
    for path in command.paths disk do
      if !known.contains path then
        known := path :: known
        disk ← install disk path
  return disk

def writeChanges (before after : Disk) : IO Unit := do
  for (path, bytes) in before.changes after "/" do
    let place := System.mkFilePath ["/" ++ path]
    if let some directory := place.parent then
      IO.FS.createDirAll directory
    IO.FS.writeBinFile place bytes

end EventWiki.CommandLine

open EventWiki EventWiki.CommandLine in
def main (arguments : List String) : IO UInt32 := do
  let environment ← readEnvironment
  let disk ←
    match Invocation.read environment arguments with
    | .ok invocation => readDisk invocation.command
    | .error _ => pure (Disk.empty [])
  let outcome := run environment arguments disk
  writeChanges disk outcome.disk
  IO.print outcome.out
  IO.eprint outcome.err
  return outcome.code.toUInt32

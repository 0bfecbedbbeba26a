import FleetScript.Program

/-!
The program on a real disk. What the run depends on is read first, the run itself is
`Program.run`, and then the files that it changed are written. No client programs are started
from here, so sessions other than dry runs end with their client not found.
-/

namespace FleetScript

/-- The disk with what really stands where a path leads to. -/
def loaded (disk : Disk) (path : String) : IO Disk := do
  let place := (← IO.currentDir) / path
  if ← place.isDir then
    return disk.withFolder path
  if ← place.pathExists then
    return disk.withFile path (← IO.FS.readBinFile place).toList
  return disk

def loadedFolder (disk : Disk) (folder : String) : IO Disk := do
  let place := (← IO.currentDir) / folder
  let mut disk ← loaded disk folder
  if ← place.isDir then
    for entry in ← place.readDir do
      disk ← loaded disk (Path.join folder entry.fileName)
  return disk

def elapsed (seconds : Nat) : String :=
  let parts := [(seconds / 3600, "h"), (seconds / 60 % 60, "m"), (seconds % 60, "s")]
  let shown := parts.filter (·.1 ≠ 0)
  if shown.isEmpty then "0s"
  else Text.joinWith " " (shown.map fun (n, unit) => Text.decimal n ++ unit)

end FleetScript

open FleetScript

/-- Runs the program with the arguments that it is given. -/
def main (args : List String) : IO UInt32 := do
  let home := (← IO.getEnv "HOME").getD ""
  let started ← IO.monoMsNow
  let mut disk := Disk.ofBase (String.ofList ((← IO.currentDir).toString.toList.drop 1))
  for path in Program.filesRead home args do
    disk ← loaded disk path
  if let some folder := Program.logFolder? disk home args then
    disk ← loadedFolder disk folder
  let finish := Program.run { disk, home, programs := fun _ => .missing } args
  for (path, content) in finish.disk.changedSince disk do
    IO.FS.writeBinFile path ⟨content.toArray⟩
  IO.print finish.stdout
  if let some tally := finish.tally then
    let milliseconds := (← IO.monoMsNow) - started
    IO.println (tally ++ " in " ++ elapsed (milliseconds / 1000))
  IO.eprint finish.stderr
  return finish.exit.toUInt32

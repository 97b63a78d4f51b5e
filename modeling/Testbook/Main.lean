import Std.Time.DateTime.Timestamp
import Testbook.IdSource.Random
import Testbook.Program.Reach
import Testbook.Store.TableFile

/-! The command line program. It takes in what the invocation can see of the disk, runs the program
on that, and writes back what the program has changed. -/

set_option autoImplicit false

namespace Testbook.Disk

def readEntry? (place : Place) : IO (Option Entry) := do
  let path := Directory.pathOf place
  try
    if ← (← IO.FS.realPath path).isDir then return some .folder
    let bytes ← IO.FS.readBinFile path
    let rows :=
      if place.getLast? = some Medium.databaseName then
        (String.fromUTF8? bytes).bind Table.ofText?
      else none
    return some (rows.elim (.file bytes) .table)
  catch _ => return none

def readAll (paths : List String) : IO Directory := do
  let mut directory : Directory := {}
  for path in paths do
    for place in Directory.along [] (Directory.steps path) do
      if let some entry ← readEntry? place then
        directory := directory.put place entry
  return directory

def writeEntry (place : Place) : Entry → IO Unit
  | .folder => IO.FS.createDirAll (Directory.pathOf place)
  | .file bytes => IO.FS.writeBinFile (Directory.pathOf place) bytes
  | .table rows => IO.FS.writeFile (Directory.pathOf place) (Table.written rows)

end Testbook.Disk

namespace Testbook.Program

def readVariables : IO Variables :=
  variableNames.filterMapM fun name => do
    return (← IO.getEnv name).map fun value => (name, value)

def readClock : IO Instant := do
  let now ← Std.Time.Timestamp.now
  let duration := now.toDurationSinceUnixEpoch
  return (Instant.ofEpoch? duration.second.val duration.nano.val.toNat).getD Instant.epoch

def build : Build where
  commit := "unknown"
  built := "unknown"

def execute (words : List String) : IO UInt32 := do
  let begun ← IO.monoMsNow
  let env ← readVariables
  let seed ← IO.getRandomBytes 32
  let directory ← Disk.readAll (reach env words)
  let now ← readClock
  let elapsed := (← IO.monoMsNow) - begun
  let (result, world) := run build env now elapsed ⟨directory, .random seed.toList⟩ words
  for (place, entry) in directory.changes world.directory do
    Disk.writeEntry place entry
  IO.print result.out
  IO.eprint result.err
  return result.code.toUInt32

end Testbook.Program

def main (words : List String) : IO UInt32 := Testbook.Program.execute words

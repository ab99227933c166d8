import ChannelKeeper.Command.Grammar
import ChannelKeeper.Machine
import Std.Time.Zoned.Database

/-!
# The command line program

Reads the files below the working directory, carries the command out on them, and
writes back those that are new or changed. Files elsewhere, servers and other
programs are not reached, and an embedded database starts empty.
-/

namespace ChannelKeeper.CommandLine

-- ---------------------------------------------------------------------------
-- Files
-- ---------------------------------------------------------------------------

def contentOfBytes (bytes : ByteArray) : Content :=
  match String.fromUTF8? bytes with
  | some text => .text text
  | none => .octets (bytes.toList.map (·.toNat))

def bytesOfContent : Content → ByteArray
  | .text s => s.toUTF8
  | .octets ns => ⟨(ns.map UInt8.ofNat).toArray⟩

/-- Adds a file, or a directory with what lies in it. Links are passed over. -/
partial def addEntry (directory : Location) (d : Disk) (entry : IO.FS.DirEntry) : IO Disk := do
  let place := directory ++ [entry.fileName]
  let data ← entry.path.symlinkMetadata
  match data.type with
  | .dir => (← entry.path.readDir).foldlM (addEntry place) (d.put place .directory)
  | .file =>
    let content := contentOfBytes (← IO.FS.readBinFile entry.path)
    return d.put place (.file content data.modified.sec)
  | _ => return d

/-- The files below the working directory. -/
def readDisk (seconds : Int) : IO Disk := do
  let here ← IO.currentDir
  let place := (Text.splitOn '/' here.toString).filter (!·.isEmpty)
  let above := (List.range place.length).map fun n => (place.take n, DiskNode.directory)
  (← here.readDir).foldlM (addEntry place) ⟨above, place, seconds⟩

/-- Writes what was not there before, or was another. -/
def writeChanges (before after : Disk) : IO Unit := do
  for (place, node) in after.nodes do
    if before.node? place != some node then
      let path := "/" ++ Text.join "/" place
      match node with
      | .directory => IO.FS.createDirAll path
      | .file content _ => IO.FS.writeBinFile path (bytesOfContent content)

-- ---------------------------------------------------------------------------
-- Reporting
-- ---------------------------------------------------------------------------

def errorLines (error : CommandError) : List String :=
  match error.messages with
  | [] => []
  | message :: [] => ["Error: " ++ message]
  | message :: causes => ["Error: " ++ message, "", "Caused by:"] ++ causes.map ("    " ++ ·)

/-- The variable that holds the address of the database where no option does. -/
def addressVariable : String := "SQL_DSN"

def withEnvironment (invocation : Invocation) : IO Invocation := do
  let address := invocation.options.dsn.or (← IO.getEnv addressVariable)
  return { invocation with options := { invocation.options with dsn := address } }

/-- The zone that the clocks here are set to, and universal time where none is known. -/
def localZone : IO Zone := do
  let rules ← try Std.Time.Database.defaultGetLocalZoneRules catch _ => pure .UTC
  let zoneAt (seconds : Int) := rules.timezoneAt (.ofSecondsSinceUnixEpoch (.ofInt seconds))
  return ⟨fun seconds => (zoneAt seconds).offset.second.val⟩

def carryOut (invocation : Invocation) : IO UInt32 := do
  let seconds := (← Std.Time.Timestamp.now).toSecondsSinceUnixEpoch.val
  let zone ← localZone
  let disk ← readDisk seconds
  let machine : Machine := { disk := disk, zone := zone }
  let (result, console) := machine.run (.ofSeconds seconds zone) invocation
  console.printed.forM fun line => IO.println line
  writeChanges disk console.state.disk
  match result with
  | .ok isHealthy => return if isHealthy then 0 else 1
  | .error e =>
    (errorLines e).forM fun line => IO.eprintln line
    return 1

end ChannelKeeper.CommandLine

open ChannelKeeper

def main (arguments : List String) : IO UInt32 :=
  match Invocation.read arguments with
  | .ok invocation => do CommandLine.carryOut (← CommandLine.withEnvironment invocation)
  | .error fault => do
    if fault.isQuestion then
      IO.println fault.message
      return 0
    else
      IO.eprintln ("error: " ++ fault.message)
      return 2

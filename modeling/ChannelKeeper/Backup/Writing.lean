import ChannelKeeper.Backup
import ChannelKeeper.Channel.Export
import ChannelKeeper.Json.Fault
import ChannelKeeper.Probe.Report
import ChannelKeeper.Workspace

/-!
# Writing and reading backups

Exports of selected channels, full backups and snapshots, and what is found of
them later. A backup holds the rows as they are listed at the moment of its
writing.
-/

namespace ChannelKeeper

structure WrittenFile where
  path : String
  channels : Nat
deriving DecidableEq, Repr

def WrittenFile.toJson (f : WrittenFile) : Json.Value :=
  .object [("path", .string f.path), ("channels", .nat f.channels)]

namespace Workspace

variable {σ : Type}

/-- Exports the selected channels, with their secrets hidden unless told not to. -/
def exportChannels (w : Workspace σ) (f : ChannelFilter) (format : ExportFormat) (hide : Bool)
    (output : Option String) : Task σ WrittenFile := do
  let rows ← stored (w.channels.list f)
  let channels := if hide then rows.map Channel.masked else rows
  let time ← w.clock.display
  let zone ← w.clock.localZone
  let content := Channel.renderExport format channels time Backup.sourceExport zone
  let stamp ← w.clock.stamp
  let path := output.getD ("channels_export_" ++ stamp ++ "." ++ format.extension)
  w.writeFile path content
  return ⟨path, channels.length⟩

def writeBackup (w : Workspace σ) (path source : String) : Task σ WrittenFile := do
  let channels ← stored (w.channels.list .everything)
  let time ← w.clock.display
  w.writeFile path (Backup.ofChannels time source channels).render
  return ⟨path, channels.length⟩

def backup (w : Workspace σ) (output : Option String) : Task σ WrittenFile := do
  let path ← match output with
    | some path => pure path
    | none => w.stampedPath "channels_backup"
  w.writeBackup path Backup.sourceFull

def snapshot (w : Workspace σ) (start source : String) : Task σ WrittenFile := do
  w.writeBackup (← w.stampedPath start) source

def loadBackup (w : Workspace σ) (path : String) : Task σ Backup := do
  let found ← onFile path (w.files.exists? path)
  if !found then throw (.io (path ++ ": file not found"))
  let content ← onFile path (w.files.read path)
  match Backup.read? content with
  | some document => return document
  | none => throw (.invalidBackup (path ++ ": " ++ Json.faultText content))

/-- The newest first; of one time, by name from the last. -/
def comesFirst (a b : FileEntry) : Bool :=
  match a.modified, b.modified with
  | none, some _ => false
  | some _, none => true
  | some s, some t => t < s || (s == t && decide (b.name ≤ a.name))
  | none, none => decide (b.name ≤ a.name)

/-- The documents in the backup directory. A directory that is not there has none. -/
def listBackups (w : Workspace σ) : Task σ (List FileEntry) := do
  match ← (w.files.list w.backupDirectory).attempt with
  | .ok entries =>
    return (entries.filter fun e => Path.extension? e.path == some "json").mergeSort comesFirst
  | .error e =>
    if e.kind = .notFound then return []
    else throw (.io (w.backupDirectory ++ ": " ++ e.detail))

def saveTestReport (w : Workspace σ) (path : String) (results : List ChannelTestResult) : Task σ Unit := do
  let time ← w.clock.display
  w.writeFile path (channelReport time results)

end Workspace

end ChannelKeeper

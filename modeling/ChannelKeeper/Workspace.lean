import ChannelKeeper.Clock
import ChannelKeeper.Files.Basic
import ChannelKeeper.Store.Basic

/-!
# Workspace

What an operation works with: the gateway's stores, a place for files, a clock,
and the directory that backups go to.
-/

namespace ChannelKeeper

structure Workspace (σ : Type) where
  channels : ChannelStore σ
  tables : TableStore σ
  files : FileStore σ
  clock : Clock σ
  backupDirectory : String

namespace Workspace

variable {σ α : Type}

abbrev Task (σ α : Type) := Action σ ChannelError α

/-- A call of the store inside an operation on channels. -/
def stored (act : Action σ StoreError α) : Task σ α := act.mapError .store

/-- A call of the file place inside an operation on channels: the path comes
before the reason. -/
def onFile (path : String) (act : Action σ IoError α) : Task σ α :=
  act.mapError fun e => .io (path ++ ": " ++ e.detail)

def writeFile (w : Workspace σ) (path content : String) : Task σ Unit :=
  onFile path (w.files.write path content)

/-- A path in the backup directory with the time in its name. -/
def stampedPath (w : Workspace σ) (start : String) : Task σ String := do
  let stamp ← w.clock.stamp
  return Path.join w.backupDirectory (start ++ "_" ++ stamp ++ ".json")

end Workspace

end ChannelKeeper

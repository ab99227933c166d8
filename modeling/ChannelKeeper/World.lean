import ChannelKeeper.Workspace

/-!
# Worlds

A state in two parts, the data of the stores and the files, and the workspace
that uses both.
-/

namespace ChannelKeeper

structure World (δ φ : Type) where
  data : δ
  files : φ

namespace World

variable {δ φ : Type}

/-- The workspace over stores and files that know nothing of each other. -/
def workspace (channels : ChannelStore δ) (tables : TableStore δ) (files : FileStore φ)
    (moment : Moment) (backupDirectory : String) : Workspace (World δ φ) where
  channels := channels.onPart World.data fun data w => { w with data := data }
  tables := tables.onPart World.data fun data w => { w with data := data }
  files := files.onPart World.files fun files w => { w with files := files }
  clock := .fixed moment
  backupDirectory := backupDirectory

end World

end ChannelKeeper

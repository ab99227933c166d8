import ChannelKeeper.Batch.Tester
import ChannelKeeper.Command.Console
import ChannelKeeper.Deployment.Compose
import ChannelKeeper.Gemini.Request
import ChannelKeeper.Sql.Dialect

/-!
# Platform

What the program finds around it: files, a clock, other programs, databases that
can be connected to, the net, and an operator.
-/

namespace ChannelKeeper

/-- A database that was connected to. -/
structure Gateway (σ : Type) where
  backend : Sql.Backend
  channels : ChannelStore σ
  tables : TableStore σ

structure Platform (σ : Type) where
  files : FileStore σ
  clock : Clock σ
  commands : CommandRunner σ
  /-- Connects to the database of an address. -/
  connect : String → Action σ StoreError (Gateway σ)
  transport : Gemini.Transport
  /-- How long a request takes. -/
  duration : ProbeCall → Nat
  operator : Operator

namespace Gateway

variable {σ : Type}

def workspace (g : Gateway σ) (p : Platform σ) (backupDirectory : String) : Workspace σ :=
  ⟨g.channels, g.tables, p.files, p.clock, backupDirectory⟩

end Gateway

end ChannelKeeper

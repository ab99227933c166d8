import ChannelKeeper.Backup
import ChannelKeeper.Workspace

/-!
# Importing a backup

A channel of the document is there already when a row has its name, or its id if
that is positive. Such rows are kept, or replaced under their own id; all other
channels get a fresh id. A failure costs only the channel it happens to.
-/

namespace ChannelKeeper

namespace ImportReport

def recordOutcome {α : Type} (r : ImportReport) (c : Channel) : Except StoreError α → ImportReport
  | .ok _ => r.recordSuccess
  | .error e => r.recordFailure c e.message

def toJson (r : ImportReport) : Json.Value :=
  .object [
    ("total", .nat r.total),
    ("success", .nat r.success),
    ("failed", .nat r.failed),
    ("skipped", .nat r.skipped),
    ("errors", .array (r.errors.map .string)),
    ("dry_run", .bool r.dryRun)]

end ImportReport

namespace Workspace

variable {σ : Type}

def importChannel (w : Workspace σ) (updateExisting dryRun : Bool) (r : ImportReport) (c : Channel) :
    Task σ ImportReport := do
  match ← (w.channels.findExisting c.name c.id).attempt with
  | .error e => return r.recordFailure c e.message
  | .ok (some row) =>
    if !updateExisting then return r.recordSkip
    else if dryRun then return r.recordSuccess
    else return r.recordOutcome c (← (w.channels.update { c with id := row.id }).attempt)
  | .ok none =>
    if dryRun then return r.recordSuccess
    else return r.recordOutcome c (← (w.channels.insert c false).attempt)

def importBackup (w : Workspace σ) (document : Backup) (updateExisting dryRun : Bool) :
    Task σ ImportReport :=
  Action.fold (w.importChannel updateExisting dryRun)
    { total := document.channels.length, dryRun := dryRun } document.channels

end Workspace

end ChannelKeeper

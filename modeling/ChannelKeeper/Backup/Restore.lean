import ChannelKeeper.Backup.Writing

/-!
# Replacing and emptying the table

A restore puts the rows of a document in the place of all rows there are, under
their own ids. A reset empties the table. Both save the rows first; a reset that
cannot save them does not go on.
-/

namespace ChannelKeeper

namespace RestoreReport

def recordFailure (r : RestoreReport) (c : Channel) (message : String) : RestoreReport :=
  { r with failed := r.failed + 1, errors := r.errors ++ [failureLine c.name c.id message] }

def toJson (r : RestoreReport) : Json.Value :=
  .object [
    ("total", .nat r.total),
    ("restored", .nat r.restored),
    ("failed", .nat r.failed),
    ("deleted", .nat r.deleted),
    ("errors", .array (r.errors.map .string)),
    ("snapshot", .optional .string r.snapshot),
    ("dry_run", .bool r.dryRun)]

end RestoreReport

structure ResetReport where
  channelsBefore : Int
  backup : Option WrittenFile := none
  deleted : Nat := 0
  dryRun : Bool := false
deriving DecidableEq, Repr

def ResetReport.toJson (r : ResetReport) : Json.Value :=
  .object [
    ("channels_before", .int r.channelsBefore),
    ("backup", .optional WrittenFile.toJson r.backup),
    ("deleted", .nat r.deleted),
    ("dry_run", .bool r.dryRun)]

namespace Workspace

variable {σ : Type}

def restoreChannel (w : Workspace σ) (r : RestoreReport) (c : Channel) : Task σ RestoreReport := do
  match ← (w.channels.insert c true).attempt with
  | .ok _ => return { r with restored := r.restored + 1 }
  | .error e => return r.recordFailure c e.message

/-- The rows are saved first; if that fails, the restore goes on without. -/
def restore (w : Workspace σ) (document : Backup) (dryRun : Bool) : Task σ RestoreReport := do
  let report : RestoreReport := { total := document.channels.length, dryRun := dryRun }
  if dryRun then return report
  else
    let saved ← (w.snapshot "pre_restore_backup" Backup.sourceFull).attempt
    let snapshot := match saved with
      | .ok file => some file.path
      | .error _ => none
    let deleted ← stored w.channels.deleteAll
    Action.fold w.restoreChannel { report with snapshot := snapshot, deleted := deleted } document.channels

/-- Saves and empties the table, or does one of both. -/
def reset (w : Workspace σ) (saves empties dryRun : Bool) : Task σ ResetReport := do
  let before ← stored w.channels.count
  if dryRun then return { channelsBefore := before, dryRun := true }
  else
    let backup ← if saves then (w.snapshot "reset_backup" Backup.sourceReset).map some else pure none
    let deleted ← if empties then stored w.channels.deleteAll else pure 0
    return { channelsBefore := before, backup := backup, deleted := deleted }

end Workspace

end ChannelKeeper

import ChannelKeeper.Sql.Dump
import ChannelKeeper.Table.Stats
import ChannelKeeper.Workspace

/-!
# Emptying tables

A run empties tables one after the other. With backups on, a table is only
emptied when it is known to be empty already or its rows have just been written
to a file of its own in the run's directory; all else is reported and left alone.
-/

namespace ChannelKeeper

structure CleanReport where
  /-- Where the dumps of the run are, if it writes any. -/
  backupDirectory : Option String
  outcomes : List CleanOutcome
deriving DecidableEq, Repr

/-- Members without a value are left out. -/
def CleanOutcome.toJson (o : CleanOutcome) : Json.Value :=
  .object ([("table", Json.Value.string o.table), ("success", .bool o.success),
      ("rows_removed", .int o.rowsRemoved)] ++
    (o.backupFile.map fun file => ("backup_file", Json.Value.string file)).toList ++
    (o.error.map fun message => ("error", Json.Value.string message)).toList)

namespace CleanReport

def succeeded (r : CleanReport) : Nat := (r.outcomes.filter (·.success)).length

def rowsRemoved (r : CleanReport) : Int := (r.outcomes.filter (·.success)).foldr (·.rowsRemoved + ·) 0

def toJson (r : CleanReport) : Json.Value :=
  .object [
    ("backup_dir", .optional .string r.backupDirectory),
    ("outcomes", .array (r.outcomes.map CleanOutcome.toJson))]

end CleanReport

namespace Workspace

variable {σ α : Type}

abbrev TableTask (σ α : Type) := Action σ CleanError α

def asked (act : Action σ StoreError α) : TableTask σ α := act.mapError .store

def onTableFile (path : String) (act : Action σ IoError α) : TableTask σ α :=
  act.mapError fun e => .io (path ++ ": " ++ e.detail)

def listTables (w : Workspace σ) : TableTask σ (List String) := asked w.tables.listTables

/-- A table that cannot be counted is shown without rows. -/
def statsOf (w : Workspace σ) (name : String) : TableTask σ TableStats := do
  match ← (w.tables.countRows name).attempt with
  | .ok rows => return .ofCount name rows
  | .error _ => return .ofCount name 0

def tableStats (w : Workspace σ) : TableTask σ (List TableStats) := do
  let names ← w.listTables
  let stats ← Action.forEach w.statsOf names
  return stats.mergeSort TableStats.comesBefore

def databaseStats (w : Workspace σ) : TableTask σ DatabaseStats := do
  return .ofTables (← w.tableStats)

def dumpToFile (w : Workspace σ) (table path : String) : TableTask σ Unit := do
  let dump ← asked (w.tables.dumpTable table)
  let time ← w.clock.display
  onTableFile path (w.files.write path (Sql.renderDump dump w.tables.identifierQuote time))

def emptyTable (w : Workspace σ) (table : String) (rows : Int) (file : Option String) :
    TableTask σ CleanOutcome := do
  match ← (w.tables.truncate table).attempt with
  | .ok () => return { table := table, success := true, rowsRemoved := rows, backupFile := file }
  | .error e => return { table := table, backupFile := file, error := some e.message }

def saveAndEmpty (w : Workspace σ) (table path : String) : TableTask σ CleanOutcome := do
  match ← (w.tables.countRows table).attempt with
  | .error e => return { table := table, error := some ("count failed: " ++ e.message) }
  | .ok rows =>
    if rows ≤ 0 then w.emptyTable table rows none
    else
      match ← (w.dumpToFile table path).attempt with
      | .error e => return { table := table, error := some ("backup failed: " ++ e.message) }
      | .ok () => w.emptyTable table rows (some path)

/-- Empties a table without saving it; its size does not matter. -/
def emptyUnsaved (w : Workspace σ) (table : String) : TableTask σ CleanOutcome := do
  match ← (w.tables.countRows table).attempt with
  | .ok rows => w.emptyTable table rows none
  | .error _ => w.emptyTable table 0 none

/-- Each table has a file named for it and for the time of the run. -/
def clean (w : Workspace σ) (tables : List String) (saves : Bool) : TableTask σ CleanReport := do
  let stamp ← w.clock.stamp
  let directory := Path.join w.backupDirectory ("clean_" ++ stamp)
  if saves then
    onTableFile directory (w.files.createDirectory directory)
    let pathOf (table : String) := Path.join directory (table ++ "_" ++ stamp ++ ".sql")
    let outcomes ← Action.forEach (fun table => w.saveAndEmpty table (pathOf table)) tables
    return ⟨some directory, outcomes⟩
  else
    return ⟨none, ← Action.forEach w.emptyUnsaved tables⟩

end Workspace

end ChannelKeeper

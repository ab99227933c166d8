import ChannelKeeper.Command.Channels
import ChannelKeeper.Command.Models
import ChannelKeeper.Table.Cleaning

/-!
# Commands on tables

Overviews of the database, the emptying of tables and of the channels table, and
the backups there are. Emptying shows what it is about and asks; where critical
tables are among them, a word has to be typed.
-/

namespace ChannelKeeper

namespace TableStats

def overview (tables : List TableStats) : Text.Grid where
  header := ["Table", "Rows", "Importance", "Description", "Impact"]
  rows := tables.map fun t =>
    [t.name, Text.countText t.rows, t.importance.label, t.description,
      ((Catalog.find? t.name).map (·.impact)).getD ""]

def selection (tables : List TableStats) : Text.Grid where
  header := ["Table", "Rows", "Importance", "Category"]
  rows := tables.map fun t => [t.name, Text.countText t.rows, t.importance.label, t.category.label]

end TableStats

def CategoryTotal.grid (totals : List CategoryTotal) : Text.Grid where
  header := ["Category", "Tables", "Rows"]
  rows := totals.map fun t => [t.category.title, toString t.tables, Text.countText t.rows]

def CleanOutcome.grid (outcomes : List CleanOutcome) : Text.Grid where
  header := ["", "Table", "Rows removed", "Backup / error"]
  rows := outcomes.map fun o =>
    [if o.success then "✓" else "✗", o.table, Text.countText o.rowsRemoved,
      (o.error.or o.backupFile).getD ""]

def FileEntry.grid (files : List FileEntry) (zone : Zone) : Text.Grid where
  header := ["File", "Size", "Modified"]
  rows := files.map fun f =>
    let modified := f.modified.map fun seconds => Calendar.dateTimeText (zone.wallTime seconds)
    [f.name, Text.sizeText f.size, modified.getD ""]

namespace Desk

variable {σ : Type}

open Run

def tableStats (d : Desk σ) : Run σ (List TableStats) :=
  during "failed to read tables" (tableTask d.workspace.tableStats)

def categoryLines (stats : List TableStats) (category : TableCategory) : List String :=
  let tables := stats.filter (·.category == category)
  if tables.isEmpty then [] else ["  " ++ category.title, (TableStats.overview tables).render, ""]

def listTables (d : Desk σ) : Run σ Bool := do
  let stats ← d.tableStats
  d.present (.array (stats.map TableStats.toJson))
    (lines ("" :: TableCategory.all.flatMap (categoryLines stats)))
  return true

def leftAligned (columns : Nat) (text : String) : String :=
  text ++ Text.repeated ' ' (columns - text.length)

def statsLines (backend : Sql.Backend) (s : DatabaseStats) : List String :=
  ["",
    "  Database statistics",
    "  Backend:        " ++ backend.name,
    "  Tables:         " ++ toString s.totalTables,
    "  Total records:  " ++ Text.countText s.totalRecords,
    "  Empty tables:   " ++ toString s.emptyTables] ++
  (if s.emptySample.isEmpty then [] else ["                  " ++ Text.join ", " s.emptySample]) ++
  (if s.largeTables.isEmpty then []
    else ["", "  Large tables"] ++ s.largeTables.map fun t =>
      "    " ++ leftAligned 20 t.name ++ " " ++ rightAligned 12 (Text.countText t.rows) ++ " rows") ++
  ["", (CategoryTotal.grid s.categories).render, ""]

def showStats (d : Desk σ) : Run σ Bool := do
  let stats ← during "failed to read tables" (tableTask d.workspace.databaseStats)
  d.present stats.toJson (lines (statsLines d.backend stats))
  return true

-- ---------------------------------------------------------------------------
-- Emptying tables
-- ---------------------------------------------------------------------------

def chooseTables (d : Desk σ) (o : CleanOptions) (stats : List TableStats) :
    Run σ (Option TableSelection) :=
  match o.selection with
  | some selection => pure (some selection)
  | none => if o.agreed || d.asJson then throw .noSelection else .answer (d.operator.chooses stats)

def cleanPlanLines (d : Desk σ) (stats : List TableStats) (selected : List String) (saves : Bool) :
    List String :=
  ["", (TableStats.selection (stats.filter fun t => selected.contains t.name)).render, "",
    if saves then
      "  i SQL backups go to " ++ Path.join d.settings.backupDirectory "clean_<timestamp>"
    else "  ! No backups will be written."]

def agreeToClean (d : Desk σ) (selected : List String) (agreed : Bool) : Run σ Bool := do
  let deed := "Clean " ++ toString selected.length ++ " table(s)"
  if TableSelection.needsTypedWord selected then
    onlyIf (!agreed) (warn "The selection includes CRITICAL tables.")
    d.confirmByWord deed "CLEAN" agreed
  else d.confirm (deed ++ "?") agreed

def noteLines (outcomes : List CleanOutcome) : List String :=
  let notes := notesAfterCleaning outcomes
  if notes.isEmpty then []
  else ["", "  Next steps"] ++ notes.map fun (table, note) => "    " ++ table ++ ": " ++ note

def cleanLines (r : CleanReport) : List String :=
  ["", (CleanOutcome.grid r.outcomes).render, "",
    "  ✓ Cleaned " ++ toString r.succeeded ++ "/" ++ toString r.outcomes.length ++ " table(s), " ++
      Text.countText r.rowsRemoved ++ " row(s) removed"] ++
  (r.backupDirectory.map fun path => "  i Backups: " ++ path).toList ++ noteLines r.outcomes ++ [""]

def emptyTables (d : Desk σ) (o : CleanOptions) (selected : List String) : Run σ Bool := do
  let report ← during "clean failed" (tableTask (d.workspace.clean selected o.saves))
  d.present report.toJson (lines (cleanLines report))
  return report.succeeded == report.outcomes.length

/-- Where no selected table exists, the first name that none has is an error. -/
def nothingToClean (missing : List String) : Run σ Bool :=
  match missing with
  | name :: _ => throw (.clean (.unknownTable name))
  | [] => do
    info "Nothing to clean."
    return true

def cleanSelection (d : Desk σ) (o : CleanOptions) (stats : List TableStats)
    (selection : TableSelection) : Run σ Bool := do
  onlyIf (selection == .all && !o.agreed && !d.asJson)
    (warn "Every table in the database will be emptied.")
  let (selected, missing) := selection.resolve (stats.map (·.name))
  d.say (lines (missing.map fun name => "  ! Table '" ++ name ++ "' does not exist, skipping"))
  if selected.isEmpty then nothingToClean missing
  else
    d.say (lines (d.cleanPlanLines stats selected o.saves))
    if ← d.agreeToClean selected o.agreed then d.emptyTables o selected
    else
      cancelled
      return true

def cleanTables (d : Desk σ) (o : CleanOptions) : Run σ Bool := do
  let stats ← d.tableStats
  match ← d.chooseTables o stats with
  | some selection => d.cleanSelection o stats selection
  | none =>
    cancelled
    return true

-- ---------------------------------------------------------------------------
-- Emptying the channels table
-- ---------------------------------------------------------------------------

def resetPlanLines (d : Desk σ) (o : ResetOptions) (count : Int) : List String :=
  ["", "  i " ++ toString count ++ " channel(s) in the database", "", "  Planned operations"] ++
  (if o.saves then
    ["    1. Back up channels to " ++ Path.join d.workspace.backupDirectory "reset_backup_<timestamp>.json"]
  else []) ++
  (if o.empties then ["    " ++ (if o.saves then "2" else "1") ++ ". Delete every channel"] else []) ++
  [""] ++
  (if o.empties && !o.saves then
    ["  ! No backup will be written. Deleted channels cannot be recovered."]
  else [])

def resetLines (o : ResetOptions) (r : ResetReport) : List String :=
  (r.backup.map fun file => "  ✓ " ++ backupLine file).toList ++
  (if o.empties then
    ["  ✓ Deleted " ++ toString r.deleted ++ " channel(s)"] ++
    (r.backup.map fun file => "  i Restore with: chanops channel restore " ++ file.path).toList
  else []) ++ [""]

/-- Only the deletion is asked for. -/
def agreeToReset (d : Desk σ) (o : ResetOptions) : Run σ Bool :=
  if o.empties then d.confirmByWord "This deletes every channel" "RESET" o.agreed else pure true

def resetChannels (d : Desk σ) (o : ResetOptions) : Run σ Bool := do
  let count ← d.countedChannels
  d.say (lines (d.resetPlanLines o count))
  if o.dryRun then
    let report ← task (d.workspace.reset o.saves o.empties true)
    d.present report.toJson (lines ["  i Dry run, nothing changed.", ""])
    return true
  else if ← d.agreeToReset o then
    let report ← during "reset failed" (task (d.workspace.reset o.saves o.empties false))
    d.present report.toJson (lines (resetLines o report))
    return true
  else
    cancelled
    return true

-- ---------------------------------------------------------------------------
-- Backups
-- ---------------------------------------------------------------------------

def backupJson (zone : Zone) (f : FileEntry) : Json.Value :=
  .object [
    ("modified", .optional (fun t => .string (Calendar.momentWithOffset t zone)) f.modified),
    ("name", .string f.name),
    ("path", .string f.path),
    ("size", .nat f.size)]

def listBackups (d : Desk σ) : Run σ Bool := do
  let files ← during "failed to list backups" (task d.workspace.listBackups)
  let zone ← task d.workspace.clock.localZone
  let directory := d.workspace.backupDirectory
  d.present (.array (files.map (backupJson zone)))
    (if files.isEmpty then lines ["", "  i No backups in " ++ directory, ""]
    else lines ["", "  Backups in " ++ directory, (FileEntry.grid files zone).render, ""])
  return true

def tableCommand (d : Desk σ) : TableCommand → Run σ Bool
  | .list => d.listTables
  | .stats => d.showStats
  | .clean options => d.cleanTables options
  | .reset options => d.resetChannels options
  | .backups => d.listBackups

end Desk

end ChannelKeeper

import ChannelKeeper.Backup.Import
import ChannelKeeper.Backup.Restore
import ChannelKeeper.Command.Desk
import ChannelKeeper.Text.Amount
import ChannelKeeper.Text.Grid

/-!
# Commands on channels

Each command ends with whether it went well. Imports and restores read their
document first, and change nothing before the operator has agreed.
-/

namespace ChannelKeeper

def TestSummary.averageLines (s : TestSummary) : List String :=
  (s.averageMilliseconds.map fun average => "  Avg response:   " ++ Decimal.fixed 0 average ++ " ms").toList

namespace TestSummary

def timedLines (title : String) (entries : List TimedEntry) : List String :=
  if entries.isEmpty then []
  else ["", "  " ++ title] ++
    entries.map fun e => "    " ++ e.label ++ " (" ++ toString e.milliseconds ++ " ms)"

def failedLines (entries : List FailedEntry) : List String :=
  if entries.isEmpty then []
  else ["", "  Failed"] ++ entries.map fun e => "    ✗ " ++ e.label ++ ": " ++ e.message

def channelLines (s : TestSummary) : List String :=
  ["",
    "  Summary",
    "  Total channels:   " ++ toString s.total,
    "  Successful:     " ++ toString s.successful,
    "  Failed:         " ++ toString s.failed,
    "  Success rate:   " ++ Decimal.fixed 1 s.successRate ++ "%"] ++
  s.averageLines ++ failedLines s.failures ++ timedLines "Fastest" s.fastest ++
  timedLines "Slowest" s.slowest ++ [""]

end TestSummary

def ChannelTestResult.progressLine (total position : Nat) (r : ChannelTestResult) : String :=
  let key := match r.keyIndex with
    | some index => " [key " ++ toString index ++ "/" ++ toString r.totalKeys ++ "]"
    | none => ""
  "  [" ++ toString position ++ "/" ++ toString total ++ "] " ++ (if r.result.success then "✅" else "❌") ++
    " " ++ r.channelName ++ key ++ ": " ++ r.result.message ++ " (" ++ toString r.result.milliseconds ++ " ms)"

def ImportReport.lines (r : ImportReport) : List String :=
  [""] ++ (if r.dryRun then ["  i Dry run, nothing written"] else []) ++
  ["  Total:    " ++ toString r.total,
    "  Success:  " ++ toString r.success,
    "  Skipped:  " ++ toString r.skipped,
    "  Failed:   " ++ toString r.failed] ++
  r.errors.map ("    ✗ " ++ ·) ++ [""]

def Channel.grid (channels : List Channel) : Text.Grid where
  header := ["ID", "Name", "Type", "Status", "Keys", "Models"]
  rows := channels.map fun c =>
    [toString c.id, c.name, c.typeName, c.statusName, toString c.keys.length, Text.shortened 60 c.models]

namespace Desk

variable {σ : Type}

open Run

def listChannels (d : Desk σ) (c : ChannelChoice) : Run σ Bool := do
  let channels ← during "failed to list channels"
    (task (Workspace.stored (d.workspace.channels.list { types := c.types, status := c.status })))
  d.present (.array (channels.map fun c => c.masked.toJson))
    (if channels.isEmpty then lines ["", "  i No channels found.", ""]
    else lines ["", (Channel.grid channels).render, "", "  " ++ toString channels.length ++ " channel(s)", ""])
  return true

def countedChannels (d : Desk σ) : Run σ Int :=
  during "failed to count channels" (task (Workspace.stored d.workspace.channels.count))

def countChannels (d : Desk σ) : Run σ Bool := do
  let count ← d.countedChannels
  d.present (.object [("channels", .int count)])
    (lines ["", "  i " ++ toString count ++ " channel(s) in the database", ""])
  return true

def exportChannels (d : Desk σ) (o : ExportOptions) : Run σ Bool := do
  let filter : ChannelFilter := { types := o.choice.types, status := o.choice.status }
  let file ← during "failed to export channels"
    (task (d.workspace.exportChannels filter o.format o.hidesSecrets o.output))
  d.present
    (.object [
      ("channels", .nat file.channels),
      ("format", .string o.format.extension),
      ("masked", .bool o.hidesSecrets),
      ("path", .string file.path)])
    (lines (["", "  ✓ Exported " ++ toString file.channels ++ " channel(s) to " ++ file.path] ++
      (if o.hidesSecrets then [] else ["  ! Secrets are written in clear text. Keep this file safe."]) ++
      [""]))
  return true

def backupLine (file : WrittenFile) : String :=
  "Backed up " ++ toString file.channels ++ " channel(s) to " ++ file.path

def backupChannels (d : Desk σ) (output : Option String) : Run σ Bool := do
  let file ← during "failed to back up channels" (task (d.workspace.backup output))
  d.present file.toJson (lines ["", "  ✓ " ++ backupLine file, ""])
  return true

def readBackup (d : Desk σ) (path : String) : Run σ Backup :=
  during ("failed to read backup " ++ path) (task (d.workspace.loadBackup path))

def previewImport (d : Desk σ) (document : Backup) (o : ImportOptions) : Run σ Bool := do
  if o.dryRun || o.agreed then return true
  else
    let preview ← task (d.workspace.importBackup document o.updateExisting true)
    lines preview.lines
    d.confirm ("Import " ++ toString preview.success ++ " channel(s)?") false

def importChannels (d : Desk σ) (o : ImportOptions) : Run σ Bool := do
  let document ← d.readBackup o.file
  if ← d.previewImport document o then
    let report ← during "import failed"
      (task (d.workspace.importBackup document o.updateExisting o.dryRun))
    d.present report.toJson (lines report.lines)
    return report.failed == 0
  else
    cancelled
    return true

def restoreHead (path : String) (document : Backup) : List String := [
  "",
  "  Backup file:  " ++ path,
  "  Exported at:  " ++ document.exportTime,
  "  Version:      " ++ document.version,
  "  Channels:     " ++ toString document.total,
  ""]

def restoreLines (r : RestoreReport) : List String :=
  if r.dryRun then
    ["  i Dry run: " ++ toString r.total ++ " channel(s) would replace the current table.", ""]
  else
    (r.snapshot.map fun path => "  i Pre-restore snapshot: " ++ path).toList ++
    ["  i Deleted " ++ toString r.deleted ++ " existing channel(s)",
      "  ✓ Restored " ++ toString r.restored ++ "/" ++ toString r.total ++ " channel(s)"] ++
    r.errors.map ("  ✗ " ++ ·) ++ [""]

/-- Warns of a restore and asks for it; a dry run needs no asking. -/
def agreeToRestore (d : Desk σ) (o : RestoreOptions) : Run σ Bool := do
  if o.dryRun then return true
  else
    d.say (warn "Restoring deletes every current channel first.")
    d.confirm "Restore channels from this backup?" o.agreed

def restoreChannels (d : Desk σ) (o : RestoreOptions) : Run σ Bool := do
  let document ← d.readBackup o.file
  d.say (lines (restoreHead o.file document))
  if ← d.agreeToRestore o then
    let report ← during "restore failed" (task (d.workspace.restore document o.dryRun))
    d.present report.toJson (lines (restoreLines report))
    return report.failed == 0
  else
    cancelled
    return true

/-- One channel by its id, or those of the chosen types. -/
def channelTestFilter (d : Desk σ) (o : ChannelTestOptions) : ChannelFilter :=
  match o.channelId with
  | some id => { id := some id, status := o.choice.status }
  | none => d.testedFilter o.choice

def noChannels (d : Desk σ) : Run σ Bool := do
  d.present (TestSummary.ofRecords []).toJson (lines ["", "  ! No channels match the selection.", ""])
  return true

def progress {α : Type} (line : Nat → Nat → α → String) (total : Nat) (results : List α) : List String :=
  (results.zipIdx 1).map fun (r, position) => line total position r

def saveReport (d : Desk σ) (path : Option String) (results : List ChannelTestResult) : Run σ Unit :=
  match path with
  | some path => during ("failed to write " ++ path) (task (d.workspace.saveTestReport path results))
  | none => pure ()

def reportLines (path : Option String) : List String :=
  match path with
  | some path => ["  ✓ Results written to " ++ path, ""]
  | none => []

def testChannels (d : Desk σ) (o : ChannelTestOptions) : Run σ Bool := do
  let channels ← during "failed to load channels"
    (task (Workspace.stored (d.workspace.channels.list (d.channelTestFilter o))))
  if channels.isEmpty then d.noChannels
  else
    let tester := d.tester o.batch.workers
    d.say (lines ["", "  i Testing " ++ toString channels.length ++ " channel(s) with " ++
      toString tester.workers ++ " worker(s)", ""])
    let time ← task d.workspace.clock.display
    let schedule := tester.testChannels d.prober d.duration channels o.batch.model time
    let results := schedule.completions.map (·.2)
    d.say (lines (progress ChannelTestResult.progressLine channels.length results))
    d.saveReport o.report results
    let summary := TestSummary.ofRecords (results.map ChannelTestResult.toRecord)
    d.present
      (Json.Value.sorted (.object [
        ("summary", summary.toJson),
        ("results", .array (results.map ChannelTestResult.toJson))]))
      (lines (summary.channelLines ++ reportLines o.report))
    return summary.allPassed

def channelCommand (d : Desk σ) : ChannelCommand → Run σ Bool
  | .list choice => d.listChannels choice
  | .count => d.countChannels
  | .exportFile options => d.exportChannels options
  | .backup output => d.backupChannels output
  | .importFile options => d.importChannels options
  | .restore options => d.restoreChannels options
  | .test options => d.testChannels options

end Desk

end ChannelKeeper

import ChannelKeeper.Command.Channels
import ChannelKeeper.Key.Keeping

/-!
# Commands on keys

Keys are tested from the channels or from a file. Rejected keys are taken out of
their channels only after the operator has agreed and all channels are saved.
-/

namespace ChannelKeeper

def PrunePlan.lines (p : PrunePlan) : List String :=
  let left := if p.disable then "no keys left, will be disabled"
    else toString p.remaining.length ++ " key(s) left"
  ["  [" ++ toString p.channelId ++ "] " ++ p.channelName ++ ": remove " ++
    toString p.removed.length ++ " key(s), " ++ left] ++
  p.removed.map fun key => "      - " ++ Credential.preview key

namespace KeyTestResult

def progressLine (total position : Nat) (r : KeyTestResult) : String :=
  "  [" ++ toString position ++ "/" ++ toString total ++ "] " ++
    (if r.result.success then "VALID" else "INVALID") ++ " key #" ++ toString r.index ++ " (" ++
    Credential.preview r.key ++ "): " ++ r.result.message ++ " (" ++ toString r.result.milliseconds ++ " ms)"

def masked (r : KeyTestResult) : KeyTestResult :=
  let shown := Credential.preview r.key
  { r with key := shown, source := r.source.map fun s => { s with apiKey := shown } }

end KeyTestResult

namespace Desk

variable {σ : Type}

open Run

def exportSummaryLines (s : KeySummary) : List String :=
  ["",
    "  Total keys:        " ++ toString s.totalKeys,
    "  Unique channels:   " ++ toString s.uniqueChannels,
    "  From enabled:      " ++ toString s.enabled,
    "  From disabled:     " ++ toString s.disabled] ++
  (if s.samples.isEmpty then [] else ["", "  Samples"] ++ s.samples.map ("    " ++ ·)) ++ [""]

def extractedKeys (d : Desk σ) (c : ChannelChoice) : Run σ (List ExtractedKey) :=
  during "failed to read channels" (task (d.workspace.extractKeys (d.testedFilter c)))

def exportKeys (d : Desk σ) (o : KeyExportOptions) : Run σ Bool := do
  let keys ← d.extractedKeys o.choice
  if keys.isEmpty then
    d.present (.object [("total_keys", .nat 0)])
      (lines ["", "  ! No keys found for the selected channels.", ""])
    return true
  else
    let file ← during "failed to export keys" (task (d.workspace.exportKeys keys o.format o.output))
    d.present file.toJson
      (lines (["", "  ✓ Exported " ++ toString file.summary.totalKeys ++ " key(s) as " ++
        file.format.name ++ " to " ++ file.path] ++ exportSummaryLines file.summary))
    return true

-- ---------------------------------------------------------------------------
-- Pruning
-- ---------------------------------------------------------------------------

def saveBeforePruning (d : Desk σ) : Run σ Unit := do
  let file ← during "failed to write the pre-cleanup backup, nothing was changed"
    (task (d.workspace.snapshot "pre_cleanup_backup" Backup.sourceFull))
  d.say (success (backupLine file))

def pruneLines (r : PruneReport) : List String :=
  ["  ✓ Removed " ++ toString r.keysRemoved ++ " key(s) from " ++ toString r.channelsUpdated ++
    " channel(s), " ++ toString r.channelsDisabled ++ " channel(s) disabled"] ++
  r.errors.map ("  ✗ " ++ ·) ++ [""]

def prune (d : Desk σ) (plans : List PrunePlan) : Run σ (Option PruneReport) := do
  d.saveBeforePruning
  let report ← task (d.workspace.applyPruning plans)
  d.say (lines (pruneLines report))
  if report.channelsUpdated == 0 && 0 < report.failed then throw .nothingPruned
  else return some report

/-- Plans the removal of the rejected keys, asks for it and carries it out. -/
def removeRejected (d : Desk σ) (results : List KeyTestResult) (agreed : Bool) :
    Run σ (Option PruneReport) := do
  let plans ← during "failed to plan key cleanup" (task (d.workspace.planPruning results))
  if plans.isEmpty then
    d.say (lines ["  i No rejected keys to remove.", ""])
    return none
  else
    d.say (lines (["", "  Key cleanup plan"] ++ plans.flatMap PrunePlan.lines ++ [""]))
    let removed := plans.foldl (fun n plan => n + plan.removed.length) 0
    let question := "Remove " ++ toString removed ++ " key(s) from " ++ toString plans.length ++ " channel(s)?"
    if ← d.confirm question agreed then d.prune plans
    else
      cancelled
      return none

-- ---------------------------------------------------------------------------
-- Testing
-- ---------------------------------------------------------------------------

def exportFirst (d : Desk σ) (keys : List ExtractedKey) : Run σ Unit := do
  let stamp ← task d.workspace.clock.stamp
  let path := "exported_keys_" ++ stamp ++ ".txt"
  task (d.workspace.writeFile path (KeyList.renderSimple (keys.map (·.apiKey))))
  d.say (lines ["", "  ✓ Exported " ++ toString keys.length ++ " key(s) to " ++ path])

def candidates (d : Desk σ) (o : KeyTestOptions) : Run σ (List Batch.Candidate) :=
  match o.file with
  | some path => do
    let keys ← during ("failed to read " ++ path) (task (d.workspace.readKeyFile path))
    return keys.map .bare
  | none => do
    let keys ← d.extractedKeys o.choice
    onlyIf (o.exportsFirst && !keys.isEmpty) (d.exportFirst keys)
    return keys.map .ofExtracted

def keySummaryLines (s : TestSummary) : List String :=
  ["",
    "  Summary",
    "  Total keys:     " ++ toString s.total,
    "  Valid:          " ++ toString s.successful,
    "  Invalid:        " ++ toString s.failed,
    "  Success rate:   " ++ Decimal.fixed 1 s.successRate ++ "%"] ++ s.averageLines ++ [""]

def saveKeyReport (d : Desk σ) (path : Option String) (results : List KeyTestResult) (model : String) :
    Run σ Unit :=
  match path with
  | some path => do
    let time ← task d.workspace.clock.display
    during ("failed to write " ++ path)
      (task (d.workspace.writeFile path (KeyReport.render results model time)))
  | none => pure ()

def runKeyTests (d : Desk σ) (o : KeyTestOptions) (keys : List Batch.Candidate) :
    Run σ (List KeyTestResult) := do
  let tester := d.tester o.batch.workers
  d.say (lines ["", "  i Testing " ++ toString keys.length ++ " key(s) with " ++
    tester.keyModel o.batch.model ++ " using " ++ toString tester.workers ++ " worker(s)", ""])
  let schedule := tester.testKeys d.prober d.duration keys o.batch.model
  let finished := schedule.completions.map (·.2)
  d.say (lines (progress KeyTestResult.progressLine keys.length finished))
  return Batch.Tester.inInputOrder finished

def testKeys (d : Desk σ) (o : KeyTestOptions) : Run σ Bool := do
  let keys ← d.candidates o
  if keys.isEmpty then
    d.present (TestSummary.ofRecords []).toJson (lines ["", "  ! No keys to test.", ""])
    return false
  else
    let model := (d.tester o.batch.workers).keyModel o.batch.model
    let results ← d.runKeyTests o keys
    d.saveKeyReport o.report results model
    let pruning ← if o.removesRejected then d.removeRejected results o.agreed else pure none
    let summary := TestSummary.ofRecords (results.map KeyTestResult.toRecord)
    d.present
      (Json.Value.sorted (.object [
        ("model", .string model),
        ("summary", summary.toJson),
        ("results", .array (results.map fun r => r.masked.toJson)),
        ("pruning", .optional PruneReport.toJson pruning)]))
      (lines (keySummaryLines summary ++ reportLines o.report))
    return 0 < summary.successful

def probeKey (d : Desk σ) (key : String) (model : Option String) : Run σ Bool := do
  let key := Text.trim key
  if key.isEmpty then throw .emptyKey
  else
    let model := model.getD d.settings.tester.model
    let result := d.prober ⟨key, model, none⟩
    let text := result.message ++ " (" ++ toString result.milliseconds ++ " ms)"
    d.present
      (Json.Value.sorted (.object [
        ("key", .string (Credential.preview key)),
        ("model", .string model),
        ("result", result.toJson)]))
      (lines ["", (if result.success then "  ✓ " else "  ✗ ") ++ text, ""])
    return result.success

def keyCommand (d : Desk σ) : KeyCommand → Run σ Bool
  | .exportFile options => d.exportKeys options
  | .test options => d.testKeys options
  | .probe key model => d.probeKey key model

end Desk

end ChannelKeeper

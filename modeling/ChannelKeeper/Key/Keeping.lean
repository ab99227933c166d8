import ChannelKeeper.Backup
import ChannelKeeper.Key.Pruning
import ChannelKeeper.Workspace

/-!
# Keys in the store

Taking keys out of the stored channels, writing them to a file and reading them
from one, and removing the rejected ones from their channels.
-/

namespace ChannelKeeper

structure WrittenKeys where
  path : String
  format : KeyExportFormat
  summary : KeySummary
deriving DecidableEq, Repr

def WrittenKeys.toJson (f : WrittenKeys) : Json.Value :=
  .object [("path", .string f.path), ("format", .string f.format.name), ("summary", f.summary.toJson)]

namespace PruneReport

def recordSuccess (r : PruneReport) (plan : PrunePlan) : PruneReport :=
  { r with
    channelsUpdated := r.channelsUpdated + 1
    keysRemoved := r.keysRemoved + plan.removed.length
    channelsDisabled := if plan.disable then r.channelsDisabled + 1 else r.channelsDisabled }

def recordFailure (r : PruneReport) (plan : PrunePlan) (message : String) : PruneReport :=
  { r with
    failed := r.failed + 1
    errors := r.errors ++ [failureLine plan.channelName plan.channelId message] }

end PruneReport

namespace PrunePlan

/-- The keys that are left, one to a line. -/
def blob (plan : PrunePlan) : String := Credential.ofLines plan.remaining

def status (plan : PrunePlan) : Option Int :=
  if plan.disable then some ChannelStatus.autoDisabled.code else none

end PrunePlan

namespace Workspace

variable {σ : Type}

def extractKeys (w : Workspace σ) (f : ChannelFilter) : Task σ (List ExtractedKey) := do
  return ChannelKeeper.extractKeys (← stored (w.channels.list f))

def exportKeys (w : Workspace σ) (keys : List ExtractedKey) (format : KeyExportFormat)
    (output : Option String) : Task σ WrittenKeys := do
  let stamp ← w.clock.stamp
  let path := output.getD ("api_keys_" ++ stamp ++ "." ++ format.extension)
  w.writeFile path (KeyList.render format keys)
  return ⟨path, format, .ofKeys keys⟩

def readKeyFile (w : Workspace σ) (path : String) : Task σ (List String) := do
  return KeyList.parse (← onFile path (w.files.read path))

def sourceIds (results : List KeyTestResult) : List Int :=
  results.filterMap fun r => r.source.map (·.channelId)

/-- Plans against the channels as they are stored now. -/
def planPruning (w : Workspace σ) (results : List KeyTestResult) : Task σ (List PrunePlan) := do
  let ids := sourceIds results
  if ids.isEmpty then return []
  else
    let channels ← stored (w.channels.list .everything)
    return PrunePlan.ofResults (channels.filter fun c => ids.contains c.id) results

def applyPlan (w : Workspace σ) (r : PruneReport) (plan : PrunePlan) : Task σ PruneReport := do
  match ← (w.channels.updateKey plan.channelId plan.blob plan.status).attempt with
  | .ok () => return r.recordSuccess plan
  | .error e => return r.recordFailure plan e.message

/-- One statement for each plan. -/
def applyPruning (w : Workspace σ) (plans : List PrunePlan) : Task σ PruneReport :=
  Action.fold w.applyPlan {} plans

end Workspace

end ChannelKeeper

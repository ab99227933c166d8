import ChannelKeeper.Command.Desk
import ChannelKeeper.Model.Update
import ChannelKeeper.Text.Amount
import ChannelKeeper.Text.Grid

/-!
# Commands on models

The known models, and the update of the model lists of channels. The plans are
shown first and carried out once the operator has agreed.
-/

namespace ChannelKeeper

def ModelPlan.grid (plans : List ModelPlan) : Text.Grid where
  header := ["ID", "Name", "Current models", "Action"]
  rows := plans.map fun p =>
    [toString p.channelId, p.channelName, Text.shortened 70 p.current,
      if p.changed then "update" else "up to date"]

namespace Desk

variable {σ : Type}

open Run

def rightAligned (columns : Nat) (text : String) : String :=
  Text.repeated ' ' (columns - text.length) ++ text

def listModels (d : Desk σ) : Run σ Bool := do
  let known := ModelList.tested
  d.present (.array (known.map .string))
    (lines (["", "  Supported test models"] ++
      (known.zipIdx 1).map (fun (model, k) => "  " ++ rightAligned 2 (toString k) ++ ". " ++ model) ++ [""]))
  return true

def typesText (types : List Int) : String := "[" ++ Text.join ", " (types.map toString) ++ "]"

def modelPlanLines (plans : List ModelPlan) : List String := [
  (ModelPlan.grid plans).render,
  "",
  "  New model list: " ++ Text.join "," ModelList.current,
  ""]

def unchangedLines (pending : Nat) : List String :=
  if pending = 0 then ["  ✓ All channels are up to date.", ""]
  else ["  i Dry run: " ++ toString pending ++ " channel(s) would be updated.", ""]

def modelReportLines (r : ModelReport) : List String :=
  ["  ✓ Updated " ++ toString r.updated ++ " channel(s), " ++ toString r.unchanged ++
    " already up to date"] ++ r.errors.map ("  ✗ " ++ ·) ++ [""]

def applyModels (d : Desk σ) (plans : List ModelPlan) (pending : Nat) (agreed : Bool) : Run σ Bool := do
  if ← d.confirm ("Update the model list of " ++ toString pending ++ " channel(s)?") agreed then
    let report ← task (d.workspace.applyModels plans)
    d.present report.toJson (lines (modelReportLines report))
    return report.failed == 0
  else
    cancelled
    return true

def updateModels (d : Desk σ) (o : ModelUpdateOptions) : Run σ Bool := do
  let types := d.effectiveTypes o.types
  let plans ← during "failed to load channels" (task (d.workspace.planModels types ModelList.current))
  let pending := (plans.filter (·.changed)).length
  if plans.isEmpty && !d.asJson then
    lines ["", "  ! No channels of type " ++ typesText types ++ " found.", ""]
    return true
  else
    d.say (lines ("" :: modelPlanLines plans))
    if o.dryRun || pending == 0 then
      d.present
        (Json.Value.sorted (.object [
          ("dry_run", .bool o.dryRun),
          ("plans", .array (plans.map ModelPlan.toJson))]))
        (lines (unchangedLines pending))
      return true
    else d.applyModels plans pending o.agreed

def modelCommand (d : Desk σ) : ModelCommand → Run σ Bool
  | .list => d.listModels
  | .update options => d.updateModels options

end Desk

end ChannelKeeper

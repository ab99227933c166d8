import ChannelKeeper.Backup
import ChannelKeeper.Workspace

/-!
# Model lists

The models that are known to the tester, the list that channels are brought to,
and the plans that bring them to it. A channel whose list names these models
already is left alone, whatever blanks are in its list.
-/

namespace ChannelKeeper

namespace ModelList

/-- Models that a test may ask for. -/
def tested : List String := [
  "gemini-2.5-flash",
  "gemini-2.5-pro",
  "gemini-2.0-flash",
  "gemini-1.5-pro",
  "gemini-1.5-flash",
  "gemini-1.5-flash-8b",
  "gemini-1.5-pro-latest",
  "gemini-1.5-flash-latest"]

/-- The list that an update writes. -/
def current : List String := [
  "gemini-2.5-flash",
  "gemini-2.5-pro",
  "gemini-2.5-flash-lite",
  "gemini-2.5-pro-preview-03-25",
  "gemini-2.5-pro-preview-05-06",
  "gemini-2.5-pro-preview-06-05",
  "gemini-2.5-flash-preview-05-20",
  "gemini-2.5-flash-lite-preview-06-17"]

end ModelList

structure ModelPlan where
  channelId : Int
  channelName : String
  channelKind : Int
  current : String
  new : String
  changed : Bool
deriving DecidableEq, Repr

namespace ModelPlan

def ofChannel (target : List String) (c : Channel) : ModelPlan :=
  { channelId := c.id
    channelName := c.name
    channelKind := c.kind
    current := c.models
    new := Text.join "," target
    changed := c.modelList != target }

def toJson (p : ModelPlan) : Json.Value :=
  .object [
    ("channel_id", .int p.channelId),
    ("channel_name", .string p.channelName),
    ("channel_type", .int p.channelKind),
    ("current", .string p.current),
    ("new", .string p.new),
    ("changed", .bool p.changed)]

end ModelPlan

structure ModelReport where
  updated : Nat := 0
  unchanged : Nat := 0
  failed : Nat := 0
  errors : List String := []
deriving DecidableEq, Repr

namespace ModelReport

def recordFailure (r : ModelReport) (plan : ModelPlan) (message : String) : ModelReport :=
  { r with
    failed := r.failed + 1
    errors := r.errors ++ [failureLine plan.channelName plan.channelId message] }

def toJson (r : ModelReport) : Json.Value :=
  .object [
    ("updated", .nat r.updated),
    ("unchanged", .nat r.unchanged),
    ("failed", .nat r.failed),
    ("errors", .array (r.errors.map .string))]

end ModelReport

namespace Workspace

variable {σ : Type}

def planModels (w : Workspace σ) (types : List Int) (target : List String) :
    Task σ (List ModelPlan) := do
  let channels ← stored (w.channels.list { types := types })
  return channels.map (ModelPlan.ofChannel target)

def applyModelPlan (w : Workspace σ) (r : ModelReport) (plan : ModelPlan) : Task σ ModelReport :=
  if !plan.changed then pure { r with unchanged := r.unchanged + 1 }
  else do
    match ← (w.channels.updateModels plan.channelId plan.new).attempt with
    | .ok () => return { r with updated := r.updated + 1 }
    | .error e => return r.recordFailure plan e.message

def applyModels (w : Workspace σ) (plans : List ModelPlan) : Task σ ModelReport :=
  Action.fold w.applyModelPlan {} plans

end Workspace

end ChannelKeeper

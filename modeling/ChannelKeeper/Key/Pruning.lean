import ChannelKeeper.Key.Basic

/-!
# Pruning rejected keys

A plan for each channel with a key that the provider rejected: which entries go
and which stay, in their order. A channel that keeps no entry is disabled
instead of being left empty. Structured credentials always stay.
-/

namespace ChannelKeeper

open Json

structure PrunePlan where
  channelId : Int
  channelName : String
  removed : List String
  remaining : List String
  /-- No entry is left. -/
  disable : Bool
deriving DecidableEq, Repr

structure PruneReport where
  channelsUpdated : Nat := 0
  channelsDisabled : Nat := 0
  keysRemoved : Nat := 0
  failed : Nat := 0
  errors : List String := []
deriving DecidableEq, Repr

namespace PrunePlan

def rejectedFor (channelId : Int) (results : List KeyTestResult) : List String :=
  results.filterMap fun r =>
    match r.source with
    | some source => if source.channelId = channelId ∧ r.result.rejectsKey then some r.key else none
    | none => none

/-- The channels with a rejected key, by id. -/
def affectedIds (results : List KeyTestResult) : List Int :=
  let ids := results.filterMap fun r =>
    if r.result.rejectsKey then r.source.map (·.channelId) else none
  ids.eraseDups.mergeSort

def dropsEntry (rejected : List String) (entry : String) : Bool :=
  Credential.isPlain entry && rejected.contains entry

/-- The plan of one channel, unless it has none of the rejected keys. -/
def ofChannel? (c : Channel) (rejected : List String) : Option PrunePlan :=
  let removed := c.keys.filter (dropsEntry rejected)
  let remaining := c.keys.filter fun entry => !dropsEntry rejected entry
  if removed.isEmpty then none
  else some ⟨c.id, c.name, removed, remaining, remaining.isEmpty⟩

/-- The plans by channel id; of channels with one id the first is meant. -/
def ofResults (channels : List Channel) (results : List KeyTestResult) : List PrunePlan :=
  (affectedIds results).filterMap fun id =>
    (channels.find? (·.id == id)).bind fun c => ofChannel? c (rejectedFor id results)

def toJson (p : PrunePlan) : Value :=
  .object [
    ("channel_id", .int p.channelId),
    ("channel_name", .string p.channelName),
    ("removed", .array (p.removed.map .string)),
    ("remaining", .array (p.remaining.map .string)),
    ("disable", .bool p.disable)]

end PrunePlan

def PruneReport.toJson (r : PruneReport) : Value :=
  .object [
    ("channels_updated", .nat r.channelsUpdated),
    ("channels_disabled", .nat r.channelsDisabled),
    ("keys_removed", .nat r.keysRemoved),
    ("failed", .nat r.failed),
    ("errors", .array (r.errors.map .string))]

end ChannelKeeper

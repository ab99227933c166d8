import ChannelKeeper.Key.Keeping
import ChannelKeeper.Proofs.Key.Extraction
import ChannelKeeper.Proofs.Lists
import ChannelKeeper.Proofs.Store.KeyTable

/-!
# Plans for rejected keys

A channel has a plan exactly when it loses an entry: a plain key that some
failed result of this channel names as rejected. The plans of a table are those
of its rows, one for each row that has one, whatever results there are of
channels that are gone.
-/

namespace ChannelKeeper

/-- A failed result of the channel says that the provider rejected the key. -/
def isRejected (results : List KeyTestResult) (channelId : Int) (key : String) : Bool :=
  results.any fun r => r.key == key && r.source.any (·.channelId == channelId) &&
    !r.result.success && (r.result.outcome == .badRequest || r.result.outcome == .forbidden)

/-- The entry is a plain key that was rejected for the channel. -/
def Channel.loses (results : List KeyTestResult) (c : Channel) (entry : String) : Bool :=
  Credential.isPlain entry && isRejected results c.id entry

namespace PrunePlan

-- ---------------------------------------------------------------------------
-- Rejected keys
-- ---------------------------------------------------------------------------

theorem rejectsKey_eq (r : ProbeResult) :
    r.rejectsKey = (!r.success && (r.outcome == .badRequest || r.outcome == .forbidden)) := by
  rcases r with ⟨success, outcome, message, milliseconds⟩
  cases outcome <;> rfl

theorem mem_rejectedFor {id : Int} :
    key ∈ rejectedFor id results ↔ isRejected results id key = true := by
  simp only [rejectedFor, isRejected, List.mem_filterMap, List.any_eq_true, rejectsKey_eq]
  refine exists_congr fun r => and_congr_right fun _ => ?_
  cases hs : r.source with
  | none => simp
  | some source =>
    simp only [Option.ite_none_right_eq_some, Option.some.injEq, Option.any_some,
      Bool.and_eq_true, beq_iff_eq]
    tauto

theorem dropsEntry_rejectedFor (results : List KeyTestResult) (c : Channel) :
    dropsEntry (rejectedFor c.id results) = c.loses results := by
  funext entry
  have h : (rejectedFor c.id results).contains entry = isRejected results c.id entry := by
    rw [Bool.eq_iff_iff, List.contains_iff_mem, mem_rejectedFor]
  rw [dropsEntry, h, Channel.loses]

theorem mem_affectedIds {id : Int} (h : isRejected results id key = true) :
    id ∈ affectedIds results := by
  obtain ⟨r, hr, hk⟩ := List.any_eq_true.mp h
  rw [affectedIds, List.mem_mergeSort, List.mem_eraseDups, List.mem_filterMap]
  refine ⟨r, hr, ?_⟩
  cases hs : r.source with
  | none => simp [hs] at hk
  | some source =>
    simp only [hs, Option.any_some, Bool.and_eq_true, beq_iff_eq] at hk
    have hrej : r.result.rejectsKey = true := by
      rw [rejectsKey_eq, hk.1.2, hk.2]
      rfl
    simp [hrej, hk.1.1.2]

theorem nodup_affectedIds (results : List KeyTestResult) : (affectedIds results).Nodup :=
  (List.mergeSort_perm _ _).nodup_iff.mpr (Lists.nodup_eraseDups _)

-- ---------------------------------------------------------------------------
-- The plan of one channel
-- ---------------------------------------------------------------------------

/-- The plan that the results make for a channel, if any. -/
def forChannel? (results : List KeyTestResult) (c : Channel) : Option PrunePlan :=
  ofChannel? c (rejectedFor c.id results)

theorem forChannel?_eq (results : List KeyTestResult) (c : Channel) :
    forChannel? results c =
      if c.keys.any (c.loses results) then
        some ⟨c.id, c.name, c.keys.filter (c.loses results),
          c.keys.filter (fun e => !c.loses results e),
          (c.keys.filter fun e => !c.loses results e).isEmpty⟩
      else none := by
  have h : (c.keys.filter (c.loses results)).isEmpty = !c.keys.any (c.loses results) := by
    rw [Bool.eq_iff_iff]
    simp
  rw [forChannel?, ofChannel?, dropsEntry_rejectedFor]
  simp only [h]
  cases c.keys.any (c.loses results) <;> rfl

theorem forChannel?_eq_none :
    forChannel? results c = none ↔ c.keys.any (c.loses results) = false := by
  rw [forChannel?_eq]
  split <;> simp_all

theorem forChannel?_eq_some (h : forChannel? results c = some p) :
    c.keys.any (c.loses results) = true ∧ p.channelId = c.id ∧ p.channelName = c.name ∧
      p.removed = c.keys.filter (c.loses results) ∧
      p.remaining = c.keys.filter (fun e => !c.loses results e) ∧
      p.disable = p.remaining.isEmpty := by
  rw [forChannel?_eq] at h
  split at h
  · rename_i hany
    cases h
    exact ⟨hany, rfl, rfl, rfl, rfl, rfl⟩
  · cases h

theorem channelId_forChannel? (h : forChannel? results c = some p) : p.channelId = c.id :=
  (forChannel?_eq_some h).2.1

theorem mem_affectedIds_of_forChannel? (h : forChannel? results c = some p) :
    c.id ∈ affectedIds results := by
  obtain ⟨entry, -, hl⟩ := List.any_eq_true.mp (forChannel?_eq_some h).1
  exact mem_affectedIds (Bool.and_eq_true_iff.mp hl).2

-- ---------------------------------------------------------------------------
-- The plans of a table
-- ---------------------------------------------------------------------------

theorem mem_ofResults (h : DistinctIds channels) :
    p ∈ ofResults channels results ↔ ∃ c ∈ channels, forChannel? results c = some p := by
  simp only [ofResults, List.mem_filterMap, Option.bind_eq_some_iff]
  constructor
  · rintro ⟨id, -, c, hf, hp⟩
    obtain rfl : c.id = id := by simpa using List.find?_some hf
    exact ⟨c, List.mem_of_find?_eq_some hf, hp⟩
  · rintro ⟨c, hc, hp⟩
    exact ⟨c.id, mem_affectedIds_of_forChannel? hp, c, h.find?_id hc, hp⟩

theorem nodup_ids_ofResults (channels : List Channel) (results : List KeyTestResult) :
    ((ofResults channels results).map (·.channelId)).Nodup := by
  have hs : ((ofResults channels results).map (·.channelId)).Sublist
      ((affectedIds results).map id) := by
    refine Lists.map_filterMap_sublist (fun id p hp => ?_) _
    obtain ⟨c, hf, hp⟩ := Option.bind_eq_some_iff.mp hp
    obtain rfl : c.id = id := by simpa using List.find?_some hf
    exact channelId_forChannel? (show forChannel? results c = some p from hp)
  rw [List.map_id] at hs
  exact (nodup_affectedIds results).sublist hs

theorem exists_source_of_mem_ofResults (h : p ∈ ofResults channels results) :
    ∃ r ∈ results, ∃ source, r.source = some source ∧ source.channelId = p.channelId := by
  obtain ⟨id, hid, hplan⟩ := List.mem_filterMap.mp h
  obtain ⟨c, hc, hp⟩ := Option.bind_eq_some_iff.mp hplan
  obtain rfl : c.id = id := by simpa using List.find?_some hc
  rw [channelId_forChannel? (show forChannel? results c = some p from hp)]
  simp only [affectedIds, List.mem_mergeSort, List.mem_eraseDups, List.mem_filterMap,
    Option.ite_none_right_eq_some, Option.map_eq_some_iff] at hid
  obtain ⟨r, hr, -, hsource⟩ := hid
  exact ⟨r, hr, hsource⟩

theorem ofResults_perm (h : DistinctIds channels) (results : List KeyTestResult) :
    (ofResults channels results).Perm (channels.filterMap (forChannel? results)) := by
  have hids : ((channels.filterMap (forChannel? results)).map (·.channelId)).Nodup :=
    h.sublist (Lists.map_filterMap_sublist (fun _ _ => channelId_forChannel?) channels)
  refine (List.perm_ext_iff_of_nodup (nodup_ids_ofResults _ _).of_map hids.of_map).mpr fun p => ?_
  rw [mem_ofResults h, List.mem_filterMap]

/-- Rows that no result names have no plan, so leaving them out changes nothing. -/
theorem mem_sourceIds_of_forChannel? (h : forChannel? results c = some p) :
    c.id ∈ Workspace.sourceIds results := by
  have hc := mem_affectedIds_of_forChannel? h
  simp only [affectedIds, List.mem_mergeSort, List.mem_eraseDups, List.mem_filterMap,
    Option.ite_none_right_eq_some] at hc
  obtain ⟨r, hr, -, hid⟩ := hc
  exact List.mem_filterMap.mpr ⟨r, hr, hid⟩

end PrunePlan

-- ---------------------------------------------------------------------------
-- A row with its plan carried out
-- ---------------------------------------------------------------------------

open PrunePlan (forChannel? forChannel?_eq_some forChannel?_eq_none)

namespace PrunePlan

def apply (p : PrunePlan) (c : Channel) : Channel := MemoryChannels.withKey p.blob p.status c

end PrunePlan

namespace Channel

def pruned (results : List KeyTestResult) (c : Channel) : Channel :=
  match forChannel? results c with
  | some p => p.apply c
  | none => c

@[simp] theorem pruned_id (results : List KeyTestResult) (c : Channel) :
    (c.pruned results).id = c.id := by
  unfold pruned
  split <;> rfl

theorem pruned_of_forall {c : Channel} (h : ∀ e ∈ c.keys, c.loses results e = false) :
    c.pruned results = c := by
  have hnone : forChannel? results c = none := forChannel?_eq_none.mpr (by simpa using h)
  simp [pruned, hnone]

theorem pruned_of_some (h : forChannel? results c = some p) : c.pruned results = p.apply c := by
  simp [pruned, h]

theorem keys_pruned (results : List KeyTestResult) (c : Channel) :
    (c.pruned results).keys = c.keys.filter fun e => !c.loses results e := by
  cases hp : forChannel? results c with
  | some p =>
    obtain ⟨-, -, -, -, hremaining, -⟩ := forChannel?_eq_some hp
    rw [pruned_of_some hp, keys, PrunePlan.apply, MemoryChannels.withKey, PrunePlan.blob,
      hremaining]
    exact Credential.entries_ofLines_filter _ c.key
  | none =>
    have hkeep : ∀ e ∈ c.keys, c.loses results e = false := by
      simpa using forChannel?_eq_none.mp hp
    rw [pruned_of_forall hkeep, eq_comm, List.filter_eq_self]
    simpa using hkeep

theorem loses_pruned (results : List KeyTestResult) (c : Channel) :
    (c.pruned results).loses results = c.loses results := by
  funext entry
  simp [loses]

theorem forChannel?_pruned (results : List KeyTestResult) (c : Channel) :
    forChannel? results (c.pruned results) = none := by
  rw [forChannel?_eq_none]
  simp [keys_pruned, loses_pruned]

end Channel

end ChannelKeeper

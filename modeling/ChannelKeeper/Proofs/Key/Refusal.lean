import ChannelKeeper.Proofs.Batch.Keys
import ChannelKeeper.Proofs.Gemini.Answer
import ChannelKeeper.Proofs.Key.Extraction
import ChannelKeeper.Proofs.Key.Pruning
import ChannelKeeper.Proofs.Store.Relational

/-!
# What can cost a channel its key

Keys are taken from the stored channels, tested in one batch and pruned. A channel
loses an entry only where the entry was taken from it, asked about in the batch,
and refused by the server with one of two statuses; no other answer and no failure
on the way does it. The table is taken to be the same before and after the batch.
-/

namespace ChannelKeeper

open Batch (AnsweredBy Candidate Completed Event Tester completed_of_run)
open Gemini (Delivery Sender)
open Relational (Database)

section

variable (sender : Sender) (deliveries : Nat → Delivery) (keys : List ExtractedKey)
  (events : List Event)

/-- The task asked about this key of this channel and nothing else, and the server
refused the key. -/
structure RefusedBy (channelId : Int) (key : String) (task : Nat) : Prop where
  source : ∃ k, keys[task]? = some k ∧ k.channelId = channelId ∧ k.apiKey = key
  asked : ∃ call, Batch.asked task events = [call] ∧ call.key = key ∧ (sender.request? call).isSome
  refused : (deliveries task).refuses = true

/-- A row before and after its rejected keys were pruned. -/
structure LosesOnlyRefused (f : ChannelFilter) (before after : Channel) : Prop where
  id : after.id = before.id
  lost (entry : String) : after.keys.count entry < before.keys.count entry →
    f.selects before = true ∧ entry ∈ before.plainKeys ∧
      ∃ task, RefusedBy sender deliveries keys events before.id entry task
  kept (entry : String) : (∀ task k, keys[task]? = some k → k.channelId = before.id →
    k.apiKey = entry → (deliveries task).refuses = false) →
    after.keys.count entry = before.keys.count entry

end

-- ---------------------------------------------------------------------------
-- Taking keys out
-- ---------------------------------------------------------------------------

theorem perform_extractKeys {σ : Type} {s : σ} (t : KeyTable σ) (w : Workspace σ)
    (f : ChannelFilter) (hu : t.isUp s) :
    ∃ listed, ((w.onTable t).extractKeys f).perform s = (.ok (extractKeys listed), s) ∧
      listed.Perm ((t.rows s).filter f.selects) := by
  obtain ⟨listed, hl, hp⟩ := t.list_up f hu
  refine ⟨listed, ?_, hp⟩
  have hs : (Workspace.stored ((w.onTable t).channels.list f)).perform s = (.ok listed, s) :=
    Action.perform_mapError_ok _ hl
  rw [Workspace.extractKeys, Action.perform_bind_ok hs, Action.perform_pure]

-- ---------------------------------------------------------------------------
-- Testing them
-- ---------------------------------------------------------------------------

/-- A key that the results reject for a channel was refused by the server. -/
theorem refusedBy_of_isRejected {sender : Sender} {deliveries : Nat → Delivery}
    {keys : List ExtractedKey} {b : Batch.State KeyTestResult}
    (c : Completed (sender.delivering deliveries)
      (Tester.keyErrands t (keys.map .ofExtracted) model) events b)
    (h : isRejected (Tester.inInputOrder b.results) channelId key = true) :
    ∃ task, RefusedBy sender deliveries keys events channelId key task := by
  rw [c.keysTested.returned] at h
  obtain ⟨r, hr, h⟩ := List.any_eq_true.mp h
  obtain ⟨⟨candidate, task⟩, hmem, rfl⟩ := List.mem_map.mp hr
  obtain ⟨k, hk, rfl⟩ : ∃ k, keys[task]? = some k ∧ Candidate.ofExtracted k = candidate := by
    simpa [List.mem_zipIdx_iff_getElem?] using hmem
  simp only [Candidate.ofExtracted, Option.any_some, Bool.and_eq_true, beq_iff_eq] at h
  obtain ⟨⟨⟨hkey, hid⟩, hfail⟩, houtcome⟩ := h
  have hrejects : (sender.delivering deliveries task
      ⟨k.apiKey, model.getD t.defaultModel, none⟩).rejectsKey = true := by
    rw [PrunePlan.rejectsKey_eq, hfail, houtcome]
    rfl
  rw [Sender.rejectsKey_delivering, Bool.and_eq_true] at hrejects
  refine ⟨task, ⟨k, hk, hid, hkey⟩, ⟨_, ?_, hkey, hrejects.1⟩, hrejects.2⟩
  refine c.asked task (.ofKey (t.keyModel model) (.ofExtracted k) task) ?_
  rw [Tester.keyErrands_getElem?, List.getElem?_map, hk]
  rfl

-- ---------------------------------------------------------------------------
-- Pruning them
-- ---------------------------------------------------------------------------

namespace Channel

variable {results : List KeyTestResult} {c : Channel}

theorem loses_of_count_lt (h : (c.pruned results).keys.count entry < c.keys.count entry) :
    c.loses results entry = true := by
  by_contra hl
  rw [keys_pruned, List.count_filter (by simpa using hl)] at h
  exact Nat.lt_irrefl _ h

theorem count_keys_pruned_le (results : List KeyTestResult) (c : Channel) (entry : String) :
    (c.pruned results).keys.count entry ≤ c.keys.count entry := by
  rw [keys_pruned]
  exact List.filter_sublist.count_le entry

end Channel

/-- Only an answer with status 400 or 403 to a request for a key of a channel can
cost the channel that key, for every filter, every order of the batch, and whatever
becomes of each request.

Premise: no call of the store fails. -/
theorem loses_only_refused {σ : Type} {s : σ} (t : KeyTable σ) (w : Workspace σ) (hu : t.isUp s)
    (hd : DistinctIds (t.rows s)) (f : ChannelFilter) (workers : Nat) (defaultModel : String)
    (model : Option String) (sender : Sender) (deliveries : Nat → Delivery) :
    ∃ keys, ((w.onTable t).extractKeys f).perform s = (.ok keys, s) ∧ ∀ events b,
      Batch.Run ((Tester.new workers defaultModel).keyBatch (keys.map .ofExtracted) model) events
        b →
      AnsweredBy (sender.delivering deliveries) events → b.Final →
      ∃ plans report s',
        ((w.onTable t).planPruning (Tester.inInputOrder b.results)).perform s = (.ok plans, s) ∧
        ((w.onTable t).applyPruning plans).perform s = (.ok report, s') ∧
        List.Forall₂ (LosesOnlyRefused sender deliveries keys events f) (t.rows s) (t.rows s') := by
  obtain ⟨listed, hextract, hperm⟩ := perform_extractKeys t w f hu
  refine ⟨_, hextract, fun events b hrun hanswered hfinal => ?_⟩
  have hcompleted := completed_of_run hrun hanswered hfinal
  obtain ⟨plans, report, s', hplan, happly, -, hrows, -⟩ :=
    perform_pruning t w (Tester.inInputOrder b.results) hu hd
  refine ⟨plans, report, s', hplan, happly, ?_⟩
  rw [hrows, List.forall₂_map_right_iff, List.forall₂_same]
  intro c hc
  have hrefused : ∀ entry, (c.pruned (Tester.inInputOrder b.results)).keys.count entry <
      c.keys.count entry → ∃ task, RefusedBy sender deliveries (extractKeys listed) events c.id
        entry task := fun entry hlt =>
    refusedBy_of_isRejected hcompleted (Bool.and_eq_true_iff.mp (Channel.loses_of_count_lt hlt)).2
  refine ⟨Channel.pruned_id _ c, fun entry hlt => ?_, fun entry hnot => ?_⟩
  · obtain ⟨task, htask⟩ := hrefused entry hlt
    obtain ⟨k, hk, hid, rfl⟩ := htask.source
    -- the row that the key was taken from has the id of this one, so it is this one
    obtain ⟨d, hd', hkd, hplain⟩ := exists_of_mem_extractKeys (List.mem_of_getElem? hk)
    obtain ⟨hdrows, hselects⟩ := List.mem_filter.mp (hperm.mem_iff.mp hd')
    obtain rfl : d = c := hd.eq_of_id hdrows hc (hkd.symm.trans hid)
    exact ⟨hselects, hplain, task, htask⟩
  · by_contra hne
    have hlt := Nat.lt_of_le_of_ne (Channel.count_keys_pruned_le _ c entry) hne
    obtain ⟨task, htask⟩ := hrefused entry hlt
    obtain ⟨k, hk, hid, hkey⟩ := htask.source
    have := htask.refused
    rw [hnot task k hk hid hkey] at this
    cases this

namespace Sample

def database : World Database MemoryFiles :=
  let empty := Database.createCounted {} Database.channelTable "id"
    [⟨"id", "INTEGER"⟩, ⟨"type", "INTEGER"⟩, ⟨"key", "TEXT"⟩, ⟨"status", "INTEGER"⟩]
  match empty.insertChannel { id := 7, kind := 24, status := 1, key := "bad\ngood" } true with
  | .ok (_, db) => ⟨db, {}⟩
  | .error _ => ⟨{}, {}⟩

def gateway : Workspace (World Database MemoryFiles) :=
  World.workspace Database.channelStore Database.tableStore MemoryFiles.store (.ofSeconds 0)
    "backups"

def databaseTable : KeyTable (World Database MemoryFiles) := Database.keyTable.inWorld MemoryFiles

def keys : List ExtractedKey := [⟨7, "", 24, 1, "bad", ""⟩, ⟨7, "", 24, 1, "good", ""⟩]

def sender : Sender := { transport := .offline }

/-- The server refuses the first key and is busy for the second. -/
def deliveries : Nat → Delivery
  | 0 => .answered 403 "" 5
  | _ => .answered 429 "" 5

/-- The second key is done first. -/
def events : List Event :=
  let answer (task : Nat) (key : String) : Event :=
    .answer task ⟨key, "m", none⟩ (sender.delivering deliveries task ⟨key, "m", none⟩)
  [.start 0, .start 1, answer 1 "good", .finish 1, .join 1, answer 0 "bad", .finish 0, .join 0]

theorem isUp_database : databaseTable.isUp database := by
  have h : ((database.data.find? Database.channelTable).any fun t => decide t.HasChannels) =
      true := by decide +kernel
  obtain ⟨t, ht, hc⟩ := (Option.any_eq_true _ _).mp h
  exact ⟨t, ht, of_decide_eq_true hc⟩

theorem run_events : ∃ b,
    Batch.Run ((Tester.new 2 "m").keyBatch (keys.map .ofExtracted) none) events b ∧ b.Final := by
  have hrun : Batch.Run ((Tester.new 2 "m").keyBatch (keys.map .ofExtracted) none) events _ :=
    .more (.more (.more (.more (.more (.more (.more (.more .none (.start rfl (by decide)))
      (.start rfl (by decide))) (.answer rfl)) (.finish rfl)) (.join rfl)) (.answer rfl))
      (.finish rfl)) (.join rfl)
  refine ⟨_, hrun, ?_⟩
  simp [Batch.State.Final, Tester.keyBatch, Batch.State.begin, Tester.keyErrands, keys]

theorem answeredBy_events : AnsweredBy (sender.delivering deliveries) events := by
  simp [AnsweredBy, events, Event.IsBy]

end Sample

theorem loses_only_refused_sample :
    Sample.databaseTable.isUp Sample.database ∧
      DistinctIds (Sample.databaseTable.rows Sample.database) ∧
      ((Sample.gateway.onTable Sample.databaseTable).extractKeys { id := some 7 }).perform
        Sample.database = (.ok Sample.keys, Sample.database) ∧
      ∃ b, Batch.Run ((Tester.new 2 "m").keyBatch (Sample.keys.map .ofExtracted) none) Sample.events
          b ∧
        AnsweredBy (Sample.sender.delivering Sample.deliveries) Sample.events ∧ b.Final ∧
        ∃ plans report s',
          ((Sample.gateway.onTable Sample.databaseTable).planPruning
            (Tester.inInputOrder b.results)).perform Sample.database =
              (.ok plans, Sample.database) ∧
          ((Sample.gateway.onTable Sample.databaseTable).applyPruning plans).perform
            Sample.database = (.ok report, s') ∧
          List.Forall₂
            (LosesOnlyRefused Sample.sender Sample.deliveries Sample.keys Sample.events
              { id := some 7 })
            (Sample.databaseTable.rows Sample.database) (Sample.databaseTable.rows s') := by
  have hd : DistinctIds (Sample.databaseTable.rows Sample.database) := by decide +kernel
  obtain ⟨keys, hkeys, h⟩ := loses_only_refused Sample.databaseTable Sample.gateway
    Sample.isUp_database hd { id := some 7 } 2 "m" none Sample.sender Sample.deliveries
  have hsample : (((Sample.gateway.onTable Sample.databaseTable).extractKeys
      { id := some 7 }).perform Sample.database).1.toOption = some Sample.keys := by decide +kernel
  rw [hkeys] at hsample
  obtain rfl : keys = Sample.keys := Option.some.inj hsample
  obtain ⟨b, hrun, hfinal⟩ := Sample.run_events
  exact ⟨Sample.isUp_database, hd, hkeys, b, hrun, Sample.answeredBy_events, hfinal,
    h Sample.events b hrun Sample.answeredBy_events hfinal⟩

end ChannelKeeper

import ChannelKeeper.Files.Memory
import ChannelKeeper.Proofs.Key.Plan

/-!
# What pruning does to the table

Planning reads the rows and changes nothing. Carrying the plans out changes the
rows that lose an entry, one statement each, and no other; planned again with
the same results, the table has nothing left to lose. Nothing is said of stores
that fail in between.
-/

namespace ChannelKeeper

open PrunePlan (forChannel? forChannel?_eq_some forChannel?_eq_none)

/-- A row before and after pruning. -/
structure Pruned (results : List KeyTestResult) (before after : Channel) : Prop where
  untouched : (∀ e ∈ before.keys, before.loses results e = false) → after = before
  kept : (∃ e ∈ before.keys, before.loses results e = true) →
    after.keys = before.keys.filter fun e =>
      Credential.isStructured e || !isRejected results before.id e
  status : (∃ e ∈ before.keys, before.loses results e = true) →
    after.status = if after.keys = [] then 3 else before.status
  others : after = { before with key := after.key, status := after.status }

/-- A table before and after pruning, and the report of it. The counts are those
of the differences that can be seen: rows with fewer entries, the entries they
lack, and rows with none left. -/
structure PruneEffect (results : List KeyTestResult) (before after : List Channel)
    (report : PruneReport) : Prop where
  rows : List.Forall₂ (Pruned results) before after
  channelsUpdated : report.channelsUpdated =
    (before.zip after).countP fun (b, a) => a.keys.length < b.keys.length
  keysRemoved : report.keysRemoved =
    ((before.zip after).map fun (b, a) => b.keys.length - a.keys.length).sum
  channelsDisabled : report.channelsDisabled =
    (before.zip after).countP fun (b, a) => b.keys ≠ [] ∧ a.keys = []
  failed : report.failed = 0
  errors : report.errors = []

-- ---------------------------------------------------------------------------
-- One row
-- ---------------------------------------------------------------------------

namespace Channel

theorem pruned_eq (results : List KeyTestResult) (c : Channel) :
    c.pruned results =
      { c with key := (c.pruned results).key, status := (c.pruned results).status } := by
  unfold pruned
  split <;> rfl

theorem status_pruned (h : forChannel? results c = some p) :
    (c.pruned results).status = if (c.pruned results).keys = [] then 3 else c.status := by
  obtain ⟨-, -, -, -, hremaining, hdisable⟩ := forChannel?_eq_some h
  rw [keys_pruned, ← hremaining, pruned_of_some h, PrunePlan.apply, MemoryChannels.withKey,
    PrunePlan.status, hdisable]
  cases p.remaining <;> rfl

theorem length_keys_pruned (results : List KeyTestResult) (c : Channel) :
    (c.pruned results).keys.length + c.keys.countP (c.loses results) = c.keys.length := by
  rw [keys_pruned, ← List.countP_eq_length_filter, Nat.add_comm,
    List.length_eq_countP_add_countP (c.loses results)]
  simp

theorem length_keys_pruned_lt (results : List KeyTestResult) (c : Channel) :
    (c.pruned results).keys.length < c.keys.length ↔ (forChannel? results c).isSome := by
  have h := length_keys_pruned results c
  rw [Option.isSome_iff_ne_none, Ne, forChannel?_eq_none, Bool.not_eq_false, List.any_eq_true,
    ← List.countP_pos_iff]
  omega

theorem length_removed (h : forChannel? results c = some p) :
    p.removed.length = c.keys.length - (c.pruned results).keys.length := by
  have hl := length_keys_pruned results c
  obtain ⟨-, -, -, hremoved, -, -⟩ := forChannel?_eq_some h
  rw [hremoved, ← List.countP_eq_length_filter]
  omega

theorem keys_pruned_eq_nil_iff (results : List KeyTestResult) (c : Channel) :
    c.keys ≠ [] ∧ (c.pruned results).keys = [] ↔ (forChannel? results c).any (·.disable) := by
  rw [keys_pruned]
  cases h : forChannel? results c with
  | some p =>
    obtain ⟨hany, -, -, -, hremaining, hdisable⟩ := forChannel?_eq_some h
    have hne : c.keys ≠ [] := by
      rintro hk
      simp [hk] at hany
    simp [hne, hdisable, hremaining]
  | none =>
    have hkeep : c.keys.filter (fun e => !c.loses results e) = c.keys := by
      rw [List.filter_eq_self]
      simpa using forChannel?_eq_none.mp h
    simp [hkeep]

end Channel

theorem pruned_pruned (results : List KeyTestResult) (c : Channel) :
    Pruned results c (c.pruned results) where
  untouched := Channel.pruned_of_forall
  kept _ := by
    rw [Channel.keys_pruned]
    congr 1
    funext e
    simp [Channel.loses, Credential.isPlain]
  status h := by
    have hsome : forChannel? results c ≠ none := by
      rw [Ne, forChannel?_eq_none, Bool.not_eq_false]
      exact List.any_eq_true.mpr h
    obtain ⟨p, hp⟩ := Option.ne_none_iff_exists'.mp hsome
    exact Channel.status_pruned hp
  others := Channel.pruned_eq results c

-- ---------------------------------------------------------------------------
-- The report
-- ---------------------------------------------------------------------------

theorem foldl_recordSuccess (plans : List PrunePlan) (r : PruneReport) :
    plans.foldl PruneReport.recordSuccess r =
      { r with
        channelsUpdated := r.channelsUpdated + plans.length
        channelsDisabled := r.channelsDisabled + plans.countP (·.disable)
        keysRemoved := r.keysRemoved + (plans.map (·.removed.length)).sum } := by
  induction plans generalizing r with
  | nil => simp
  | cons p rest ih =>
    rw [List.foldl_cons, ih]
    cases hd : p.disable <;>
      simp [PruneReport.recordSuccess, hd, Nat.add_assoc, Nat.add_comm 1]

theorem pruneEffect_of_perm {rows : List Channel} {plans : List PrunePlan}
    (hp : plans.Perm (rows.filterMap (forChannel? results))) :
    PruneEffect results rows (rows.map (Channel.pruned results))
      (plans.foldl PruneReport.recordSuccess {}) := by
  have hzip : rows.zip (rows.map (Channel.pruned results)) =
      rows.map fun c => (c, c.pruned results) := by
    simpa using List.zip_map' (f := id) (g := Channel.pruned results) (l := rows)
  have hr : plans.foldl PruneReport.recordSuccess {} =
      ⟨plans.length, plans.countP (·.disable), (plans.map (·.removed.length)).sum, 0, []⟩ := by
    simp [foldl_recordSuccess]
  rw [hr]
  refine ⟨?_, ?_, ?_, ?_, rfl, rfl⟩
  · rw [List.forall₂_map_right_iff, List.forall₂_same]
    exact fun c _ => pruned_pruned results c
  · rw [hzip, List.countP_map, hp.length_eq, List.length_filterMap_eq_countP]
    refine List.countP_congr fun c _ => ?_
    simp only [Function.comp_apply, decide_eq_true_eq, Channel.length_keys_pruned_lt]
  · rw [hzip, List.map_map, (hp.map _).sum_nat]
    refine Lists.sum_map_filterMap (fun c p h => Channel.length_removed h) (fun c h => ?_) rows
    have hkept := (Channel.length_keys_pruned_lt results c).not.mpr (by simp [h])
    exact Nat.sub_eq_zero_of_le (Nat.not_lt.mp hkept)
  · rw [hzip, List.countP_map, hp.countP_eq, List.countP_filterMap]
    refine List.countP_congr fun c _ => ?_
    simp only [Function.comp_apply, decide_eq_true_eq, Channel.keys_pruned_eq_nil_iff]
    cases forChannel? results c <;> rfl

-- ---------------------------------------------------------------------------
-- Plans on rows
-- ---------------------------------------------------------------------------

section
variable {results : List KeyTestResult} {plans : List PrunePlan} {p : PrunePlan} {c : Channel}

def PrunePlan.carryOut (c : Channel) (p : PrunePlan) : Channel :=
  if c.id = p.channelId then p.apply c else c

theorem PrunePlan.carryOut_id (c : Channel) (p : PrunePlan) : (carryOut c p).id = c.id := by
  unfold carryOut
  split <;> rfl

theorem PrunePlan.carryOut_of_ne (c : Channel) (p : PrunePlan) (h : p.channelId ≠ c.id) :
    carryOut c p = c := if_neg h.symm

theorem foldl_carryOut_eq_pruned {rows : List Channel} (hd : DistinctIds rows)
    (hp : plans.Perm (rows.filterMap (forChannel? results)))
    (hn : (plans.map (·.channelId)).Nodup) (hc : c ∈ rows) :
    plans.foldl PrunePlan.carryOut c = c.pruned results := by
  cases h : forChannel? results c with
  | some p =>
    rw [Channel.pruned_of_some h]
    have hid := PrunePlan.channelId_forChannel? h
    have hmem := hp.mem_iff.mpr (List.mem_filterMap.mpr ⟨c, hc, h⟩)
    rw [Lists.foldl_change_of_mem PrunePlan.carryOut_id PrunePlan.carryOut_of_ne hn hmem hid]
    exact if_pos hid.symm
  | none =>
    rw [show c.pruned results = c by simp [Channel.pruned, h]]
    refine Lists.foldl_change_of_not_mem PrunePlan.carryOut_of_ne fun p hm he => ?_
    obtain ⟨d, hdm, hdp⟩ := List.mem_filterMap.mp (hp.mem_iff.mp hm)
    obtain rfl : d = c := hd.eq_of_id hdm hc ((PrunePlan.channelId_forChannel? hdp).symm.trans he)
    rw [h] at hdp
    cases hdp

-- ---------------------------------------------------------------------------
-- Planning and carrying out
-- ---------------------------------------------------------------------------

variable {σ : Type} {s : σ} (t : KeyTable σ) (w : Workspace σ)

def Workspace.onTable : Workspace σ := { w with channels := t.store }

theorem perform_planPruning (results : List KeyTestResult) (hu : t.isUp s)
    (hd : DistinctIds (t.rows s)) :
    ∃ plans, ((w.onTable t).planPruning results).perform s = (.ok plans, s) ∧
      plans.Perm ((t.rows s).filterMap (forChannel? results)) ∧
      (plans.map (·.channelId)).Nodup := by
  -- Rows that no result names have no plan, so leaving them out changes none.
  have hsource : ((t.rows s).filter fun c => (Workspace.sourceIds results).contains c.id).filterMap
      (forChannel? results) = (t.rows s).filterMap (forChannel? results) := by
    rw [List.filterMap_filter]
    refine List.filterMap_congr fun c _ => ?_
    cases hp : forChannel? results c with
    | none => simp
    | some p => simpa using PrunePlan.mem_sourceIds_of_forChannel? hp
  unfold Workspace.planPruning
  by_cases hids : (Workspace.sourceIds results).isEmpty
  · refine ⟨[], by simp [hids], ?_, by simp⟩
    rw [← hsource, List.isEmpty_iff.mp hids]
    simp
  · obtain ⟨listed, hl, hp⟩ := t.list_up .everything hu
    have hall : (t.rows s).filter ChannelFilter.everything.selects = t.rows s := by
      rw [List.filter_eq_self]
      exact fun c _ => rfl
    rw [hall] at hp
    have hs : (Workspace.stored ((w.onTable t).channels.list .everything)).perform s =
        (.ok listed, s) := Action.perform_mapError_ok _ hl
    have hlisted := (hd.perm hp.symm).filter fun c => (Workspace.sourceIds results).contains c.id
    refine ⟨_, ?_, ?_, PrunePlan.nodup_ids_ofResults
      (listed.filter fun c => (Workspace.sourceIds results).contains c.id) results⟩
    · simp only [hids, Bool.false_eq_true, ↓reduceIte]
      rw [Action.perform_bind_ok hs, Action.perform_pure]
    · rw [← hsource]
      exact (PrunePlan.ofResults_perm hlisted results).trans ((hp.filter _).filterMap _)

/-- One plan is one statement, which succeeds while the row is there. -/
theorem perform_applyPlan (r : PruneReport) (hu : t.isUp s) (hd : DistinctIds (t.rows s))
    (hp : ∃ c ∈ t.rows s, c.id = p.channelId) :
    ∃ s', ((w.onTable t).applyPlan r p).perform s = (.ok (r.recordSuccess p), s') ∧ t.isUp s' ∧
      t.rows s' = (t.rows s).map (PrunePlan.carryOut · p) := by
  obtain ⟨s', hs, hu', hr⟩ := t.updateKey_up p.channelId p.blob p.status hu hd hp
  refine ⟨s', ?_, hu', hr⟩
  have ha : ((w.onTable t).channels.updateKey p.channelId p.blob p.status).attempt.perform s =
      ((.ok (.ok ()) : Except ChannelError _), s') := by
    rw [Action.perform_attempt]
    simp [Workspace.onTable, hs]
  simp [Workspace.applyPlan, Action.perform_bind_ok ha]

theorem perform_applyPruning (hu : t.isUp s) (hd : DistinctIds (t.rows s))
    (hp : ∀ p ∈ plans, ∃ c ∈ t.rows s, c.id = p.channelId) (r : PruneReport) :
    ∃ s', (Action.fold (w.onTable t).applyPlan r plans).perform s =
        (.ok (plans.foldl PruneReport.recordSuccess r), s') ∧ t.isUp s' ∧
      t.rows s' = (t.rows s).map fun c => plans.foldl PrunePlan.carryOut c := by
  induction plans generalizing s r with
  | nil => exact ⟨s, rfl, hu, by simp⟩
  | cons p rest ih =>
    obtain ⟨s₁, h₁, hu₁, hr₁⟩ := perform_applyPlan t w r hu hd (hp p List.mem_cons_self)
    have hids : ∀ q ∈ rest, ∃ c ∈ t.rows s₁, c.id = q.channelId := by
      intro q hq
      obtain ⟨c, hc, he⟩ := hp q (List.mem_cons_of_mem _ hq)
      exact ⟨_, hr₁ ▸ List.mem_map_of_mem hc, (PrunePlan.carryOut_id c p).trans he⟩
    have hd₁ : DistinctIds (t.rows s₁) := hr₁ ▸ hd.map fun c => PrunePlan.carryOut_id c p
    obtain ⟨s', h', hu', hr'⟩ := ih hu₁ hd₁ hids (r.recordSuccess p)
    refine ⟨s', ?_, hu', ?_⟩
    · rw [Action.perform_fold_cons h₁, h', List.foldl_cons]
    · rw [hr', hr₁, List.map_map]
      rfl

/-- Planning and carrying out on the rows alone: every row is pruned, and the
report is that of the rows' plans. -/
theorem perform_pruning (results : List KeyTestResult) (hu : t.isUp s)
    (hd : DistinctIds (t.rows s)) :
    ∃ plans report s', ((w.onTable t).planPruning results).perform s = (.ok plans, s) ∧
      ((w.onTable t).applyPruning plans).perform s = (.ok report, s') ∧ t.isUp s' ∧
      t.rows s' = (t.rows s).map (Channel.pruned results) ∧
      PruneEffect results (t.rows s) (t.rows s') report := by
  obtain ⟨plans, hplan, hperm, hn⟩ := perform_planPruning t w results hu hd
  have hids : ∀ p ∈ plans, ∃ c ∈ t.rows s, c.id = p.channelId := by
    intro p hp
    obtain ⟨c, hc, h⟩ := List.mem_filterMap.mp (hperm.mem_iff.mp hp)
    exact ⟨c, hc, (PrunePlan.channelId_forChannel? h).symm⟩
  obtain ⟨s', happly, hu', hr⟩ := perform_applyPruning t w hu hd hids {}
  have hrows : t.rows s' = (t.rows s).map (Channel.pruned results) := by
    rw [hr]
    exact List.map_congr_left fun c hc => foldl_carryOut_eq_pruned hd hperm hn hc
  refine ⟨plans, _, s', hplan, happly, hu', hrows, ?_⟩
  rw [hrows]
  exact pruneEffect_of_perm hperm

theorem perform_planPruning_of_pruned {rows : List Channel} (hu : t.isUp s) (hd : DistinctIds rows)
    (hr : t.rows s = rows.map (Channel.pruned results)) :
    ((w.onTable t).planPruning results).perform s = (.ok [], s) := by
  have hd' : DistinctIds (t.rows s) := hr ▸ hd.map (Channel.pruned_id results)
  obtain ⟨plans, hplan, hperm, -⟩ := perform_planPruning t w results hu hd'
  have hnone : (t.rows s).filterMap (forChannel? results) = [] := by
    rw [List.filterMap_eq_nil_iff, hr]
    intro d hm
    obtain ⟨c, -, rfl⟩ := List.mem_map.mp hm
    exact Channel.forChannel?_pruned results c
  rw [hnone, List.perm_nil] at hperm
  rw [hplan, hperm]

/-- The exact effect of pruning on a table with distinct ids, for any results.

Premise: no call of the store fails. -/
theorem pruning_effect (results : List KeyTestResult) (hu : t.isUp s)
    (hd : DistinctIds (t.rows s)) :
    ∃ plans report s', ((w.onTable t).planPruning results).perform s = (.ok plans, s) ∧
      ((w.onTable t).applyPruning plans).perform s = (.ok report, s') ∧
      PruneEffect results (t.rows s) (t.rows s') report ∧
      ((w.onTable t).planPruning results).perform s' = (.ok [], s') := by
  obtain ⟨plans, report, s', hplan, happly, hu', hrows, heffect⟩ :=
    perform_pruning t w results hu hd
  exact ⟨plans, report, s', hplan, happly, heffect,
    perform_planPruning_of_pruned t w hu' hd hrows⟩

end

namespace Sample

/-- A channel with a repeated key and a structured credential, and one with a
single key. -/
def channels : List Channel := [
  { id := 9, name := "single", kind := 24, status := 1, key := "gone" },
  { id := 7, name := "pool", kind := 24, status := 2, key := " bad \n\n[x]\ngood\nbad" }]

def world : World MemoryStore MemoryFiles := ⟨{ channels := .ofRows channels }, {}⟩

def workspace : Workspace (World MemoryStore MemoryFiles) :=
  World.workspace MemoryStore.channelStore (MemoryStore.tableStore '"') MemoryFiles.store
    (.ofSeconds 0) "backups"

def keyTable : KeyTable (World MemoryStore MemoryFiles) := MemoryStore.keyTable.inWorld MemoryFiles

def result (channelId : Int) (key : String) (result : ProbeResult) : KeyTestResult :=
  ⟨1, key, some ⟨channelId, "", 24, 1, key, ""⟩, "m", result⟩

/-- Two rejections, one of them of a channel that is gone, and a busy answer. -/
def results : List KeyTestResult := [
  result 7 "bad" (.failed .forbidden "" 1),
  result 4 "good" (.failed .badRequest "" 1),
  result 7 "good" (.failed .rateLimited "" 1),
  result 9 "gone" (.failed .badRequest "" 1)]

theorem isUp_world : keyTable.isUp world := ⟨rfl, by simp [world, MemoryChannels.ofRows]⟩

end Sample

theorem pruning_effect_sample :
    Sample.keyTable.isUp Sample.world ∧ DistinctIds (Sample.keyTable.rows Sample.world) ∧
      ∃ plans report s',
        ((Sample.workspace.onTable Sample.keyTable).planPruning Sample.results).perform
          Sample.world = (.ok plans, Sample.world) ∧
        ((Sample.workspace.onTable Sample.keyTable).applyPruning plans).perform Sample.world =
          (.ok report, s') ∧
        PruneEffect Sample.results (Sample.keyTable.rows Sample.world) (Sample.keyTable.rows s')
          report ∧
        ((Sample.workspace.onTable Sample.keyTable).planPruning Sample.results).perform s' =
          (.ok [], s') :=
  have hd : DistinctIds (Sample.keyTable.rows Sample.world) := by decide
  ⟨Sample.isUp_world, hd,
    pruning_effect Sample.keyTable Sample.workspace Sample.results Sample.isUp_world hd⟩

example : (Sample.channels.map fun c => (c.pruned Sample.results).key) = ["", "[x]\ngood"] := by
  decide +kernel

end ChannelKeeper

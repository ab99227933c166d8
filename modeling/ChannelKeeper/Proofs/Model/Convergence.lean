import ChannelKeeper.Files.Memory
import ChannelKeeper.Model.Update
import ChannelKeeper.Proofs.Lists
import ChannelKeeper.Proofs.Store.ModelTable
import ChannelKeeper.Proofs.Text.Split

/-!
# Model lists brought to a target

What an update does to the rows: the selected channels list the target afterwards, the
rows that need no change are the same texts as before, and a second update has nothing to
do. The listed names are compared, so blanks and empty items in a stored list are no
reason to write it again. Nothing is said of updates in which a call fails.
-/

namespace ChannelKeeper

/-- A name that can stand in a list of models. -/
structure IsModelName (name : String) : Prop where
  trimmed : Text.trim name = name
  ne_empty : name ≠ ""
  no_comma : ',' ∉ name.toList

instance (name : String) : Decidable (IsModelName name) :=
  decidable_of_iff (Text.trim name = name ∧ name ≠ "" ∧ ',' ∉ name.toList)
    ⟨fun ⟨h₁, h₂, h₃⟩ => ⟨h₁, h₂, h₃⟩, fun ⟨h₁, h₂, h₃⟩ => ⟨h₁, h₂, h₃⟩⟩

variable {types : List Int} {target : List String} {c : Channel}

def Channel.isOfTypes (types : List Int) (c : Channel) : Bool :=
  ({ types := types } : ChannelFilter).selects c

/-- What an update of the models does to one row. -/
structure ModelsUpdated (types : List Int) (target : List String) (before after : Channel) :
    Prop where
  listed : before.isOfTypes types → after.modelList = target
  others : after = { before with models := after.models }
  untouched : before.isOfTypes types = false ∨ before.modelList = target → after = before

/-- What an update of the models does to all rows, and what it reports. -/
structure ModelsEffect (types : List Int) (target : List String) (before after : List Channel)
    (report : ModelReport) : Prop where
  rows : List.Forall₂ (ModelsUpdated types target) before after
  updated : report.updated =
    before.countP fun c => c.isOfTypes types && c.modelList != target
  unchanged : report.unchanged =
    before.countP fun c => c.isOfTypes types && c.modelList == target
  failed : report.failed = 0
  errors : report.errors = []

namespace Channel

theorem modelList_joined (ht : ∀ name ∈ target, IsModelName name) (c : Channel) :
    { c with models := Text.join "," target }.modelList = target :=
  Text.trimmed_splitOn_join (fun name hn => (ht name hn).trimmed)
    (fun name hn => (ht name hn).ne_empty) fun name hn => (ht name hn).no_comma

def withTarget (types : List Int) (target : List String) (c : Channel) : Channel :=
  if c.isOfTypes types && c.modelList != target then { c with models := Text.join "," target }
  else c

theorem withTarget_id (types : List Int) (target : List String) (c : Channel) :
    (c.withTarget types target).id = c.id := by
  unfold withTarget
  split <;> rfl

theorem withTarget_isOfTypes (c : Channel) :
    (c.withTarget types target).isOfTypes types = c.isOfTypes types := by
  unfold withTarget
  split <;> rfl

theorem withTarget_updated (ht : ∀ name ∈ target, IsModelName name) (c : Channel) :
    ModelsUpdated types target c (c.withTarget types target) := by
  unfold withTarget
  split
  · rename_i hneeds
    obtain ⟨hof, hlist⟩ := Bool.and_eq_true_iff.mp hneeds
    refine ⟨fun _ => modelList_joined ht c, rfl, ?_⟩
    rintro (hnot | hsame)
    · simp [hof] at hnot
    · simp [hsame] at hlist
  · rename_i hneeds
    refine ⟨fun hof => ?_, rfl, fun _ => rfl⟩
    simpa [hof] using hneeds

end Channel

-- ---------------------------------------------------------------------------
-- Plans
-- ---------------------------------------------------------------------------

namespace ModelPlan

def carryOut (c : Channel) (p : ModelPlan) : Channel :=
  if p.changed ∧ c.id = p.channelId then { c with models := p.new } else c

theorem carryOut_id (c : Channel) (p : ModelPlan) : (carryOut c p).id = c.id := by
  unfold carryOut
  split <;> rfl

theorem carryOut_of_ne (c : Channel) (p : ModelPlan) (h : p.channelId ≠ c.id) : carryOut c p = c :=
  if_neg fun hp => h hp.2.symm

theorem foldl_carryOut {rows : List Channel} {plans : List ModelPlan} (hd : DistinctIds rows)
    (hp : plans.Perm ((rows.filter (·.isOfTypes types)).map (ofChannel target)))
    (hn : (plans.map (·.channelId)).Nodup) (hc : c ∈ rows) :
    plans.foldl carryOut c = c.withTarget types target := by
  cases hof : c.isOfTypes types with
  | true =>
    have hmem : ofChannel target c ∈ plans :=
      hp.mem_iff.mpr (List.mem_map_of_mem (List.mem_filter.mpr ⟨hc, hof⟩))
    rw [Lists.foldl_change_of_mem carryOut_id carryOut_of_ne hn hmem rfl]
    simp [carryOut, Channel.withTarget, hof, ofChannel]
  | false =>
    rw [show c.withTarget types target = c by simp [Channel.withTarget, hof]]
    refine Lists.foldl_change_of_not_mem carryOut_of_ne fun p hmem he => ?_
    obtain ⟨d, hdm, rfl⟩ := List.mem_map.mp (hp.mem_iff.mp hmem)
    obtain ⟨hdrows, hdof⟩ := List.mem_filter.mp hdm
    obtain rfl : d = c := hd.eq_of_id hdrows hc he
    simp [hof] at hdof

end ModelPlan

namespace ModelReport

def recordPlan (r : ModelReport) (p : ModelPlan) : ModelReport :=
  if p.changed then { r with updated := r.updated + 1 } else { r with unchanged := r.unchanged + 1 }

theorem foldl_recordPlan (plans : List ModelPlan) (r : ModelReport) :
    plans.foldl recordPlan r =
      { r with
        updated := r.updated + plans.countP (·.changed)
        unchanged := r.unchanged + plans.countP (!·.changed) } := by
  induction plans generalizing r with
  | nil => simp
  | cons p rest ih =>
    rw [List.foldl_cons, ih]
    cases hp : p.changed <;> simp [recordPlan, hp, Nat.add_assoc, Nat.add_comm 1]

end ModelReport

-- ---------------------------------------------------------------------------
-- Planning and carrying out
-- ---------------------------------------------------------------------------

section

variable {σ : Type} {s : σ} {t : ModelTable σ} {w : Workspace σ} {plans : List ModelPlan}

theorem perform_planModels (hw : w.channels = t.store) (types : List Int) (target : List String)
    (hu : t.isUp s) (hd : DistinctIds (t.rows s)) :
    ∃ plans, (w.planModels types target).perform s = (.ok plans, s) ∧
      plans.Perm (((t.rows s).filter (·.isOfTypes types)).map (ModelPlan.ofChannel target)) ∧
      (plans.map (·.channelId)).Nodup := by
  obtain ⟨listed, hlist, hperm⟩ := t.list_up { types := types } hu
  refine ⟨listed.map (ModelPlan.ofChannel target), ?_, hperm.map _, ?_⟩
  · have hstored : (Workspace.stored (w.channels.list { types := types })).perform s =
        (.ok listed, s) := Action.perform_mapError_ok _ (hw ▸ hlist)
    rw [Workspace.planModels, Action.perform_bind_ok hstored, Action.perform_pure]
  · rw [List.map_map]
    exact (hd.filter _).perm hperm.symm

/-- One plan is at most one statement, which succeeds while the row is there. -/
theorem perform_applyModelPlan {p : ModelPlan} (hw : w.channels = t.store) (r : ModelReport)
    (hu : t.isUp s) (hd : DistinctIds (t.rows s)) (hp : ∃ c ∈ t.rows s, c.id = p.channelId) :
    ∃ s', (w.applyModelPlan r p).perform s = (.ok (r.recordPlan p), s') ∧ t.isUp s' ∧
      t.rows s' = (t.rows s).map (ModelPlan.carryOut · p) := by
  cases hc : p.changed with
  | false => exact ⟨s, by simp [Workspace.applyModelPlan, ModelReport.recordPlan, hc], hu,
      by simp [ModelPlan.carryOut, hc]⟩
  | true =>
    obtain ⟨s', hupdate, hu', hr⟩ := t.updateModels_up p.channelId p.new hu hd hp
    refine ⟨s', ?_, hu', by simp [hr, ModelPlan.carryOut, hc]⟩
    rw [← hw] at hupdate
    simp [Workspace.applyModelPlan, ModelReport.recordPlan, hc, Action.perform_attempt_bind, hupdate]

theorem perform_applyModels (hw : w.channels = t.store) (hu : t.isUp s)
    (hd : DistinctIds (t.rows s)) (hp : ∀ p ∈ plans, ∃ c ∈ t.rows s, c.id = p.channelId)
    (r : ModelReport) :
    ∃ s', (Action.fold w.applyModelPlan r plans).perform s =
        (.ok (plans.foldl ModelReport.recordPlan r), s') ∧ t.isUp s' ∧
      t.rows s' = (t.rows s).map fun c => plans.foldl ModelPlan.carryOut c := by
  induction plans generalizing s r with
  | nil => exact ⟨s, rfl, hu, by simp⟩
  | cons p rest ih =>
    obtain ⟨hrow, hrows⟩ := List.forall_mem_cons.mp hp
    obtain ⟨s₁, h₁, hu₁, hr₁⟩ := perform_applyModelPlan hw r hu hd hrow
    have hids : ∀ q ∈ rest, ∃ c ∈ t.rows s₁, c.id = q.channelId := by
      intro q hq
      obtain ⟨c, hc, he⟩ := hrows q hq
      exact ⟨_, hr₁ ▸ List.mem_map_of_mem hc, (ModelPlan.carryOut_id c p).trans he⟩
    have hd₁ : DistinctIds (t.rows s₁) := hr₁ ▸ hd.map fun c => ModelPlan.carryOut_id c p
    obtain ⟨s', h', hu', hr'⟩ := ih hu₁ hd₁ hids (r.recordPlan p)
    refine ⟨s', (Action.perform_fold_cons h₁).trans h', hu', ?_⟩
    rw [hr', hr₁, List.map_map]
    rfl

/-- Planning and carrying out on the rows alone: every row is brought to the target. -/
theorem perform_updateModels (hw : w.channels = t.store) (types : List Int) (target : List String)
    (hu : t.isUp s) (hd : DistinctIds (t.rows s)) :
    ∃ plans s', (w.planModels types target).perform s = (.ok plans, s) ∧
      (w.applyModels plans).perform s = (.ok (plans.foldl ModelReport.recordPlan {}), s') ∧
      plans.Perm (((t.rows s).filter (·.isOfTypes types)).map (ModelPlan.ofChannel target)) ∧
      t.isUp s' ∧ t.rows s' = (t.rows s).map (Channel.withTarget types target) := by
  obtain ⟨plans, hplan, hperm, hn⟩ := perform_planModels hw types target hu hd
  have hids : ∀ p ∈ plans, ∃ c ∈ t.rows s, c.id = p.channelId := by
    intro p hp
    obtain ⟨c, hc, rfl⟩ := List.mem_map.mp (hperm.mem_iff.mp hp)
    exact ⟨c, List.mem_of_mem_filter hc, rfl⟩
  obtain ⟨s', happly, hu', hr⟩ := perform_applyModels hw hu hd hids {}
  refine ⟨plans, s', hplan, happly, hperm, hu', hr.trans ?_⟩
  exact List.map_congr_left fun c hc => ModelPlan.foldl_carryOut hd hperm hn hc

/-- The exact effect of an update on a table with distinct ids, and none of a second one.

Premise: no call of the store fails. -/
theorem models_update_converges (hw : w.channels = t.store) (types : List Int)
    (ht : ∀ name ∈ target, IsModelName name) (hu : t.isUp s) (hd : DistinctIds (t.rows s)) :
    ∃ plans report s' plans', (w.planModels types target).perform s = (.ok plans, s) ∧
      (w.applyModels plans).perform s = (.ok report, s') ∧
      ModelsEffect types target (t.rows s) (t.rows s') report ∧
      (w.planModels types target).perform s' = (.ok plans', s') ∧ ∀ p ∈ plans', p.changed = false := by
  obtain ⟨plans, s', hplan, happly, hperm, hu', hr⟩ := perform_updateModels hw types target hu hd
  have hd' : DistinctIds (t.rows s') := hr ▸ hd.map (Channel.withTarget_id types target)
  obtain ⟨plans', hplan', hperm', -⟩ := perform_planModels hw types target hu' hd'
  refine ⟨plans, _, s', plans', hplan, happly, ?_, hplan', fun p hp => ?_⟩
  · rw [ModelReport.foldl_recordPlan, hr]
    refine ⟨?_, ?_, ?_, rfl, rfl⟩
    · rw [List.forall₂_map_right_iff, List.forall₂_same]
      exact fun c _ => c.withTarget_updated ht
    · simp [hperm.countP_eq, List.countP_filter, Function.comp_def, ModelPlan.ofChannel,
        Bool.and_comm]
    · simp [hperm.countP_eq, List.countP_filter, Function.comp_def, ModelPlan.ofChannel,
        Bool.and_comm, bne]
  · obtain ⟨d, hdm, rfl⟩ := List.mem_map.mp (hperm'.mem_iff.mp hp)
    obtain ⟨hdrows, hdof⟩ := List.mem_filter.mp hdm
    rw [hr] at hdrows
    obtain ⟨c, -, rfl⟩ := List.mem_map.mp hdrows
    rw [Channel.withTarget_isOfTypes] at hdof
    simp [ModelPlan.ofChannel, (c.withTarget_updated ht).listed hdof]

end

namespace Sample

/-- One channel lists the target with blanks and an empty item, one lists other models, and
one is of another type. -/
def listedChannels : List Channel := [
  { id := 4, name := "listed", kind := 24, models := " a , ,b" },
  { id := 2, name := "other", kind := 24, models := "a" },
  { id := 9, name := "elsewhere", kind := 1, models := "z" }]

def listedDatabase : World Relational.Database MemoryFiles :=
  let empty := Relational.Database.createCounted {} Relational.Database.channelTable "id"
    [⟨"id", "INTEGER"⟩, ⟨"type", "INTEGER"⟩, ⟨"key", "TEXT"⟩, ⟨"status", "INTEGER"⟩,
      ⟨"name", "TEXT"⟩, ⟨"models", "TEXT"⟩]
  ⟨listedChannels.foldl (fun db c => ((db.insertChannel c true).toOption.map (·.2)).getD db) empty, {}⟩

def listedWorkspace : Workspace (World Relational.Database MemoryFiles) :=
  World.workspace Relational.Database.channelStore Relational.Database.tableStore MemoryFiles.store
    (.ofSeconds 0) "backups"

def modelTable : ModelTable (World Relational.Database MemoryFiles) :=
  Relational.Database.modelTable.inWorld MemoryFiles

theorem isUp_listedDatabase : modelTable.isUp listedDatabase := by
  have h : ((listedDatabase.data.find? Relational.Database.channelTable).any fun t =>
      decide t.HasModels) = true := by decide +kernel
  obtain ⟨t, ht, hc⟩ := (Option.any_eq_true _ _).mp h
  exact ⟨t, ht, of_decide_eq_true hc⟩

end Sample

theorem models_update_converges_sample :
    (∀ name ∈ ["a", "b"], IsModelName name) ∧ Sample.modelTable.isUp Sample.listedDatabase ∧
      DistinctIds (Sample.modelTable.rows Sample.listedDatabase) ∧
      ∃ plans report s' plans',
        (Sample.listedWorkspace.planModels [24] ["a", "b"]).perform Sample.listedDatabase =
          (.ok plans, Sample.listedDatabase) ∧
        (Sample.listedWorkspace.applyModels plans).perform Sample.listedDatabase =
          (.ok report, s') ∧
        ModelsEffect [24] ["a", "b"] (Sample.modelTable.rows Sample.listedDatabase)
          (Sample.modelTable.rows s') report ∧
        (Sample.listedWorkspace.planModels [24] ["a", "b"]).perform s' = (.ok plans', s') ∧
        ∀ p ∈ plans', p.changed = false :=
  have ht : ∀ name ∈ ["a", "b"], IsModelName name := by decide +kernel
  have hd : DistinctIds (Sample.modelTable.rows Sample.listedDatabase) := by decide +kernel
  ⟨ht, Sample.isUp_listedDatabase, hd,
    models_update_converges (t := Sample.modelTable) (w := Sample.listedWorkspace) rfl [24] ht
      Sample.isUp_listedDatabase hd⟩

example : (Sample.listedChannels.map fun c => (c.withTarget [24] ["a", "b"]).models) =
    [" a , ,b", "a,b", "z"] := by
  decide +kernel

end ChannelKeeper

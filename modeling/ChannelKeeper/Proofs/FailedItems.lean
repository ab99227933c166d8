import ChannelKeeper.Proofs.Backup.Restore
import ChannelKeeper.Proofs.Bulk
import ChannelKeeper.Proofs.Store.FallibleTable

/-!
# Items that fail alone

Imports, restores, updates of models and prunings are loops over items. If the calls for
some of the items are refused, whatever became of the others, the operation still comes
to its report: every item is counted once, every failed one has its line, and the table
that is left is the one that the others alone leave. Nothing is said of the calls that a
restore makes before its first item.
-/

namespace ChannelKeeper

variable {σ : Type} {can : σ → Prop} {s : σ}

/-- In all these states the call is refused, and changes nothing. -/
def Action.Refused {β : Type} (act : Action σ StoreError β) (can : σ → Prop) : Prop :=
  ∀ s, can s → ∃ e, act.perform s = (.error e, s)

theorem Action.Refused.ofCall {β : Type} {act : Action σ StoreError β} (h : act.Refused can)
    (hs : can s) :
    (Ending.ofCall (act.perform s)).2 = s ∧ (Ending.ofCall (act.perform s)).1.isFailed := by
  obtain ⟨e, he⟩ := h s hs
  rw [he]
  exact ⟨rfl, rfl⟩

theorem Action.Refused.change {β : Type} {f : σ → Except StoreError (β × σ)}
    (h : ∀ s, can s → ∃ e, f s = .error e) : (Action.change f).Refused can := by
  intro s hs
  obtain ⟨e, he⟩ := h s hs
  exact ⟨e, Action.perform_change_eq_error.mpr ⟨he, rfl⟩⟩

theorem Action.Refused.onPart {β τ : Type} {act : Action σ StoreError β} (h : act.Refused can)
    {get : τ → σ} {set : σ → τ → τ} (set_get : ∀ t, set (get t) t = t) :
    (act.onPart get set).Refused fun t => can (get t) := by
  intro t ht
  obtain ⟨e, he⟩ := h (get t) ht
  exact ⟨e, by rw [Action.perform_onPart, he, set_get]⟩

theorem Ending.ofCall_snd {β : Type} (result : Except StoreError β × σ) :
    (ofCall result).2 = result.2 := by
  rcases result with ⟨_ | _, _⟩ <;> rfl

-- ---------------------------------------------------------------------------
-- The loops
-- ---------------------------------------------------------------------------

def ImportReport.tally (r : ImportReport) : Tally :=
  ⟨some r.total, r.success, r.skipped, r.failed, r.errors⟩

theorem ImportReport.perform_recordOutcome {β : Type} (act : Action σ StoreError β)
    (r : ImportReport) (c : Channel) (s : σ) :
    ∃ r', ((act.attempt : Workspace.Task σ _) >>= fun result =>
        pure (r.recordOutcome c result)).perform s = (.ok r', (Ending.ofCall (act.perform s)).2) ∧
      r'.tally = r.tally.count (fun e => failureLine c.name c.id e.message)
        (Ending.ofCall (act.perform s)).1 := by
  rw [Action.perform_attempt_bind]
  rcases act.perform s with ⟨_ | _, s'⟩ <;> exact ⟨_, rfl, rfl⟩

namespace Workspace

variable (w : Workspace σ)

/-- How a channel of an import ends. -/
def takeImport (updateExisting dryRun : Bool) (c : Channel) (s : σ) : Ending × σ :=
  match (w.channels.findExisting c.name c.id).perform s with
  | (.error e, s₁) => (.failed e, s₁)
  | (.ok (some row), s₁) =>
    if !updateExisting then (.passed, s₁)
    else if dryRun then (.done, s₁)
    else Ending.ofCall ((w.channels.update { c with id := row.id }).perform s₁)
  | (.ok none, s₁) =>
    if dryRun then (.done, s₁) else Ending.ofCall ((w.channels.insert c false).perform s₁)

def importLoop (updateExisting dryRun : Bool) : Loop σ Channel ImportReport where
  step := w.importChannel updateExisting dryRun
  take := w.takeImport updateExisting dryRun
  tally := ImportReport.tally
  line c e := failureLine c.name c.id e.message
  perform_step r c s := by
    rw [importChannel, Action.perform_attempt_bind, takeImport]
    rcases (w.channels.findExisting c.name c.id).perform s with ⟨_ | _ | row, s₁⟩
    · exact ⟨_, rfl, rfl⟩
    · cases dryRun with
      | true => exact ⟨_, rfl, rfl⟩
      | false => exact ImportReport.perform_recordOutcome (w.channels.insert c false) r c s₁
    · cases updateExisting with
      | false => exact ⟨_, rfl, rfl⟩
      | true =>
        cases dryRun with
        | true => exact ⟨_, rfl, rfl⟩
        | false => exact ImportReport.perform_recordOutcome _ r c s₁

def restoreLoop : Loop σ Channel RestoreReport where
  step := w.restoreChannel
  take c s := Ending.ofCall ((w.channels.insert c true).perform s)
  tally r := ⟨some r.total, r.restored, 0, r.failed, r.errors⟩
  line c e := failureLine c.name c.id e.message
  perform_step r c s := by
    rw [restoreChannel, Action.perform_attempt_bind]
    rcases (w.channels.insert c true).perform s with ⟨_ | _, s'⟩ <;> exact ⟨_, rfl, rfl⟩

def modelLoop : Loop σ ModelPlan ModelReport where
  step := w.applyModelPlan
  take plan s :=
    if plan.changed then Ending.ofCall ((w.channels.updateModels plan.channelId plan.new).perform s)
    else (.passed, s)
  tally r := ⟨none, r.updated, r.unchanged, r.failed, r.errors⟩
  line plan e := failureLine plan.channelName plan.channelId e.message
  perform_step r plan s := by
    rw [applyModelPlan]
    cases plan.changed with
    | false => exact ⟨_, rfl, rfl⟩
    | true =>
      simp only [Bool.not_true, Bool.false_eq_true, if_false, if_true, Action.perform_attempt_bind]
      rcases (w.channels.updateModels plan.channelId plan.new).perform s with ⟨_ | _, s'⟩ <;>
        exact ⟨_, rfl, rfl⟩

def pruneLoop : Loop σ PrunePlan PruneReport where
  step := w.applyPlan
  take plan s := Ending.ofCall ((w.channels.updateKey plan.channelId plan.blob plan.status).perform s)
  tally r := ⟨none, r.channelsUpdated, 0, r.failed, r.errors⟩
  line plan e := failureLine plan.channelName plan.channelId e.message
  perform_step r plan s := by
    rw [applyPlan, Action.perform_attempt_bind]
    rcases (w.channels.updateKey plan.channelId plan.blob plan.status).perform s with ⟨_ | _, s'⟩ <;>
      exact ⟨_, rfl, rfl⟩

-- ---------------------------------------------------------------------------
-- Refusals
-- ---------------------------------------------------------------------------

/-- The channels that an import cannot bring in: looking for one of them is refused, or
else writing it is, under any id. No call of the import leads out of the states in
which that is so. -/
structure ImportRefuses (can : σ → Prop) (refused : Channel → Bool) : Prop where
  findExisting (name : String) (id : Int) : (w.channels.findExisting name id).Preserves can
  insert (c : Channel) : (w.channels.insert c false).Preserves can
  update (c : Channel) : (w.channels.update c).Preserves can
  refuses (c : Channel) : refused c → (w.channels.findExisting c.name c.id).Refused can ∨
    (∀ s, can s → ((w.channels.findExisting c.name c.id).perform s).2 = s) ∧
      (w.channels.insert c false).Refused can ∧
      ∀ id, (w.channels.update { c with id := id }).Refused can

/-- The channels that a restore cannot add. Saving and emptying the table first does not
change that, and emptying it succeeds. -/
structure RestoreRefuses (can : σ → Prop) (refused : Channel → Bool) : Prop where
  snapshot : (w.snapshot "pre_restore_backup" Backup.sourceFull).Preserves can
  deleteAll (s : σ) : can s → ∃ n s', w.channels.deleteAll.perform s = (.ok n, s') ∧ can s'
  insert (c : Channel) : (w.channels.insert c true).Preserves can
  refuses (c : Channel) : refused c → (w.channels.insert c true).Refused can

/-- The plans for models that cannot be written. -/
structure ModelsRefuse (can : σ → Prop) (refused : ModelPlan → Bool) : Prop where
  updateModels (id : Int) (models : String) : (w.channels.updateModels id models).Preserves can
  refuses (plan : ModelPlan) : refused plan →
    (w.channels.updateModels plan.channelId plan.new).Refused can

/-- The plans for keys that cannot be written. -/
structure PruningRefuses (can : σ → Prop) (refused : PrunePlan → Bool) : Prop where
  updateKey (id : Int) (key : String) (status : Option Int) :
    (w.channels.updateKey id key status).Preserves can
  refuses (plan : PrunePlan) : refused plan →
    (w.channels.updateKey plan.channelId plan.blob plan.status).Refused can

variable {w}

theorem ImportRefuses.take_can {refused : Channel → Bool} (h : w.ImportRefuses can refused)
    (updateExisting dryRun : Bool) (c : Channel) (hs : can s) :
    can (w.takeImport updateExisting dryRun c s).2 := by
  have hfind := h.findExisting c.name c.id s hs
  revert hfind
  rw [takeImport]
  rcases (w.channels.findExisting c.name c.id).perform s with ⟨_ | _ | row, s₁⟩ <;> intro hfind
  · exact hfind
  · cases dryRun with
    | true => exact hfind
    | false =>
      have hinsert := h.insert c s₁ hfind
      simpa [Ending.ofCall_snd] using hinsert
  · have hupdate := h.update { c with id := row.id } s₁ hfind
    cases updateExisting <;> cases dryRun <;> simpa [Ending.ofCall_snd]

/-- Those that are there already are passed over by an import that only adds, and a dry
run writes nothing that could fail. -/
def importSpares (updateExisting dryRun : Bool) (_ : Channel) (ending : Ending) : Prop :=
  (updateExisting = false ∧ ending.isPassed) ∨ (dryRun = true ∧ ending.isDone)

theorem ImportRefuses.take_refused {refused : Channel → Bool} (h : w.ImportRefuses can refused)
    (updateExisting dryRun : Bool) {c : Channel} (hs : can s) (hc : refused c) :
    (w.takeImport updateExisting dryRun c s).2 = s ∧
      ((w.takeImport updateExisting dryRun c s).1.isFailed ∨
        importSpares updateExisting dryRun c (w.takeImport updateExisting dryRun c s).1) := by
  rw [takeImport]
  rcases h.refuses c hc with hfind | ⟨hfind, hinsert, hupdate⟩
  · obtain ⟨e, he⟩ := hfind s hs
    rw [he]
    exact ⟨rfl, .inl rfl⟩
  · have hs₁ := hfind s hs
    revert hs₁
    rcases (w.channels.findExisting c.name c.id).perform s with ⟨_ | _ | row, s₁⟩ <;> intro hs₁
    · exact ⟨hs₁, .inl rfl⟩
    · obtain rfl : s₁ = s := hs₁
      cases dryRun with
      | true => exact ⟨rfl, .inr (.inr ⟨rfl, rfl⟩)⟩
      | false => exact (hinsert.ofCall hs).imp_right .inl
    · obtain rfl : s₁ = s := hs₁
      cases updateExisting with
      | false => exact ⟨rfl, .inr (.inl ⟨rfl, rfl⟩)⟩
      | true =>
        cases dryRun with
        | true => exact ⟨rfl, .inr (.inr ⟨rfl, rfl⟩)⟩
        | false => exact ((hupdate row.id).ofCall hs).imp_right .inl

/-- Saving and emptying the table come before the first channel, whatever the document. -/
theorem RestoreRefuses.perform_restore {refused : Channel → Bool} (h : w.RestoreRefuses can refused)
    (hs : can s) : ∃ start : RestoreReport, ∃ s₁, can s₁ ∧ start.restored = 0 ∧ start.failed = 0 ∧
      start.errors = [] ∧ ∀ document : Backup, (w.restore document false).perform s =
        (Action.fold w.restoreChannel { start with total := document.channels.length }
          document.channels).perform s₁ := by
  have hsaved := h.snapshot s hs
  rcases hsnapshot : (w.snapshot "pre_restore_backup" Backup.sourceFull).perform s with ⟨saved, s₁⟩
  rw [hsnapshot] at hsaved
  obtain ⟨n, s₂, hdelete, hs₂⟩ := h.deleteAll s₁ hsaved
  refine ⟨{ snapshot := saved.toOption.map (·.path), deleted := n }, s₂, hs₂, rfl, rfl, rfl, ?_⟩
  exact fun document => ChannelKeeper.perform_restore hsnapshot
    (Action.perform_mapError_ok _ hdelete) document

end Workspace

-- ---------------------------------------------------------------------------
-- The operations
-- ---------------------------------------------------------------------------

/-- In each of the operations, the items whose calls are refused fail alone. A dry run of a
restore takes no item, counts none and changes nothing. -/
theorem items_fail_alone (w : Workspace σ) (s : σ) :
    (∀ (can : σ → Prop) (refused : Channel → Bool) (document : Backup) (updateExisting dryRun : Bool),
      can s → w.ImportRefuses can refused →
      (w.importLoop updateExisting dryRun).FailsAlone
        (fun channels =>
          w.importBackup { document with channels := channels } updateExisting dryRun)
        refused (Workspace.importSpares updateExisting dryRun) document.channels s) ∧
    (∀ (can : σ → Prop) (refused : Channel → Bool) (document : Backup),
      can s → w.RestoreRefuses can refused →
      w.restoreLoop.FailsAlone
        (fun channels => w.restore { document with channels := channels } false)
        refused (fun _ _ => False) document.channels s) ∧
    (∀ document : Backup, (w.restore document true).perform s =
      (.ok { total := document.channels.length, dryRun := true }, s)) ∧
    (∀ (can : σ → Prop) (refused : ModelPlan → Bool) (plans : List ModelPlan),
      can s → w.ModelsRefuse can refused →
      w.modelLoop.FailsAlone w.applyModels refused
        (fun plan ending => plan.changed = false ∧ ending.isPassed) plans s) ∧
    ∀ (can : σ → Prop) (refused : PrunePlan → Bool) (plans : List PrunePlan),
      can s → w.PruningRefuses can refused →
      w.pruneLoop.FailsAlone w.applyPruning refused (fun _ _ => False) plans s := by
  refine ⟨?imports, ?restores, fun _ => rfl, ?models, ?prunings⟩
  case imports =>
    intro can refused document updateExisting dryRun hs h
    exact Loop.failsAlone (fun _ => rfl) (fun items => ⟨some items.length, rfl, by simp⟩) hs
      (fun c _ hs => h.take_can updateExisting dryRun c hs)
      (fun c _ hs hc => h.take_refused updateExisting dryRun hs hc) document.channels
  case restores =>
    intro can refused document hs h
    obtain ⟨start, s₁, hs₁, hr, hf, he, hperform⟩ := h.perform_restore hs
    refine Loop.failsAlone (fun items => hperform { document with channels := items })
      (fun items => ⟨some items.length, ?_, by simp⟩) hs₁ (fun c s hs => ?_)
      (fun c s hs hc => ?_) document.channels
    · simp [Workspace.restoreLoop, Tally.empty, hr, hf, he]
    · exact (Ending.ofCall_snd _).symm ▸ h.insert c s hs
    · exact ((h.refuses c hc).ofCall hs).imp_right .inl
  case models =>
    intro can refused plans hs h
    refine Loop.failsAlone (fun _ => rfl) (fun _ => ⟨none, rfl, by simp⟩) hs (fun plan s hs => ?_)
      (fun plan s hs hp => ?_) plans
    · cases hp : plan.changed with
      | false => simpa [Workspace.modelLoop, hp]
      | true => simpa [Workspace.modelLoop, hp, Ending.ofCall_snd] using h.updateModels _ _ s hs
    · cases hchanged : plan.changed with
      | false => simp [Workspace.modelLoop, hchanged, Ending.isPassed]
      | true =>
        have hcall := (h.refuses plan hp).ofCall hs
        simp [Workspace.modelLoop, hchanged, hcall]
  case prunings =>
    intro can refused plans hs h
    refine Loop.failsAlone (fun _ => rfl) (fun _ => ⟨none, rfl, by simp⟩) hs (fun plan s hs => ?_)
      (fun plan s hs hp => ?_) plans
    · exact (Ending.ofCall_snd _).symm ▸ h.updateKey _ _ _ s hs
    · exact ((h.refuses plan hp).ofCall hs).imp_right .inl

-- ---------------------------------------------------------------------------
-- Rows in memory
-- ---------------------------------------------------------------------------

namespace MemoryChannels

variable {m m' : MemoryChannels} {c : Channel}

theorem insert_refused (h : c.name ∈ m.failing) (keepId : Bool) :
    ∃ e, m.insert c keepId = .error e := by
  refine ⟨injected, ?_⟩
  simp [insert, checkName, h, bind, Except.bind]

theorem update_refused (h : c.name ∈ m.failing) : ∃ e, m.update c = .error e :=
  ⟨injected, by simp [update, h]⟩

theorem changeRow_refused {id : Int} (h : id ∉ m.rows.map (·.id)) (change : Channel → Channel) :
    ∃ e, m.changeRow id change = .error e := by
  have hnone : m.rowOf? id = none := by
    rw [rowOf?, List.find?_eq_none]
    intro row hrow heq
    exact h (List.mem_map.mpr ⟨row, hrow, by simpa using heq⟩)
  exact ⟨.notFound, by simp [changeRow, hnone]⟩

theorem insert_failing {keepId : Bool} (h : m.insert c keepId = .ok (given, m')) :
    m'.failing = m.failing ∧ m'.isDown = m.isDown := by
  unfold insert at h
  rcases m.checkName_cases c.name with hn | ⟨e, hn⟩ <;> rw [hn] at h
  · cases keepId with
    | false =>
      cases h
      exact ⟨rfl, rfl⟩
    | true =>
      cases htaken : m.rows.any (·.id == c.id) <;> rw [htaken] at h <;> cases h
      exact ⟨rfl, rfl⟩
  · cases h

theorem map_replaceFirst {β : Type} {f : Channel → β} {change : Channel → Channel}
    (h : ∀ c, f (change c) = f c) (id : Int) (rows : List Channel) :
    (replaceFirst id change rows).map f = rows.map f := by
  induction rows with
  | nil => rfl
  | cons c rest ih =>
    rw [replaceFirst]
    split
    · simp [h]
    · simp [ih]

def Refuses (name : String) (m : MemoryChannels) : Prop := name ∈ m.failing ∧ m.isDown = false

def Lacks (id : Int) (m : MemoryChannels) : Prop := id ∉ m.rows.map (·.id)

variable {name : String}

theorem insert_preserves (c : Channel) (keepId : Bool) :
    (store.insert c keepId).Preserves (Refuses name) := by
  refine .change fun m given m' hm h => ?_
  obtain ⟨hfailing, hdown⟩ := insert_failing h
  rwa [Refuses, hfailing, hdown]

theorem update_preserves (c : Channel) : (store.update c).Preserves (Refuses name) := by
  refine .change fun m _ m' hm h => ?_
  rwa [update_eq_ok h]

theorem perform_deleteAll (hm : m.Refuses name) :
    ∃ n m', store.deleteAll.perform m = (.ok n, m') ∧ m'.Refuses name := by
  have hdelete : m.deleteAll = .ok (m.rows.length, { m with rows := [] }) := by
    simp [deleteAll, checkUp, hm.2, bind, Except.bind, pure, Except.pure]
  exact ⟨_, _, Action.perform_change_ok hdelete, hm⟩

theorem insert_refuses (hc : c.name = name) (keepId : Bool) :
    (store.insert c keepId).Refused (Refuses name) :=
  .change fun _ hm => insert_refused (hc ▸ hm.1) keepId

theorem update_refuses (hc : c.name = name) : (store.update c).Refused (Refuses name) :=
  .change fun _ hm => update_refused (hc ▸ hm.1)

theorem changeRow_preserves (change : Channel → Channel) (h : ∀ c, (change c).id = c.id)
    (gone id : Int) : Action.Preserves (Lacks gone) (.change fun m => m.changeRow id change) := by
  refine .change fun m _ m' hm hok => ?_
  rwa [changeRow_eq_ok hok, Lacks, map_replaceFirst h]

theorem changeRow_refuses (id : Int) (change : Channel → Channel) :
    Action.Refused (.change fun m => m.changeRow id change) (Lacks id) :=
  .change fun _ hm => changeRow_refused hm change

end MemoryChannels

namespace Sample

def strictWorkspace : Workspace (World MemoryStore MemoryFiles) :=
  World.workspace MemoryStore.channelStore (MemoryStore.tableStore '"') MemoryFiles.store
    (.ofSeconds 0) "backups"

/-- Channels of one name are not written. -/
def strictWorld : World MemoryStore MemoryFiles :=
  ⟨{ channels := { rows := [{ id := 5, name := "old" }], nextId := 6, failing := ["bad"] } }, {}⟩

def mixedDocument : Backup :=
  ⟨"", "1.0.0", 3, "", [{ id := 1, name := "bad" }, { id := 5, name := "old" }, { id := 9 }]⟩

def isBad (c : Channel) : Bool := c.name == "bad"

def refusesBad (s : World MemoryStore MemoryFiles) : Prop := s.data.channels.Refuses "bad"

def lacksSeven (s : World MemoryStore MemoryFiles) : Prop := s.data.channels.Lacks 7

variable {α : Type} {P : MemoryChannels → Prop} {act : Action MemoryChannels StoreError α}

def onChannels (act : Action MemoryChannels StoreError α) :
    Action (World MemoryStore MemoryFiles) StoreError α :=
  (act.onPart MemoryStore.channels fun channels s => { s with channels := channels }).onPart
    World.data fun data s => { s with data := data }

theorem preserves_onChannels (h : act.Preserves P) :
    (onChannels act).Preserves fun s => P s.data.channels :=
  (h.onPart fun _ _ => rfl).onPart World.data_set

theorem refused_onChannels (h : act.Refused P) :
    (onChannels act).Refused fun s => P s.data.channels :=
  (h.onPart fun _ => rfl).onPart World.set_data

theorem importRefuses : strictWorkspace.ImportRefuses refusesBad isBad where
  findExisting name id := fun s hs => hs
  insert c := preserves_onChannels (MemoryChannels.insert_preserves c false)
  update c := preserves_onChannels (MemoryChannels.update_preserves c)
  refuses c hc := by
    replace hc : c.name = "bad" := by simpa [isBad] using hc
    refine .inr ⟨fun s hs => rfl, ?_, fun id => ?_⟩
    · exact refused_onChannels (MemoryChannels.insert_refuses hc false)
    · exact refused_onChannels (MemoryChannels.update_refuses (c := { c with id := id }) hc)

theorem restoreRefuses : strictWorkspace.RestoreRefuses refusesBad isBad where
  snapshot := by
    have hkeeps : (strictWorkspace.snapshot "pre_restore_backup" Backup.sourceFull).Keeps
        World.data :=
      Workspace.snapshot_keeps (fun _ => rfl) (Clock.keeps_fixed _ _) _ (fun _ _ _ _ => rfl) _
    exact hkeeps.preserves (p := fun data => data.channels.Refuses "bad")
  deleteAll s hs := by
    obtain ⟨n, m', hperform, hm'⟩ := MemoryChannels.perform_deleteAll hs
    refine ⟨n, ⟨{ s.data with channels := m' }, s.files⟩, ?_, hm'⟩
    simp [strictWorkspace, World.workspace, MemoryStore.channelStore, ChannelStore.onPart,
      Action.perform_onPart, hperform]
  insert c := preserves_onChannels (MemoryChannels.insert_preserves c true)
  refuses c hc := by
    replace hc : c.name = "bad" := by simpa [isBad] using hc
    exact refused_onChannels (MemoryChannels.insert_refuses hc true)

theorem modelsRefuse : strictWorkspace.ModelsRefuse lacksSeven (·.channelId == 7) where
  updateModels id models := preserves_onChannels
    (MemoryChannels.changeRow_preserves (fun c => { c with models := models }) (fun _ => rfl) 7 id)
  refuses plan hp := by
    rw [show plan.channelId = 7 by simpa using hp]
    exact refused_onChannels (MemoryChannels.changeRow_refuses 7 _)

theorem pruningRefuses : strictWorkspace.PruningRefuses lacksSeven (·.channelId == 7) where
  updateKey id key status := preserves_onChannels
    (MemoryChannels.changeRow_preserves (MemoryChannels.withKey key status) (fun _ => rfl) 7 id)
  refuses plan hp := by
    rw [show plan.channelId = 7 by simpa using hp]
    exact refused_onChannels (MemoryChannels.changeRow_refuses 7 _)

/-- One plan is for a row that is gone, one for a list that stays as it is. -/
def mixedModels : List ModelPlan :=
  [⟨7, "gone", 24, "m", "n", true⟩, ⟨5, "old", 24, "m", "n", true⟩, ⟨5, "old", 24, "n", "n", false⟩]

def mixedPruning : List PrunePlan := [⟨5, "old", ["k"], ["l"], false⟩, ⟨7, "gone", ["k"], [], true⟩]

end Sample

theorem items_fail_alone_sample :
    let w := Sample.strictWorkspace
    let s := Sample.strictWorld
    (Sample.refusesBad s ∧ w.ImportRefuses Sample.refusesBad Sample.isBad ∧
      (w.importLoop true false).FailsAlone
        (fun channels => w.importBackup { Sample.mixedDocument with channels := channels } true false)
        Sample.isBad (Workspace.importSpares true false) Sample.mixedDocument.channels s) ∧
    (w.RestoreRefuses Sample.refusesBad Sample.isBad ∧
      w.restoreLoop.FailsAlone
        (fun channels => w.restore { Sample.mixedDocument with channels := channels } false)
        Sample.isBad (fun _ _ => False) Sample.mixedDocument.channels s) ∧
    (Sample.lacksSeven s ∧ w.ModelsRefuse Sample.lacksSeven (·.channelId == 7) ∧
      w.modelLoop.FailsAlone w.applyModels (·.channelId == 7)
        (fun plan ending => plan.changed = false ∧ ending.isPassed) Sample.mixedModels s) ∧
    w.PruningRefuses Sample.lacksSeven (·.channelId == 7) ∧
      w.pruneLoop.FailsAlone w.applyPruning (·.channelId == 7) (fun _ _ => False)
        Sample.mixedPruning s := by
  intro w s
  have hbad : Sample.refusesBad s := ⟨List.mem_singleton_self _, rfl⟩
  have hseven : Sample.lacksSeven s := show (7 : Int) ∉ [5] by decide
  obtain ⟨himport, hrestore, -, hmodels, hpruning⟩ := items_fail_alone w s
  exact ⟨⟨hbad, Sample.importRefuses,
      himport _ _ Sample.mixedDocument true false hbad Sample.importRefuses⟩,
    ⟨Sample.restoreRefuses, hrestore _ _ Sample.mixedDocument hbad Sample.restoreRefuses⟩,
    ⟨hseven, Sample.modelsRefuse, hmodels _ _ _ hseven Sample.modelsRefuse⟩,
    Sample.pruningRefuses, hpruning _ _ _ hseven Sample.pruningRefuses⟩

/-- A dry run of a restore takes none of the channels, and counts none. -/
theorem restore_dryRun_counts_none :
    ∃ report s', (Sample.strictWorkspace.restore Sample.mixedDocument true).perform
        Sample.strictWorld = (.ok report, s') ∧
      report.total = 3 ∧ report.restored + report.failed ≠ report.total :=
  ⟨_, _, rfl, rfl, by decide⟩

end ChannelKeeper

import ChannelKeeper.Backup.Import
import ChannelKeeper.Backup.Restore
import ChannelKeeper.Key.Keeping
import ChannelKeeper.Model.Update
import ChannelKeeper.Proofs.Action
import ChannelKeeper.Table.Cleaning

/-!
# What operations leave alone

An operation leaves a view of the state alone if the calls do that it makes, and each
lemma names them: the plans and the dry runs only read, a snapshot writes a file besides,
and restoring a channel is one insertion. Nothing is said of other operations that change
rows.
-/

namespace ChannelKeeper

variable {σ γ ε : Type} {view : σ → γ}

/-- Looking at the clock leaves a view of the state alone. -/
def Clock.Keeps (clock : Clock σ) (view : σ → γ) : Prop :=
  ∀ s, view (Id.run (StateT.run clock.now s)).2 = view s

namespace Clock

theorem keeps_fixed (moment : Moment) (view : σ → γ) : (fixed moment).Keeps view := fun _ => rfl

variable {clock : Clock σ}

theorem Keeps.display (h : clock.Keeps view) : (clock.display : Action σ ε String).Keeps view := h

theorem Keeps.stamp (h : clock.Keeps view) : (clock.stamp : Action σ ε String).Keeps view := h

/-- The clock can show this text for the names of files. -/
def Shows (clock : Clock σ) (stamp : String) : Prop :=
  ∃ s, (Id.run (StateT.run clock.now s)).1.stamp = stamp

theorem shows_of_stamp {s s' : σ} {stamp : String}
    (h : (clock.stamp : Action σ ε String).perform s = (.ok stamp, s')) : clock.Shows stamp := by
  cases h
  exact ⟨s, rfl⟩

end Clock

namespace Workspace

/-- Reading leaves a view of the state alone. -/
structure ReadsKeep (w : Workspace σ) (view : σ → γ) : Prop where
  list (f : ChannelFilter) : (w.channels.list f).Keeps view
  count : w.channels.count.Keeps view
  findExisting (name : String) (id : Int) : (w.channels.findExisting name id).Keeps view
  listTables : w.tables.listTables.Keeps view
  countRows (name : String) : (w.tables.countRows name).Keeps view
  read (path : String) : (w.files.read path).Keeps view
  exists? (path : String) : (w.files.exists? path).Keeps view
  clock : w.clock.Keeps view

variable {w : Workspace σ}

-- ---------------------------------------------------------------------------
-- Files
-- ---------------------------------------------------------------------------

theorem writeFile_keeps {path content : String} (hwrite : (w.files.write path content).Keeps view) :
    (w.writeFile path content).Keeps view :=
  hwrite.mapError _

/-- The path of a backup that the clock may give. -/
def IsStampedPath (w : Workspace σ) (start path : String) : Prop :=
  ∃ stamp, w.clock.Shows stamp ∧
    path = Path.join w.backupDirectory (start ++ "_" ++ stamp ++ ".json")

theorem snapshot_keeps (hlist : (w.channels.list .everything).Keeps view)
    (hclock : w.clock.Keeps view) (start : String)
    (hwrite : ∀ path content, w.IsStampedPath start path → (w.files.write path content).Keeps view)
    (source : String) : (w.snapshot start source).Keeps view := by
  refine .bind_ok (.bind hclock.stamp fun _ => .pure _) fun path s s' hpath => ?_
  obtain ⟨stamp, s₁, hstamp, hjoined⟩ := Action.perform_bind_eq_ok.mp hpath
  cases hjoined
  refine .bind (hlist.mapError _) fun channels => ?_
  refine .bind hclock.display fun time => ?_
  exact .bind (writeFile_keeps (hwrite _ _ ⟨stamp, Clock.shows_of_stamp hstamp, rfl⟩)) fun _ =>
    .pure _

theorem readKeyFile_keeps (hread : ∀ path, (w.files.read path).Keeps view) (path : String) :
    (w.readKeyFile path).Keeps view :=
  .bind ((hread path).mapError _) fun _ => .pure _

theorem loadBackup_keeps (hexists : ∀ path, (w.files.exists? path).Keeps view)
    (hread : ∀ path, (w.files.read path).Keeps view) (path : String) :
    (w.loadBackup path).Keeps view := by
  refine .bind ((hexists path).mapError _) fun found => ?_
  cases found with
  | true =>
    refine .bind ((hread path).mapError _) fun content => ?_
    split
    · exact .pure _
    · exact .throw _
  | false => exact fun _ => rfl

-- ---------------------------------------------------------------------------
-- Plans and dry runs
-- ---------------------------------------------------------------------------

theorem planModels_keeps (hlist : ∀ f, (w.channels.list f).Keeps view) (types : List Int)
    (target : List String) : (w.planModels types target).Keeps view :=
  .bind ((hlist _).mapError _) fun _ => .pure _

theorem extractKeys_keeps (hlist : ∀ f, (w.channels.list f).Keeps view) (f : ChannelFilter) :
    (w.extractKeys f).Keeps view :=
  .bind ((hlist f).mapError _) fun _ => .pure _

theorem planPruning_keeps (hlist : (w.channels.list .everything).Keeps view)
    (results : List KeyTestResult) : (w.planPruning results).Keeps view := by
  rw [planPruning]
  split
  · exact .pure _
  · exact .bind (hlist.mapError _) fun _ => .pure _

theorem importBackup_dryRun_keeps
    (hfind : ∀ name id, (w.channels.findExisting name id).Keeps view) (document : Backup)
    (updateExisting : Bool) : (w.importBackup document updateExisting true).Keeps view := by
  refine .fold (fun r (c : Channel) => .bind (hfind c.name c.id).attempt fun found => ?_) _ _
  match found with
  | .error e => exact .pure _
  | .ok none => exact .pure _
  | .ok (some row) => cases updateExisting <;> exact .pure _

theorem restoreChannel_keeps (hinsert : ∀ c, (w.channels.insert c true).Keeps view)
    (r : RestoreReport) (c : Channel) : (w.restoreChannel r c).Keeps view := by
  refine .bind (hinsert c).attempt fun result => ?_
  cases result <;> exact .pure _

theorem restore_dryRun_keeps (w : Workspace σ) (document : Backup) (view : σ → γ) :
    (w.restore document true).Keeps view :=
  .pure _

theorem reset_dryRun_keeps (hcount : w.channels.count.Keeps view) (saves empties : Bool) :
    (w.reset saves empties true).Keeps view :=
  .bind (hcount.mapError _) fun _ => .pure _

theorem reset_keeps (hcount : w.channels.count.Keeps view)
    (hlist : (w.channels.list .everything).Keeps view) (hclock : w.clock.Keeps view)
    {saves : Bool} (dryRun : Bool) (hwrite : ∀ path content, dryRun = false → saves = true →
      w.IsStampedPath "reset_backup" path → (w.files.write path content).Keeps view) :
    (w.reset saves false dryRun).Keeps view := by
  cases dryRun with
  | true => exact reset_dryRun_keeps hcount saves false
  | false =>
    refine .bind (hcount.mapError _) fun before => ?_
    cases saves with
    | true =>
      have hsnapshot := snapshot_keeps hlist hclock "reset_backup"
        (fun path content => hwrite path content rfl rfl) Backup.sourceReset
      exact .bind (.map hsnapshot some) fun _ => .bind (.pure 0) fun _ => .pure _
    | false => exact .bind (.pure none) fun _ => .bind (.pure 0) fun _ => .pure _

-- ---------------------------------------------------------------------------
-- Overviews
-- ---------------------------------------------------------------------------

theorem tableStats_keeps (hlist : w.tables.listTables.Keeps view)
    (hcount : ∀ name, (w.tables.countRows name).Keeps view) : w.tableStats.Keeps view := by
  refine .bind (hlist.mapError _) fun names => .bind (.forEach (fun name => ?_) names) fun _ =>
    .pure _
  refine .bind (hcount name).attempt fun rows => ?_
  cases rows <;> exact .pure _

end Workspace

end ChannelKeeper

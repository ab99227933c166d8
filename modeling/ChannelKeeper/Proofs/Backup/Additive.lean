import ChannelKeeper.Proofs.Backup.Import
import ChannelKeeper.Proofs.Backup.ImportRun
import ChannelKeeper.Proofs.Store.RelationalRows

/-!
# Imports that keep the rows there are

Without updates an import only adds rows. A channel is added when no row has its
name or its positive id, those that were added before it included, and it then has
a row for good: the same document imported again adds nothing.
-/

namespace ChannelKeeper

open MemoryChannels (isMatch)

/-- The rows that an import adds. -/
def addedRows (shown : Channel → Channel) (rows : List Channel) (next : Int) :
    List Channel → List Channel
  | [] => []
  | c :: rest =>
    if isKnown rows c then addedRows shown rows next rest
    else
      let row := shown { c with id := next }
      row :: addedRows shown (rows ++ [row]) (next + 1) rest

section

variable {shown : Channel → Channel} {rows todo : List Channel} {next : Int}

theorem isKnown_append (rows more : List Channel) (c : Channel) :
    isKnown (rows ++ more) c = (isKnown rows c || isKnown more c) := List.any_append

theorem addedRows_of_known (h : isKnown rows c = true) :
    addedRows shown rows next (c :: rest) = addedRows shown rows next rest := by
  rw [addedRows, if_pos h]

theorem addedRows_of_new (h : isKnown rows c = false) :
    addedRows shown rows next (c :: rest) = shown { c with id := next } ::
      addedRows shown (rows ++ [shown { c with id := next }]) (next + 1) rest := by
  rw [addedRows, if_neg (by simp [h])]

/-- In the end every channel of the document has a row. -/
theorem isKnown_addedRows (hshown : KeepsNames shown) (hc : c ∈ todo) :
    isKnown (rows ++ addedRows shown rows next todo) c = true := by
  induction todo generalizing rows next with
  | nil => cases hc
  | cons d rest ih =>
    cases hd : isKnown rows d with
    | true =>
      rw [addedRows_of_known hd]
      rcases List.mem_cons.mp hc with rfl | hc
      · rw [isKnown_append, hd, Bool.true_or]
      · exact ih hc
    | false =>
      rw [addedRows_of_new hd, List.append_cons]
      rcases List.mem_cons.mp hc with rfl | hc
      · have hown : isKnown [shown { c with id := next }] c = true := by
          simp [isKnown, isMatch, hshown.name]
        rw [isKnown_append, isKnown_append, hown, Bool.or_true, Bool.true_or]
      · exact ih hc

end

/-- The look-up of a channel does not fail. -/
def LooksUp {σ : Type} (t : FallibleTable σ) (s : σ) (c : Channel) : Prop :=
  ∃ found, ((t.store.findExisting c.name c.id).perform s).1 = .ok found

section

variable {σ : Type} {t : FallibleTable σ} {w : Workspace σ} {s s' : σ} {dryRun : Bool}
  {r r' : ImportReport} {todo : List Channel}

/-- A run that keeps the rows adds those of the document that are not known. -/
theorem ImportRun.rows_eq (h : ImportRun t false false todo r s r' s') :
    t.rows s' = t.rows s ++ addedRows (t.shown s) (t.rows s) (t.next s) todo ∧
      r'.success = r.success + (addedRows (t.shown s) (t.rows s) (t.next s) todo).length := by
  induction h with
  | done => exact ⟨(List.append_nil _).symm, rfl⟩
  | more _ hstep _ ih =>
    obtain ⟨hrows, hsuccess⟩ := ih
    cases hstep with
    | kept hfor =>
      rw [FallibleTable.isSome_rowFor?] at hfor
      rw [addedRows_of_known hfor]
      exact ⟨hrows, hsuccess⟩
    | promised _ hd => cases hd
    | replaced _ _ _ hu => cases hu
    | added s₁ hfor _ hr hn hsame =>
      rw [hr, hn, hsame] at hrows hsuccess
      rw [addedRows_of_new (FallibleTable.rowFor?_eq_none_iff.mp hfor)]
      refine ⟨hrows.trans (List.append_cons ..).symm, ?_⟩
      exact hsuccess.trans (Nat.succ_add_eq_add_succ _ _)

theorem ImportRun.unchanged_of_known (h : ImportRun t false dryRun todo r s r' s')
    (hknown : ∀ c ∈ todo, isKnown (t.rows s) c = true) : s' = s ∧ r'.success = r.success := by
  induction h with
  | done => exact ⟨rfl, rfl⟩
  | more _ hstep _ ih =>
    obtain ⟨hc, hrest⟩ := List.forall_mem_cons.mp hknown
    cases hstep with
    | kept => exact ih hrest
    | promised hfor =>
      rcases hfor with hfor | hu
      · rw [FallibleTable.rowFor?_eq_none_iff, hc] at hfor
        cases hfor
      · cases hu
    | replaced _ _ _ hu => cases hu
    | added _ hfor =>
      rw [FallibleTable.rowFor?_eq_none_iff, hc] at hfor
      cases hfor

theorem importChannel_of_known (hw : w.channels = t.store) (hs : t.isSound s)
    (hknown : isKnown (t.rows s) c = true) (hlookup : LooksUp t s c) (r : ImportReport) :
    (w.importChannel false dryRun r c).perform s = (.ok r.recordSkip, s) := by
  obtain ⟨found, hfound⟩ := hlookup
  have hfind : (t.store.findExisting c.name c.id).perform s = (.ok found, _) := Prod.ext hfound rfl
  obtain ⟨hsame, hrow⟩ := t.findExisting_ok c.name c.id hs hfind
  rw [Workspace.importChannel, Action.perform_attempt_bind, hw, hfind, hsame]
  have hfor : (t.rowFor? s c).isSome = true := FallibleTable.isSome_rowFor?.trans hknown
  rw [FallibleTable.rowFor?, ← hrow] at hfor
  obtain ⟨row, rfl⟩ := Option.isSome_iff_exists.mp hfor
  rfl

/-- Where every channel has a row, only a look-up can fail. -/
theorem importChannels_of_known (hw : w.channels = t.store) (hs : t.isSound s)
    (hknown : ∀ c ∈ todo, isKnown (t.rows s) c = true) (hlookup : ∀ c ∈ todo, LooksUp t s c)
    (r : ImportReport) : ∃ r', r'.failed = r.failed ∧
      (Action.fold (w.importChannel false dryRun) r todo).perform s = (.ok r', s) := by
  induction todo generalizing r with
  | nil => exact ⟨r, rfl, rfl⟩
  | cons c rest ih =>
    obtain ⟨hc, hrest⟩ := List.forall_mem_cons.mp hknown
    obtain ⟨hlookup, hlookups⟩ := List.forall_mem_cons.mp hlookup
    obtain ⟨r', hfailed, hperform⟩ := ih hrest hlookups r.recordSkip
    exact ⟨r', hfailed,
      (Action.perform_fold_cons (importChannel_of_known hw hs hc hlookup r)).trans hperform⟩

/-- An import without updates leaves the rows as they were and adds as many as it
reports, each with an id of its own. The same import right after it does nothing, and
nothing but a look-up can fail in it.

In a sound table every row has a text for its name, so of rows whose name is null nothing is
said. Nor is it of an import that reports a failure. -/
theorem import_adds_once (hw : w.channels = t.store) (hs : t.isSound s) (document : Backup) :
    ∃ report s', (w.importBackup document false false).perform s = (.ok report, s') ∧
      (report.failed = 0 →
        (∃ added, t.rows s' = t.rows s ++ added ∧ added.length = report.success ∧
          DistinctIds (t.rows s') ∧ ∀ row ∈ added, ∀ old ∈ t.rows s, old.id ≠ row.id) ∧
        ∃ again s'', (w.importBackup document false false).perform s' = (.ok again, s'') ∧
          ((∀ c ∈ document.channels, LooksUp t s' c) → again.failed = 0) ∧
          (again.failed = 0 → again.success = 0 ∧ again.skipped = again.total ∧
            again.total = document.channels.length ∧ s'' = s')) := by
  obtain ⟨report, s', hperform, hrun⟩ := importBackup_run t hw hs document false false
  refine ⟨report, s', hperform, fun hf => ?_⟩
  obtain ⟨hs', hrun⟩ := hrun hf
  obtain ⟨hrows, hsuccess⟩ := hrun.rows_eq
  have hdistinct := (t.numbered hs').distinct
  constructor
  · refine ⟨_, hrows, by simpa using hsuccess.symm, hdistinct, fun row hrow old hold he => ?_⟩
    rw [hrows, DistinctIds, List.map_append, List.nodup_append] at hdistinct
    exact hdistinct.2.2 old.id (List.mem_map_of_mem hold) row.id (List.mem_map_of_mem hrow) he
  · obtain ⟨again, s'', hperform', hrun'⟩ := importBackup_run t hw hs' document false false
    have hknown : ∀ c ∈ document.channels, isKnown (t.rows s') c = true := fun c hc =>
      hrows ▸ isKnown_addedRows (t.keepsNames hs) hc
    refine ⟨again, s'', hperform', fun hlookup => ?_, fun hf' => ?_⟩
    · obtain ⟨r', hfailed, hskipped⟩ := importChannels_of_known hw hs' hknown hlookup
        { total := document.channels.length, dryRun := false }
      obtain rfl := Except.ok.inj (congrArg Prod.fst (hperform'.symm.trans hskipped))
      exact hfailed
    · obtain ⟨-, hrun'⟩ := hrun' hf'
      obtain ⟨hsame, hnone⟩ := hrun'.unchanged_of_known hknown
      obtain ⟨htotal, -, -, hcount⟩ := hrun'.tally
      refine ⟨hnone, ?_, htotal, hsame⟩
      rw [hnone] at hcount
      simpa [htotal] using hcount

end

namespace Sample

def fallibleTable : FallibleTable (World MemoryStore MemoryFiles) :=
  MemoryStore.fallibleTable.inWorld MemoryFiles

theorem isSound_importWorld : fallibleTable.isSound importWorld := isUp_importWorld.numbered

def importDatabase : World Relational.Database MemoryFiles :=
  let empty := Relational.Database.createCounted {} Relational.Database.channelTable "id"
    [⟨"id", "INTEGER"⟩, ⟨"name", "TEXT"⟩, ⟨"key", "TEXT"⟩]
  match empty.insertChannel oldChannel false with
  | .ok (_, db) => ⟨db, {}⟩
  | .error _ => ⟨{}, {}⟩

def databaseWorkspace : Workspace (World Relational.Database MemoryFiles) :=
  World.workspace Relational.Database.channelStore Relational.Database.tableStore MemoryFiles.store
    (.ofSeconds 0) "backups"

def databaseRows : FallibleTable (World Relational.Database MemoryFiles) :=
  Relational.Database.fallibleTable.inWorld MemoryFiles

theorem isSound_importDatabase : databaseRows.isSound importDatabase := by
  have h : ((importDatabase.data.find? Relational.Database.channelTable).any fun t =>
      decide t.TakesChannels) = true := by decide +kernel
  obtain ⟨t, ht, hc⟩ := (Option.any_eq_true _ _).mp h
  exact ⟨t, ht, of_decide_eq_true hc⟩

def repeatedDocument : Backup :=
  importDocument [{ id := 10, name := "a" }, { id := 5, name := "x" }]

end Sample

/-- A name that comes twice gets one row, and the name of the old row none. -/
theorem import_adds_once_sample : ∃ report again s',
    (Sample.databaseWorkspace.importBackup Sample.repeatedDocument false false).perform
      Sample.importDatabase = (.ok report, s') ∧
    (∃ row, Sample.databaseRows.rows s' = Sample.databaseRows.rows Sample.importDatabase ++ [row] ∧
      row.id ≠ 1) ∧
    (Sample.databaseWorkspace.importBackup Sample.repeatedDocument false false).perform s' =
      (.ok again, s') ∧
    report.success = 1 ∧ again.success = 0 ∧ again.skipped = 3 := by
  obtain ⟨report, s', hperform, h⟩ := import_adds_once (t := Sample.databaseRows)
    (w := Sample.databaseWorkspace) rfl Sample.isSound_importDatabase Sample.repeatedDocument
  have hreport : (((Sample.databaseWorkspace.importBackup Sample.repeatedDocument false
      false).perform Sample.importDatabase).1.toOption.map fun r => (r.failed, r.success)) =
        some (0, 1) := by decide +kernel
  rw [hperform] at hreport
  obtain ⟨hfailed, hsuccess⟩ := Prod.mk.inj (Option.some.inj hreport)
  obtain ⟨⟨added, hrows, hlength, -, hfresh⟩, again, s'', hagain, -, h'⟩ := h hfailed
  obtain ⟨row, rfl⟩ := List.length_eq_one_iff.mp (hlength.trans hsuccess)
  have hold : ∃ old ∈ Sample.databaseRows.rows Sample.importDatabase, old.id = 1 := by
    decide +kernel
  have hdone : ((Sample.databaseWorkspace.importBackup Sample.repeatedDocument false
      false).perform ((Sample.databaseWorkspace.importBackup Sample.repeatedDocument false
      false).perform Sample.importDatabase).2).1.toOption.map (·.failed) = some 0 := by
    decide +kernel
  rw [hperform, hagain] at hdone
  obtain ⟨hnone, hskipped, htotal, rfl⟩ := h' (Option.some.inj hdone)
  refine ⟨report, again, s'', hperform, ⟨row, hrows, fun hid => ?_⟩, hagain, hsuccess, hnone,
    hskipped.trans htotal⟩
  obtain ⟨old, hmem, hone⟩ := hold
  exact hfresh row List.mem_cons_self old hmem (hone.trans hid.symm)

end ChannelKeeper

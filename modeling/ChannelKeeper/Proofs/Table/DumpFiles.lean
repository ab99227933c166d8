import ChannelKeeper.Proofs.Files.Places
import ChannelKeeper.Proofs.Table.Cleaning

/-!
# Each dump has a file of its own

A run with backups names a file for each table after the table. On a disk these files
are different ones inside the run's directory, and at the end of the run each of them
holds the dump of its table, if what stands before a slash in a table's name is never
empty or made of dots. With other names a file can be outside the directory, and two
tables can have one file, of which the later dump is left.
-/

namespace ChannelKeeper

variable {σ φ τ : Type}

-- ---------------------------------------------------------------------------
-- Paths of a run
-- ---------------------------------------------------------------------------

namespace Moment

variable {moment : Moment} {run : Location} {table other : String}

/-- What is added to a table's name. -/
def dumpEnding (moment : Moment) : String := "_" ++ moment.stamp ++ ".sql"

def dumpPlace (moment : Moment) (run : Location) (table : String) : Location :=
  run ++ Text.splitOn '/' (table ++ moment.dumpEnding)

theorem dumpPath_eq (moment : Moment) (directory table : String) : moment.dumpPath directory table =
    Path.join (moment.runDirectory directory) (table ++ moment.dumpEnding) := by
  rw [dumpPath, dumpEnding]
  simp only [String.append_assoc]

theorem dumpPlace_inj (h : moment.dumpPlace run table = moment.dumpPlace run other) :
    table = other := by
  have htexts := Text.splitOn_inj (List.append_cancel_left h)
  rwa [String.append_left_inj] at htexts

theorem goesDown_dump (hstamp : '/' ∉ moment.stamp.toList) (h : Path.IsPlain table) :
    Path.GoesDown (table ++ moment.dumpEnding) := by
  refine h.goesDown ?_ ?_
  · simpa [dumpEnding] using hstamp
  · rw [dumpEnding, String.length_append, show ".sql".length = 4 from rfl]
    omega

theorem runDirectory_isDirectoryPath (hstamp : '/' ∉ moment.stamp.toList) (directory : String) :
    Path.IsDirectoryPath (moment.runDirectory directory) := by
  have hname : ∃ front, moment.runDirectory directory = front ++ ("clean_" ++ moment.stamp) := by
    rw [runDirectory, Path.join]
    split
    · exact ⟨"", by simp⟩
    · split
      · exact ⟨_, rfl⟩
      · exact ⟨_, rfl⟩
  obtain ⟨front, hname⟩ := hname
  rw [hname]
  constructor
  · simp
  · intro hlast
    rw [String.toList_append, List.getLast?_append_of_ne_nil _ (by simp)] at hlast
    have hmem := List.mem_of_getLast? hlast
    simp only [String.toList_append, List.mem_append] at hmem
    rcases hmem with hmem | hmem
    · revert hmem
      decide
    · exact hstamp hmem

end Moment

-- ---------------------------------------------------------------------------
-- One table
-- ---------------------------------------------------------------------------

/-- What an outcome says of a file is what was done to the files. -/
inductive SavedTo (b : DumpedTables σ τ) (files : FileStore φ) (moment : Moment)
    (path table : String) (s : World σ φ) (o : CleanOutcome) (s' : World σ φ) : Prop
  | unwritten (hfile : o.backupFile = none) (h : s'.files = s.files)
  | failed (hfile : o.backupFile = none)
      (h : (files.write path content).perform s.files = (.error e, s'.files))
  | written (hfile : o.backupFile = some path) (hsame : b.find? d = b.find? s.data)
      (hsaves : b.Saves files moment path table { s with data := d } dump s₁)
      (h : s'.files = s₁.files)

section

variable {b : DumpedTables σ τ} {channels : ChannelStore σ} {files : FileStore φ}
  {moment : Moment} {directory path table : String} {s s' : World σ φ}
  {w : Workspace (World σ φ)}

theorem emptyTable_reports (hw : w = World.workspace channels b.store files moment directory)
    {file : Option String} (h : (w.emptyTable table rows file).perform s = (.ok o, s')) :
    o.backupFile = file ∧ s'.files = s.files := by
  have hfiles := emptyTable_keeps_files hw table rows file s
  rw [h] at hfiles
  refine ⟨?_, hfiles⟩
  rw [Workspace.emptyTable, Action.perform_attempt_bind] at h
  split at h <;> cases h <;> rfl

theorem dumpToFile_eq_error (hw : w = World.workspace channels b.store files moment directory)
    (h : (w.dumpToFile table path).perform s = (.error e, s')) :
    s'.files = s.files ∨
      ∃ content e, (files.write path content).perform s.files = (.error e, s'.files) := by
  subst hw
  have hends : ((World.workspace channels b.store files moment directory).dumpToFile table
      path).Triple s (fun _ _ => True) fun _ s' => s'.files = s.files ∨
        ∃ content e, (files.write path content).perform s.files = (.error e, s'.files) := by
    have hdump : (Workspace.asked ((World.workspace channels b.store files moment
        directory).tables.dumpTable table)).Keeps World.files := .mapError (fun _ => rfl) _
    refine .bind ((hdump.triple s).mono (fun _ _ ht => ht.2) fun _ _ => .inl) fun dump t ht => ?_
    have htime : ((World.workspace channels b.store files moment directory).clock.display :
        Workspace.TableTask _ String).Keeps World.files := fun _ => rfl
    refine .bind ((htime.triple t).mono (fun _ _ h => h.2.trans ht) fun _ _ h => .inl (h.trans ht))
      fun time t ht => .mapError (Action.triple_iff.mpr ⟨fun _ _ _ => trivial, fun e t' hwrite => ?_⟩)
    have hfiles : (files.write path (Sql.renderDump dump b.store.identifierQuote time)).perform
        s.files = (.error e, t'.files) := by
      obtain ⟨hresult, rfl⟩ := Prod.mk.inj hwrite
      exact Prod.ext (ht ▸ hresult) (ht ▸ rfl)
    exact .inr ⟨_, _, hfiles⟩
  exact (Action.triple_iff.mp hends).2 e s' h

theorem saveAndEmpty_savedTo (hw : w = World.workspace channels b.store files moment directory)
    (h : (w.saveAndEmpty table path).perform s = (.ok o, s')) :
    SavedTo b files moment path table s o s' := by
  rw [Workspace.saveAndEmpty, Action.perform_attempt_bind, perform_countRows hw] at h
  cases hcounted : (b.store.countRows table).perform s.data with
  | mk result d =>
    have hsame : b.find? d = b.find? s.data := b.find?_of_count hcounted
    rw [hcounted] at h
    cases result with
    | error e =>
      cases h
      exact .unwritten rfl rfl
    | ok n =>
      dsimp only at h
      split at h
      · obtain ⟨hfile, hfiles⟩ := emptyTable_reports hw h
        exact .unwritten hfile hfiles
      · rw [Action.perform_attempt_bind] at h
        cases hdump : (w.dumpToFile table path).perform { s with data := d } with
        | mk result s₁ =>
          rw [hdump] at h
          cases result with
          | error e =>
            cases h
            rcases dumpToFile_eq_error hw hdump with hfiles | ⟨content, e', hwrite⟩
            · exact .unwritten rfl hfiles
            · exact .failed rfl hwrite
          | ok _ =>
            obtain ⟨dump, hsaves⟩ := (dumpToFile_eq_ok hw).mp hdump
            obtain ⟨hfile, hfiles⟩ := emptyTable_reports hw h
            exact .written hfile hsame hsaves hfiles

end

-- ---------------------------------------------------------------------------
-- Runs on a disk
-- ---------------------------------------------------------------------------

/-- A file with the dump of a table that was taken while the table was as it is here. -/
inductive DumpedTables.IsDump (b : DumpedTables σ τ) (moment : Moment) (table : String) (d₀ : σ) :
    DiskNode → Prop
  | file (dumping : (b.store.dumpTable table).perform d = (.ok dump, d'))
      (same : b.find? d table = b.find? d₀ table) (named : dump.table = table)
      (complete : ∀ t, b.find? d₀ table = some t → dump.rows = b.cells t) :
      IsDump b moment table d₀
        (.file (.text (Sql.renderDump dump b.store.identifierQuote moment.display)) time)

/-- The file that an outcome names has the dump of its table. -/
structure DumpKept (b : DumpedTables σ τ) (moment : Moment) (run : Location) (d₀ : σ)
    (disk : Disk) (o : CleanOutcome) : Prop where
  held (h : o.backupFile = some file) : ∃ node,
    disk.nodeAt file = .ok (moment.dumpPlace run o.table, node) ∧ b.IsDump moment o.table d₀ node
  /-- A table that was emptied without a file had no rows. -/
  rowless (h : o.error = none) (hfile : o.backupFile = none) :
    ∀ t, b.find? d₀ o.table = some t → b.cells t = []

section

variable {b : DumpedTables σ τ} {moment : Moment} {directory table : String}
  {tables : List String} {run : Location} {s s' : World σ Disk} {d₀ d₁ : σ} {disk disk' : Disk}
  {o : CleanOutcome} {outcomes : List CleanOutcome}

theorem DumpedTables.IsDump.of_same {node : DiskNode} (h : b.IsDump moment table d₁ node)
    (hsame : b.find? d₁ table = b.find? d₀ table) : b.IsDump moment table d₀ node := by
  cases h with
  | file dumping same named complete =>
    exact .file dumping (same.trans hsame) named (hsame ▸ complete)

theorem DumpKept.later (h : DumpKept b moment run d₁ disk o) {places : List Location}
    (hkeeps : disk.KeepsOutside places disk') (hplace : moment.dumpPlace run o.table ∉ places)
    (hsame : b.find? d₁ o.table = b.find? d₀ o.table) : DumpKept b moment run d₀ disk' o where
  held hfile := by
    obtain ⟨node, hnode, hdump⟩ := h.held hfile
    obtain ⟨hlocate, hfound⟩ := Disk.nodeAt_eq_ok.mp hnode
    exact ⟨node, Disk.nodeAt_eq_ok.mpr ⟨hkeeps.locate hlocate, hkeeps.others hplace hfound⟩,
      hdump.of_same hsame⟩
  rowless herror hfile := hsame ▸ h.rowless herror hfile

theorem SavedFirst.rowless {files : FileStore φ} {s s₁ : World σ φ}
    (h : SavedFirst b files moment directory table s n none s₁) :
    ∀ t, b.find? s.data table = some t → b.cells t = [] := by
  intro t hfind
  cases h with
  | empty hcount hn =>
    have hlength := hcount.exact_ t hfind
    exact List.length_eq_zero_iff.mp (by omega)

theorem SavedTo.keepsOutside (hstamp : '/' ∉ moment.stamp.toList) (hplain : Path.IsPlain table)
    (hrun : s.files.nodeAt (moment.runDirectory directory) = .ok (run, .directory))
    (h : SavedTo b Disk.store moment (moment.dumpPath directory table) table s o s') :
    s.files.KeepsOutside [moment.dumpPlace run table] s'.files ∧
      ∀ file, o.backupFile = some file → ∃ node,
        s'.files.nodeAt file = .ok (moment.dumpPlace run table, node) ∧
          b.IsDump moment table s.data node := by
  cases h with
  | unwritten hfile h =>
    rw [h]
    exact ⟨.refl _ _, fun file hsome => nomatch hfile.symm.trans hsome⟩
  | failed hfile h =>
    rw [Disk.perform_write] at h
    refine ⟨(Disk.write_eq_error h).mono (List.nil_subset _), ?_⟩
    exact fun file hsome => nomatch hfile.symm.trans hsome
  | @written d dump s₁ hfile hsame hsaves h =>
    have hwritten := hsaves.writing
    rw [Disk.perform_write] at hwritten
    obtain ⟨disk, hmade, hwrite⟩ := Disk.write_eq_ok hwritten
    obtain ⟨place, hlocate, hnode, hput⟩ := Disk.writeFile_eq_ok hwrite
    -- the directories that were made for the file do not change where the run's path leads
    obtain rfl : place = moment.dumpPlace run table := by
      have hbase := hmade.locate (Disk.nodeAt_eq_ok.mp hrun).1
      rw [moment.dumpPath_eq] at hlocate
      exact Disk.locate_join (moment.runDirectory_isDirectoryPath hstamp directory)
        (moment.goesDown_dump hstamp hplain) hbase hlocate
    have hkeeps : disk.KeepsOutside [moment.dumpPlace run table] s₁.files :=
      hput ▸ Disk.keepsOutside_put hnode
    rw [h]
    refine ⟨(hmade.mono (List.nil_subset _)).trans hkeeps, fun file hsome => ?_⟩
    cases hfile.symm.trans hsome
    refine ⟨_, Disk.nodeAt_eq_ok.mpr ⟨hkeeps.locate hlocate, hput ▸ Disk.node?_put_self hnode⟩, ?_⟩
    refine .file hsaves.dumping (congrFun hsame table) hsaves.named fun t hfind => ?_
    exact hsaves.complete t (hsame ▸ hfind)

/-- What becomes of a table and of the files. -/
def CleanedTo (b : DumpedTables σ τ) (moment : Moment) (directory table : String)
    (s : World σ Disk) (o : CleanOutcome) (s' : World σ Disk) : Prop :=
  TableCleaned b (SavedFirst b Disk.store moment directory) table s o s' ∧
    SavedTo b Disk.store moment (moment.dumpPath directory table) table s o s'

theorem CleanedTo.dumpKept (hstamp : '/' ∉ moment.stamp.toList) (hplain : Path.IsPlain table)
    (hrun : s.files.nodeAt (moment.runDirectory directory) = .ok (run, .directory))
    (h : CleanedTo b moment directory table s o s') :
    s.files.KeepsOutside [moment.dumpPlace run table] s'.files ∧
      DumpKept b moment run s.data s'.files o := by
  obtain ⟨hcleaned, hsaved⟩ := h
  obtain ⟨hkeeps, hheld⟩ := hsaved.keepsOutside hstamp hplain hrun
  refine ⟨hkeeps, fun {file} hfile => ?_, fun herror hfile => ?_⟩
  · rw [hcleaned.named]
    exact hheld file hfile
  · have hsuccess : o.success = true := by
      by_contra hnot
      obtain ⟨hsome, -⟩ := hcleaned.kept (Bool.eq_false_iff.mpr hnot)
      rw [herror] at hsome
      cases hsome
    obtain ⟨-, -, s₁, hmay, -⟩ := hcleaned.emptied hsuccess
    rw [hfile] at hmay
    rw [hcleaned.named]
    exact hmay.rowless

/-- A dump is kept while the tables after it are taken, whose files are elsewhere. -/
theorem dumps_kept (hstamp : '/' ∉ moment.stamp.toList)
    (h : Action.InTurn (CleanedTo b moment directory) tables s outcomes s')
    (hplain : ∀ table ∈ tables, Path.IsPlain table)
    (hdistinct : tables.Pairwise fun table other => b.isSame table other = false)
    (hrun : s.files.nodeAt (moment.runDirectory directory) = .ok (run, .directory)) :
    s.files.KeepsOutside (tables.map (moment.dumpPlace run)) s'.files ∧
      ∀ o ∈ outcomes, o.table ∈ tables ∧ DumpKept b moment run s.data s'.files o := by
  -- what carries the induction is that the run's directory stays where its path leads
  induction h with
  | done => exact ⟨.refl _ _, nofun⟩
  | @more table o s s₁ s' rest outcomes hstep _ ih =>
    obtain ⟨hfirst, hplain⟩ := List.forall_mem_cons.mp hplain
    obtain ⟨hother, hdistinct⟩ := List.pairwise_cons.mp hdistinct
    obtain ⟨hkeeps, hkept⟩ := hstep.dumpKept hstamp hfirst hrun
    obtain ⟨hlocate, hnode⟩ := Disk.nodeAt_eq_ok.mp hrun
    obtain ⟨hkeeps', hkept'⟩ := ih hplain hdistinct
      (Disk.nodeAt_eq_ok.mpr ⟨hkeeps.locate hlocate, hkeeps.directories hnode⟩)
    have hnamed : o.table = table := hstep.1.named
    have helsewhere : moment.dumpPlace run o.table ∉ rest.map (moment.dumpPlace run) := by
      intro hmem
      obtain ⟨other, hmem, hplace⟩ := List.mem_map.mp hmem
      have hsame := hother other hmem
      rw [moment.dumpPlace_inj hplace, hnamed, b.isSame_self] at hsame
      cases hsame
    constructor
    · refine (hkeeps.mono ?_).trans (hkeeps'.mono (List.subset_cons_self _ _))
      exact List.cons_subset.mpr ⟨List.mem_cons_self, List.nil_subset _⟩
    · intro o' ho'
      rcases List.mem_cons.mp ho' with rfl | ho'
      · exact ⟨hnamed ▸ List.mem_cons_self, hkept.later hkeeps' helsewhere rfl⟩
      · obtain ⟨hmem, hkept⟩ := hkept' o' ho'
        have hsame := hstep.1.untouched (hother o'.table hmem)
        exact ⟨List.mem_cons_of_mem _ hmem,
          hkept.later (.refl [] _) List.not_mem_nil hsame⟩

end

/-- Tables of distinct names whose parts before a slash are neither empty nor made of dots,
and a run with backups whose directory can be made, at a time whose text has no slash.

Every outcome that names a file names one inside the run's directory, and at the end of
the run there is the dump of the outcome's table there, as the table was before. The files
of two outcomes are different ones. An outcome without an error that names no file is that
of a table without rows. -/
theorem dumps_kept_apart (b : DumpedTables σ τ) (channels : ChannelStore σ) {moment : Moment}
    (hstamp : '/' ∉ moment.stamp.toList) {directory : String} {tables : List String}
    (hplain : ∀ table ∈ tables, Path.IsPlain table)
    (hdistinct : tables.Pairwise fun table other => b.isSame table other = false)
    {s : World σ Disk} {made : Disk}
    (hmade : s.files.createDirectory (moment.runDirectory directory) = (.ok (), made)) :
    ∃ outcomes s' run, ((World.workspace channels b.store Disk.store moment directory).clean tables
        true).perform s = (.ok ⟨some (moment.runDirectory directory), outcomes⟩, s') ∧
      outcomes.map (·.table) = tables ∧
      s'.files.nodeAt (moment.runDirectory directory) = .ok (run, .directory) ∧
      (∀ o ∈ outcomes,
        (∀ file, o.backupFile = some file → ∃ below node, below ≠ [] ∧
          s'.files.nodeAt file = .ok (run ++ below, node) ∧ b.IsDump moment o.table s.data node) ∧
        (o.error = none → o.backupFile = none →
          ∀ t, b.find? s.data o.table = some t → b.cells t = [])) ∧
      outcomes.Pairwise fun o o' => ∀ file file', o.backupFile = some file →
        o'.backupFile = some file' → s'.files.locate file ≠ s'.files.locate file' := by
  have hbase := moment.runDirectory_isDirectoryPath hstamp directory
  obtain ⟨run, hrun⟩ := Disk.nodeAt_createDirectory hbase.2 hbase.1 hmade
  have hstep : ∀ table s, ∃ o s', ((World.workspace channels b.store Disk.store moment
      directory).saveAndEmpty table (moment.dumpPath directory table)).perform s = (.ok o, s') ∧
        CleanedTo b moment directory table s o s' := by
    intro table s
    obtain ⟨o, s', hperform, hcleaned⟩ := saveAndEmpty_cleaned rfl table s
    exact ⟨o, s', hperform, hcleaned, saveAndEmpty_savedTo rfl hperform⟩
  obtain ⟨outcomes, s', heach, hsteps⟩ :=
    Action.perform_forEach hstep tables { s with files := made }
  have hclean := perform_clean_saving rfl ((Disk.perform_createDirectory _ _).trans hmade) heach
  have hnamed := (TablesCleaned.of_steps (hsteps.imp fun _ _ _ _ h => h.1)).named
  obtain ⟨hkeeps, hkept⟩ := dumps_kept hstamp hsteps hplain hdistinct hrun
  obtain ⟨hlocate, hnode⟩ := Disk.nodeAt_eq_ok.mp hrun
  refine ⟨outcomes, s', run, hclean, hnamed,
    Disk.nodeAt_eq_ok.mpr ⟨hkeeps.locate hlocate, hkeeps.directories hnode⟩, ?_, ?_⟩
  · intro o ho
    obtain ⟨-, hkept⟩ := hkept o ho
    refine ⟨fun file hfile => ?_, hkept.rowless⟩
    obtain ⟨node, hnode, hdump⟩ := hkept.held hfile
    exact ⟨_, node, Text.splitOn_ne_nil _ _, hnode, hdump⟩
  · have hnodup : (outcomes.map (·.table)).Pairwise (· ≠ ·) := by
      rw [hnamed]
      refine hdistinct.imp fun {table other} hsame => ?_
      rintro rfl
      rw [b.isSame_self] at hsame
      cases hsame
    refine (List.pairwise_map.mp hnodup).imp_of_mem fun {o o'} ho ho' hne => ?_
    intro file file' hfile hfile' hsame
    obtain ⟨node, hheld, -⟩ := (hkept o ho).2.held hfile
    obtain ⟨node', hheld', -⟩ := (hkept o' ho').2.held hfile'
    rw [(Disk.nodeAt_eq_ok.mp hheld).1, (Disk.nodeAt_eq_ok.mp hheld').1] at hsame
    exact hne (moment.dumpPlace_inj (Except.ok.inj hsame))

namespace Sample

def noon : Moment := ⟨"12:00", "12"⟩

def slashWorld (tables : List String) : World Relational.Database Disk where
  data := {
    tables := tables.map fun name =>
      { name := name, columns := [⟨"id", "INTEGER"⟩], rows := [⟨1, [("id", .integer 7)]⟩] } }
  files := {}

def slashRun (tables : List String) : Except CleanError CleanReport × World Relational.Database Disk :=
  ((World.workspace Relational.Database.channelStore Relational.Database.dumpedTables.store
    Disk.store noon "old").clean tables true).perform (slashWorld tables)

/-- Which tables a run emptied, and where the files are that it named for them. -/
def slashPlaces (tables : List String) : List (Bool × Option Location) :=
  match slashRun tables with
  | (.ok report, s) =>
    report.outcomes.map fun o =>
      (o.success, o.backupFile.bind fun file => (s.files.locate file).toOption)
  | (.error _, _) => []

end Sample

/-- A name with a slash has its file in a directory of its own. -/
theorem dumps_kept_apart_sample :
    Sample.slashPlaces ["logs", "a/b"] =
      [(true, some ["old", "clean_12", "logs_12.sql"]),
        (true, some ["old", "clean_12", "a", "b_12.sql"])] ∧
    ∃ outcomes s' run, Sample.slashRun ["logs", "a/b"] =
        (.ok ⟨some (Sample.noon.runDirectory "old"), outcomes⟩, s') ∧
      ∀ o ∈ outcomes, ∀ file, o.backupFile = some file → ∃ below node, below ≠ [] ∧
        s'.files.nodeAt file = .ok (run ++ below, node) ∧
        Relational.Database.dumpedTables.IsDump Sample.noon o.table
          (Sample.slashWorld ["logs", "a/b"]).data node := by
  refine ⟨by decide +kernel, ?_⟩
  have hmade : ({} : Disk).createDirectory (Sample.noon.runDirectory "old") =
      (.ok (), (({} : Disk).createDirectory (Sample.noon.runDirectory "old")).2) :=
    Prod.ext (by decide +kernel) rfl
  obtain ⟨outcomes, s', run, hclean, -, -, hkept, -⟩ := dumps_kept_apart
    Relational.Database.dumpedTables Relational.Database.channelStore
    (show '/' ∉ Sample.noon.stamp.toList by decide +kernel)
    (show ∀ table ∈ ["logs", "a/b"], Path.IsPlain table by decide +kernel) (by decide +kernel)
    (s := Sample.slashWorld ["logs", "a/b"]) hmade
  exact ⟨outcomes, s', run, hclean, fun o ho => (hkept o ho).1⟩

/-- Two tables whose names lead to one file, in which the later dump is left, and a table
whose file is outside the run's directory. All three are emptied. -/
theorem dumps_share_and_escape : Sample.slashPlaces ["b", "./b", "../x"] =
    [(true, some ["old", "clean_12", "b_12.sql"]),
      (true, some ["old", "clean_12", "b_12.sql"]),
      (true, some ["old", "x_12.sql"])] := by
  decide +kernel

end ChannelKeeper

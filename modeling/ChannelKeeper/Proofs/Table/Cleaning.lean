import ChannelKeeper.Files.Memory
import ChannelKeeper.Proofs.Store.DumpedTables
import ChannelKeeper.Table.Cleaning

/-!
# Tables are emptied only when nothing is lost

A run with backups empties a table only if it was counted as empty or its rows have
just been written to its file; if a call fails before that, every table stays as it
is. Without backups every listed table is emptied if its truncation succeeds. Each
listed table has one outcome, in order. This holds whatever calls fail, as long as a
call that fails changes no table. Nothing is said of a written file after the step
that wrote it.
-/

namespace ChannelKeeper

variable {σ φ τ : Type}

def Moment.runDirectory (moment : Moment) (directory : String) : String :=
  Path.join directory ("clean_" ++ moment.stamp)

def Moment.dumpPath (moment : Moment) (directory table : String) : String :=
  Path.join (moment.runDirectory directory) (table ++ "_" ++ moment.stamp ++ ".sql")

/-- The table was counted, and this is how many rows it has. -/
structure DumpedTables.Counts (b : DumpedTables σ τ) (table : String) (d : σ) (n : Int) (d' : σ) :
    Prop where
  counting : (b.store.countRows table).perform d = (.ok n, d')
  exact_ : ∀ t, b.find? d table = some t → n = (b.cells t).length

/-- The rows that the table has were read and written to a file. -/
structure DumpedTables.Saves (b : DumpedTables σ τ) (files : FileStore φ) (moment : Moment)
    (path table : String) (s : World σ φ) (dump : TableDump) (s' : World σ φ) : Prop where
  dumping : (b.store.dumpTable table).perform s.data = (.ok dump, s'.data)
  named : dump.table = table
  complete : ∀ t, b.find? s.data table = some t → dump.rows = b.cells t
  writing : (files.write path (Sql.renderDump dump b.store.identifierQuote moment.display)).perform
    s.files = (.ok (), s'.files)

/-- This table has no rows any more, and every other table is as it was. -/
structure DumpedTables.EmptiesOnly (b : DumpedTables σ τ) (table : String) (d d' : σ) : Prop where
  rowless : ∀ t, b.find? d' table = some t → b.cells t = []
  tables : b.find? d' = fun other =>
    if b.isSame table other then (b.find? d other).map b.emptied else b.find? d other

/-- With backups, a table may be emptied in the last of these states: it was counted
as empty, or what it holds was saved. -/
inductive SavedFirst (b : DumpedTables σ τ) (files : FileStore φ) (moment : Moment)
    (directory table : String) (s : World σ φ) : Int → Option String → World σ φ → Prop
  | empty (hcount : b.Counts table s.data n d) (hn : n ≤ 0) :
      SavedFirst b files moment directory table s n none { s with data := d }
  | saved (hcount : b.Counts table s.data n d) (hn : 0 < n)
      (hsaves : b.Saves files moment (moment.dumpPath directory table) table { s with data := d }
        dump s') :
      SavedFirst b files moment directory table s n (some (moment.dumpPath directory table)) s'

/-- Without backups it may always be emptied. A table that cannot be counted is
reported without rows. -/
inductive Unsaved (b : DumpedTables σ τ) (table : String) (s : World σ φ) :
    Int → Option String → World σ φ → Prop
  | counted (hcount : b.Counts table s.data n d) : Unsaved b table s n none { s with data := d }
  | uncounted (hcount : (b.store.countRows table).perform s.data = (.error e, d)) :
      Unsaved b table s 0 none { s with data := d }

/-- What becomes of a table that may be emptied in certain states. -/
structure TableCleaned (b : DumpedTables σ τ)
    (MayEmpty : String → World σ φ → Int → Option String → World σ φ → Prop) (table : String)
    (s : World σ φ) (o : CleanOutcome) (s' : World σ φ) : Prop where
  named : o.table = table
  /-- A successful outcome is that of a table that was emptied. -/
  emptied : o.success = true → o.error = none ∧ b.EmptiesOnly table s.data s'.data ∧
    ∃ s₁, MayEmpty table s o.rowsRemoved o.backupFile s₁ ∧ s'.files = s₁.files ∧
      (b.store.truncate table).perform s₁.data = (.ok (), s'.data)
  /-- Any other outcome is that of a table that was not to be emptied or could not be. -/
  kept : o.success = false → o.error.isSome ∧ o.rowsRemoved = 0 ∧
    b.find? s'.data = b.find? s.data ∧ ∀ n file s₁, MayEmpty table s n file s₁ →
      ∃ e d, (b.store.truncate table).perform s₁.data = (.error e, d)

section

variable {b : DumpedTables σ τ} {channels : ChannelStore σ} {files : FileStore φ}
  {moment : Moment} {directory path table : String} {s s₁ s₂ s' : World σ φ}

-- ---------------------------------------------------------------------------
-- Single calls
-- ---------------------------------------------------------------------------

theorem DumpedTables.counts_of_perform {d d' : σ}
    (h : (b.store.countRows table).perform d = (.ok n, d')) : b.Counts table d n d' :=
  ⟨h, fun _ hfind => b.count_ok h hfind⟩

theorem DumpedTables.find?_of_count {d d' : σ} {result : Except StoreError Int}
    (h : (b.store.countRows table).perform d = (result, d')) : b.find? d' = b.find? d := by
  have hkeeps := b.count_keeps table d
  rwa [h] at hkeeps

theorem DumpedTables.emptiesOnly_of_truncate {d d' : σ}
    (h : (b.store.truncate table).perform d = (.ok (), d')) : b.EmptiesOnly table d d' := by
  have htables := b.truncate_ok h
  refine ⟨fun t hfind => ?_, htables⟩
  simp only [htables, b.isSame_self, ↓reduceIte] at hfind
  obtain ⟨old, -, rfl⟩ := Option.map_eq_some_iff.mp hfind
  exact b.cells_emptied old

theorem DumpedTables.EmptiesOnly.of_same {d d₁ d' : σ} (h : b.EmptiesOnly table d₁ d')
    (hsame : b.find? d₁ = b.find? d) : b.EmptiesOnly table d d' :=
  ⟨h.rowless, hsame ▸ h.tables⟩

theorem DumpedTables.Saves.eq (h : b.Saves files moment path table s dump s₁)
    (h' : b.Saves files moment path table s dump' s₂) : s₁ = s₂ := by
  obtain ⟨d₁, f₁⟩ := s₁
  obtain ⟨d₂, f₂⟩ := s₂
  obtain ⟨hdump, hdata⟩ := Prod.mk.inj (h.dumping.symm.trans h'.dumping)
  cases hdump
  have hfiles := (Prod.mk.inj (h.writing.symm.trans h'.writing)).2
  cases hdata
  cases hfiles
  rfl

theorem SavedFirst.eq (h : SavedFirst b files moment directory table s n file s₁)
    (h' : SavedFirst b files moment directory table s n' file' s₂) : s₁ = s₂ := by
  cases h with
  | empty hcount hn =>
    cases h' with
    | empty hcount' =>
      cases hcount.counting.symm.trans hcount'.counting
      rfl
    | saved hcount' hn' =>
      cases hcount.counting.symm.trans hcount'.counting
      omega
  | saved hcount hn hsaves =>
    cases h' with
    | empty hcount' hn' =>
      cases hcount.counting.symm.trans hcount'.counting
      omega
    | saved hcount' hn' hsaves' =>
      cases hcount.counting.symm.trans hcount'.counting
      exact hsaves.eq hsaves'

theorem Unsaved.eq (h : Unsaved b table s n file s₁) (h' : Unsaved b table s n' file' s₂) :
    s₁ = s₂ := by
  cases h with
  | counted hcount =>
    cases h' with
    | counted hcount' =>
      cases hcount.counting.symm.trans hcount'.counting
      rfl
    | uncounted hcount' => cases hcount.counting.symm.trans hcount'
  | uncounted hcount =>
    cases h' with
    | counted hcount' => cases hcount.symm.trans hcount'.counting
    | uncounted hcount' =>
      cases hcount.symm.trans hcount'
      rfl

-- ---------------------------------------------------------------------------
-- One table
-- ---------------------------------------------------------------------------

variable {MayEmpty : String → World σ φ → Int → Option String → World σ φ → Prop}
  {w : Workspace (World σ φ)}

theorem perform_countRows (hw : w = World.workspace channels b.store files moment directory)
    (table : String) (s : World σ φ) : (w.tables.countRows table).perform s =
      (((b.store.countRows table).perform s.data).1,
        { s with data := ((b.store.countRows table).perform s.data).2 }) := by
  rw [hw]
  rfl

theorem perform_truncate (hw : w = World.workspace channels b.store files moment directory)
    (table : String) (s : World σ φ) : (w.tables.truncate table).perform s =
      (((b.store.truncate table).perform s.data).1,
        { s with data := ((b.store.truncate table).perform s.data).2 }) := by
  rw [hw]
  rfl

/-- The truncation decides what becomes of a table that may be emptied now. -/
theorem emptyTable_cleaned (hw : w = World.workspace channels b.store files moment directory)
    (hmay : MayEmpty table s n file s₁)
    (honly : ∀ n' file' t, MayEmpty table s n' file' t → t = s₁)
    (hsame : b.find? s₁.data = b.find? s.data) :
    ∃ o s', (w.emptyTable table n file).perform s₁ = (.ok o, s') ∧
      TableCleaned b MayEmpty table s o s' := by
  rw [Workspace.emptyTable, Action.perform_attempt_bind, perform_truncate hw]
  cases hperform : (b.store.truncate table).perform s₁.data with
  | mk result d =>
    cases result with
    | ok _ =>
      refine ⟨_, _, rfl, rfl, fun _ => ⟨rfl, ?_, s₁, hmay, rfl, hperform⟩, nofun⟩
      exact (b.emptiesOnly_of_truncate hperform).of_same hsame
    | error e =>
      refine ⟨_, _, rfl, rfl, nofun, fun _ => ⟨rfl, rfl, ?_, ?_⟩⟩
      · exact (b.truncate_error hperform).trans hsame
      · intro n' file' t hmay'
        rw [honly n' file' t hmay']
        exact ⟨e, d, hperform⟩

theorem TableCleaned.of_failure (hnot : ∀ n file t, ¬ MayEmpty table s n file t)
    (hsame : b.find? s'.data = b.find? s.data) (message : String) :
    TableCleaned b MayEmpty table s { table := table, error := some message } s' where
  named := rfl
  emptied := nofun
  kept _ := ⟨rfl, rfl, hsame, fun n file t hmay => absurd hmay (hnot n file t)⟩

theorem dumpToFile_eq_ok
    (hw : w = World.workspace channels b.store files moment directory) :
    (w.dumpToFile table path).perform s = (.ok (), s') ↔
      ∃ dump, b.Saves files moment path table s dump s' := by
  subst hw
  constructor
  · intro h
    obtain ⟨dump, s₁, hdump, h⟩ := Action.perform_bind_eq_ok.mp h
    obtain ⟨hdump, hfiles⟩ := World.onData_eq_ok.mp (Action.perform_mapError_eq_ok.mp hdump)
    obtain ⟨time, s₂, htime, h⟩ := Action.perform_bind_eq_ok.mp h
    cases htime
    obtain ⟨hwrite, hdata⟩ := World.onFiles_eq_ok.mp (Action.perform_mapError_eq_ok.mp h)
    obtain ⟨hnamed, hcomplete⟩ := b.dump_ok hdump
    exact ⟨dump, hdata ▸ hdump, hnamed, hcomplete, hfiles ▸ hwrite⟩
  · rintro ⟨dump, hsaves⟩
    have hdump : (Workspace.asked ((World.workspace channels b.store files moment
        directory).tables.dumpTable table)).perform s = (.ok dump, { s with data := s'.data }) :=
      Action.perform_mapError_ok _ (World.onData_eq_ok.mpr ⟨hsaves.dumping, rfl⟩)
    rw [Workspace.dumpToFile, Action.perform_bind_ok hdump]
    exact Action.perform_mapError_ok _ (World.onFiles_eq_ok.mpr ⟨hsaves.writing, rfl⟩)

theorem dumpToFile_keeps (hw : w = World.workspace channels b.store files moment directory)
    (table path : String) : (w.dumpToFile table path).Keeps fun s => b.find? s.data := by
  subst hw
  refine .bind (.mapError ((b.dump_keeps table).onPart World.data_set) _) fun dump => ?_
  exact .bind (fun _ => rfl) fun time => .mapError (fun _ => rfl) _

theorem SavedFirst.counts (h : SavedFirst b files moment directory table s n file s₁) :
    ∃ m d, b.Counts table s.data m d ∧ (m ≤ 0 ∨ ∃ dump, b.Saves files moment
      (moment.dumpPath directory table) table { s with data := d } dump s₁) := by
  cases h with
  | empty hcount hn => exact ⟨_, _, hcount, .inl hn⟩
  | saved hcount _ hsaves => exact ⟨_, _, hcount, .inr ⟨_, hsaves⟩⟩

theorem saveAndEmpty_cleaned (hw : w = World.workspace channels b.store files moment directory)
    (table : String) (s : World σ φ) :
    ∃ o s', (w.saveAndEmpty table (moment.dumpPath directory table)).perform s = (.ok o, s') ∧
      TableCleaned b (SavedFirst b files moment directory) table s o s' := by
  rw [Workspace.saveAndEmpty, Action.perform_attempt_bind, perform_countRows hw]
  cases hcounted : (b.store.countRows table).perform s.data with
  | mk result d =>
    have hsame : b.find? d = b.find? s.data := b.find?_of_count hcounted
    cases result with
    | error e =>
      refine ⟨_, _, rfl, .of_failure (fun n file t hmay => ?_) hsame _⟩
      obtain ⟨m, d', hcount, -⟩ := hmay.counts
      cases hcounted.symm.trans hcount.counting
    | ok n =>
      have hcounts := b.counts_of_perform hcounted
      dsimp only
      split
      · rename_i hn
        have hmay : SavedFirst b files moment directory table s n none { s with data := d } :=
          .empty hcounts hn
        exact emptyTable_cleaned hw hmay (fun _ _ _ h => (hmay.eq h).symm) hsame
      · rename_i hn
        rw [Action.perform_attempt_bind]
        have hkeeps := dumpToFile_keeps hw table (moment.dumpPath directory table)
          { s with data := d }
        cases hdump : (w.dumpToFile table (moment.dumpPath directory table)).perform
            { s with data := d } with
        | mk result s₁ =>
          rw [hdump] at hkeeps
          have hsame₁ : b.find? s₁.data = b.find? s.data := hkeeps.trans hsame
          cases result with
          | error e =>
            -- the same count and the same dump cannot have gone well either
            refine ⟨_, _, rfl, .of_failure (fun n' file t hmay => ?_) hsame₁ _⟩
            obtain ⟨m, d', hcount, hempty | ⟨dump, hsaves⟩⟩ := hmay.counts
            · cases hcounted.symm.trans hcount.counting
              exact hn hempty
            · cases hcounted.symm.trans hcount.counting
              cases hdump.symm.trans ((dumpToFile_eq_ok hw).mpr ⟨_, hsaves⟩)
          | ok _ =>
            obtain ⟨dump, hsaves⟩ := (dumpToFile_eq_ok hw).mp hdump
            have hmay := SavedFirst.saved hcounts (Int.not_le.mp hn) hsaves
            exact emptyTable_cleaned hw hmay (fun _ _ _ h => (hmay.eq h).symm) hsame₁

theorem emptyUnsaved_cleaned (hw : w = World.workspace channels b.store files moment directory)
    (table : String) (s : World σ φ) :
    ∃ o s', (w.emptyUnsaved table).perform s = (.ok o, s') ∧
      TableCleaned b (Unsaved b) table s o s' := by
  rw [Workspace.emptyUnsaved, Action.perform_attempt_bind, perform_countRows hw]
  cases hcounted : (b.store.countRows table).perform s.data with
  | mk result d =>
    have hsame : b.find? d = b.find? s.data := b.find?_of_count hcounted
    cases result with
    | error e =>
      have hmay : Unsaved b table s 0 none { s with data := d } := .uncounted hcounted
      exact emptyTable_cleaned hw hmay (fun _ _ _ h => (hmay.eq h).symm) hsame
    | ok n =>
      have hmay : Unsaved b table s n none { s with data := d } :=
        .counted (b.counts_of_perform hcounted)
      exact emptyTable_cleaned hw hmay (fun _ _ _ h => (hmay.eq h).symm) hsame

theorem emptyTable_keeps_files (hw : w = World.workspace channels b.store files moment directory)
    (table : String) (rows : Int) (file : Option String) :
    (w.emptyTable table rows file).Keeps World.files := by
  subst hw
  refine .bind (.attempt fun _ => rfl) fun result => ?_
  cases result <;> exact .pure _

theorem emptyUnsaved_keeps_files (hw : w = World.workspace channels b.store files moment directory)
    (table : String) : (w.emptyUnsaved table).Keeps World.files := by
  refine .bind (.attempt ?_) fun result => ?_
  · rw [hw]
    exact fun _ => rfl
  · cases result <;> exact emptyTable_keeps_files hw _ _ _

-- ---------------------------------------------------------------------------
-- Runs
-- ---------------------------------------------------------------------------

theorem TableCleaned.untouched (h : TableCleaned b MayEmpty table s o s')
    (hother : b.isSame table other = false) : b.find? s'.data other = b.find? s.data other := by
  cases hsuccess : o.success with
  | true =>
    obtain ⟨-, honly, -⟩ := h.emptied hsuccess
    rw [honly.tables]
    simp [hother]
  | false =>
    obtain ⟨-, -, hsame, -⟩ := h.kept hsuccess
    rw [hsame]

/-- One table after the other, each with its outcome. -/
structure TablesCleaned (b : DumpedTables σ τ)
    (MayEmpty : String → World σ φ → Int → Option String → World σ φ → Prop)
    (tables : List String) (s : World σ φ) (outcomes : List CleanOutcome) (s' : World σ φ) :
    Prop where
  steps : Action.InTurn (TableCleaned b MayEmpty) tables s outcomes s'
  named : outcomes.map (·.table) = tables
  untouched : ∀ other, (∀ table ∈ tables, b.isSame table other = false) →
    b.find? s'.data other = b.find? s.data other

theorem TablesCleaned.of_steps
    (h : Action.InTurn (TableCleaned b MayEmpty) tables s outcomes s') :
    TablesCleaned b MayEmpty tables s outcomes s' := by
  refine ⟨h, ?_, fun other hother => ?_⟩
  · induction h with
    | done => rfl
    | more hstep _ ih => rw [List.map_cons, hstep.named, ih]
  · induction h with
    | done => rfl
    | more hstep _ ih =>
      obtain ⟨hfirst, hrest⟩ := List.forall_mem_cons.mp hother
      rw [ih hrest, hstep.untouched hfirst]

theorem perform_clean_error (hw : w = World.workspace channels b.store files moment directory)
    {made : φ} (tables : List String)
    (h : (files.createDirectory (moment.runDirectory directory)).perform s.files =
      (.error e, made)) :
    (w.clean tables true).perform s =
      (.error (.io (moment.runDirectory directory ++ ": " ++ e.detail)), { s with files := made }) := by
  subst hw
  have hcreate : (Workspace.onTableFile (moment.runDirectory directory)
      ((World.workspace channels b.store files moment directory).files.createDirectory
        (moment.runDirectory directory))).perform s =
      (.error (.io (moment.runDirectory directory ++ ": " ++ e.detail)),
        { s with files := made }) := by
    simp only [Workspace.onTableFile, World.workspace, FileStore.onPart, Action.mapError,
      Action.perform_ofFunction, Action.perform_onPart, h]
  have hstamp : ((World.workspace channels b.store files moment directory).clock.stamp :
      Workspace.TableTask _ String).perform s = (.ok moment.stamp, s) := rfl
  exact (Action.perform_bind_ok hstamp).trans (Action.perform_bind_error hcreate)

theorem perform_clean_saving (hw : w = World.workspace channels b.store files moment directory)
    {made : φ} {outcomes : List CleanOutcome}
    (h : (files.createDirectory (moment.runDirectory directory)).perform s.files = (.ok (), made))
    (heach : (Action.forEach (fun table => w.saveAndEmpty table (moment.dumpPath directory table))
      tables).perform { s with files := made } = (.ok outcomes, s')) :
    (w.clean tables true).perform s =
      (.ok ⟨some (moment.runDirectory directory), outcomes⟩, s') := by
  have hcreate : (Workspace.onTableFile (moment.runDirectory directory)
      (w.files.createDirectory (moment.runDirectory directory))).perform s =
        (.ok (), { s with files := made }) := by
    rw [hw]
    exact Action.perform_mapError_ok _ (World.onFiles_eq_ok.mpr ⟨h, rfl⟩)
  subst hw
  refine (Action.perform_bind_ok hcreate).trans ?_
  exact (Action.perform_bind_ok heach).trans rfl

theorem clean_saving (hw : w = World.workspace channels b.store files moment directory) {made : φ}
    (tables : List String)
    (h : (files.createDirectory (moment.runDirectory directory)).perform s.files = (.ok (), made)) :
    ∃ outcomes s', (w.clean tables true).perform s =
        (.ok ⟨some (moment.runDirectory directory), outcomes⟩, s') ∧
      TablesCleaned b (SavedFirst b files moment directory) tables { s with files := made }
        outcomes s' := by
  obtain ⟨outcomes, s', heach, hsteps⟩ :=
    Action.perform_forEach (saveAndEmpty_cleaned hw) tables { s with files := made }
  exact ⟨outcomes, s', perform_clean_saving hw h heach, .of_steps hsteps⟩

theorem clean_unsaved (hw : w = World.workspace channels b.store files moment directory)
    (tables : List String) (s : World σ φ) :
    ∃ outcomes s', (w.clean tables false).perform s = (.ok ⟨none, outcomes⟩, s') ∧
      s'.files = s.files ∧ TablesCleaned b (Unsaved b) tables s outcomes s' := by
  obtain ⟨outcomes, s', heach, hsteps⟩ :=
    Action.perform_forEach (emptyUnsaved_cleaned hw) tables s
  have hfiles : s'.files = s.files := by
    have hkeeps := Action.Keeps.forEach (emptyUnsaved_keeps_files hw) tables s
    rwa [heach] at hkeeps
  subst hw
  refine ⟨outcomes, s', ?_, hfiles, .of_steps hsteps⟩
  exact (Action.perform_bind_ok heach).trans rfl

end

/-- A run with backups empties a table only if it was counted as empty in the same
step or what it held was written to its file first; a table of which a call failed
before that keeps its rows. If the directory of the run cannot be made, no table
changes. A run without backups writes no file. The clock stands still. -/
theorem tables_emptied_only_saved (b : DumpedTables σ τ) (channels : ChannelStore σ)
    (files : FileStore φ) (moment : Moment) (directory : String) (tables : List String)
    (s : World σ φ) :
    (∃ result s', ((World.workspace channels b.store files moment directory).clean tables
        true).perform s = (result, s') ∧
      ((∃ e, (files.createDirectory (moment.runDirectory directory)).perform s.files =
          (.error e, s'.files) ∧ s'.data = s.data ∧
          result = .error (.io (moment.runDirectory directory ++ ": " ++ e.detail))) ∨
        ∃ made outcomes, (files.createDirectory (moment.runDirectory directory)).perform s.files =
            (.ok (), made) ∧ result = .ok ⟨some (moment.runDirectory directory), outcomes⟩ ∧
          TablesCleaned b (SavedFirst b files moment directory) tables { s with files := made }
            outcomes s')) ∧
    ∃ outcomes s', ((World.workspace channels b.store files moment directory).clean tables
        false).perform s = (.ok ⟨none, outcomes⟩, s') ∧ s'.files = s.files ∧
      TablesCleaned b (Unsaved b) tables s outcomes s' := by
  refine ⟨?_, clean_unsaved rfl tables s⟩
  cases hmade : (files.createDirectory (moment.runDirectory directory)).perform s.files with
  | mk result made =>
    cases result with
    | error e => exact ⟨_, _, perform_clean_error rfl tables hmade, .inl ⟨e, rfl, rfl, rfl⟩⟩
    | ok _ =>
      obtain ⟨outcomes, s', hclean, hcleaned⟩ := clean_saving rfl tables hmade
      exact ⟨_, s', hclean, .inr ⟨made, outcomes, rfl, rfl, hcleaned⟩⟩

namespace Sample

def toldTables : DumpedTables (Told MemoryStore) TableDump := (MemoryStore.dumpedTables '"').told

/-- The second call fails: it reads the rows of the first table for its dump. -/
def cleanedWorld : World (Told MemoryStore) MemoryFiles where
  data := {
    state := { tables := { tables := [
      ⟨"logs", none, [⟨"id", "INTEGER"⟩], [[some "1"], [some "2"]]⟩,
      ⟨"tasks", none, [⟨"id", "INTEGER"⟩], [[some "7"]]⟩] } }
    failures := [none, some .notFound] }
  files := {}

def cleanedWorkspace : Workspace (World (Told MemoryStore) MemoryFiles) :=
  World.workspace (Told.store MemoryStore.channelStore) toldTables.store MemoryFiles.store
    (.ofSeconds 0) "backups"

def embeddedWorld : World Relational.Database MemoryFiles where
  data := { tables := [
    { name := "Logs", columns := [⟨"id", "INTEGER"⟩], rows := [⟨1, [("id", .integer 7)]⟩] }] }
  files := {}

def embeddedWorkspace : Workspace (World Relational.Database MemoryFiles) :=
  World.workspace Relational.Database.channelStore Relational.Database.dumpedTables.store
    MemoryFiles.store (.ofSeconds 0) "backups"

end Sample

/-- The table that is not saved keeps its rows, and the run goes on. Without backups a
table is emptied under a name in other letters too. -/
theorem tables_emptied_only_saved_sample :
    (∃ outcomes s', (Sample.cleanedWorkspace.clean ["logs", "tasks"] true).perform
        Sample.cleanedWorld =
          (.ok ⟨some ((Moment.ofSeconds 0).runDirectory "backups"), outcomes⟩, s') ∧
      outcomes.map (·.success) = [false, true] ∧
      (Sample.toldTables.find? s'.data "logs").map (·.rows) = some [[some "1"], [some "2"]] ∧
      (Sample.toldTables.find? s'.data "tasks").map (·.rows) = some []) ∧
    ∃ outcomes s', (Sample.embeddedWorkspace.clean ["logs"] false).perform Sample.embeddedWorld =
        (.ok ⟨none, outcomes⟩, s') ∧
      outcomes.map (·.rowsRemoved) = [1] ∧
      ∀ t, Relational.Database.dumpedTables.find? s'.data "logs" = some t →
        Relational.Database.dumpedTables.cells t = [] := by
  constructor
  · obtain ⟨result, s', hperform, ⟨e, hmade, -⟩ | ⟨made, outcomes, -, rfl, hcleaned⟩⟩ :=
      (tables_emptied_only_saved Sample.toldTables (Told.store MemoryStore.channelStore)
        MemoryFiles.store (.ofSeconds 0) "backups" ["logs", "tasks"] Sample.cleanedWorld).1
    · cases hmade
    · have hsuccess : outcomes.map (·.success) = [false, true] := by
        cases congrArg Prod.fst hperform
        rfl
      refine ⟨outcomes, s', hperform, hsuccess, ?_⟩
      cases hcleaned.steps with
      | more hlogs hrest =>
        cases hrest with
        | more htasks hnone =>
          cases hnone
          simp only [List.map_cons, List.map_nil, List.cons.injEq, and_true] at hsuccess
          have hkept := (hlogs.kept hsuccess.1).2.2.1
          have hemptied := (htasks.emptied hsuccess.2).2.1.tables
          simp only [hemptied, hkept]
          exact ⟨rfl, rfl⟩
  · obtain ⟨outcomes, s', hperform, -, hcleaned⟩ :=
      (tables_emptied_only_saved Relational.Database.dumpedTables Relational.Database.channelStore
        MemoryFiles.store (.ofSeconds 0) "backups" ["logs"] Sample.embeddedWorld).2
    have hsuccess : outcomes = [⟨"logs", true, 1, none, none⟩] := by
      cases congrArg Prod.fst hperform
      rfl
    subst hsuccess
    refine ⟨_, s', hperform, rfl, ?_⟩
    cases hcleaned.steps with
    | more hlogs hnone =>
      cases hnone
      exact (hlogs.emptied rfl).2.1.rowless

end ChannelKeeper

import ChannelKeeper.Command.Keys
import ChannelKeeper.Proofs.Backup.Loading
import ChannelKeeper.Proofs.Command.Console
import ChannelKeeper.Proofs.Store.ListedTable
import ChannelKeeper.Proofs.Workspace

/-!
# Rows are saved before they change

A reset that saves and empties the table, and the removal of rejected keys, change
no row before all rows are written to a file as a backup. If the rows cannot be
counted, listed or written, both fail and every row stays. This holds whatever calls
of the store and of the place for files fail, and whatever a failed call leaves
there, as long as listing and counting only read.
-/

namespace ChannelKeeper

variable {σ φ α : Type}

/-- Where a backup with this start of its name goes. -/
def Moment.backupPath (moment : Moment) (directory start : String) : String :=
  Path.join directory (start ++ "_" ++ moment.stamp ++ ".json")

/-- All rows were listed and written to a file as a backup. -/
structure Saves (t : ListedTable σ) (files : FileStore φ) (moment : Moment)
    (path source : String) (rows : List Channel) (s : World σ φ) (listed : List Channel)
    (s' : World σ φ) : Prop where
  listing : ((t.store.list .everything).perform s.data).1 = .ok listed
  complete : listed.Perm rows
  writing : (files.write path (Backup.ofChannels moment.display source listed).render).perform
    s.files = (.ok (), s'.files)

/-- The rows were saved in the state that a first action had led to. -/
def SavesAfter (first : Workspace.Task (World σ φ) α) (t : ListedTable σ) (files : FileStore φ)
    (moment : Moment) (path source : String) (s : World σ φ) (a : α) (listed : List Channel)
    (s' : World σ φ) : Prop :=
  ∃ s₁, first.perform s = (.ok a, s₁) ∧
    Saves t files moment path source (t.rows s.data) s₁ listed s'

section

variable {t : ListedTable σ} {tables : TableStore σ} {files : FileStore φ} {moment : Moment}
  {directory path source : String} {rows listed : List Channel} {s s' s'' : World σ φ}

theorem Saves.of_files (h : Saves t files moment path source rows s listed s')
    (hfiles : s''.files = s'.files) : Saves t files moment path source rows s listed s'' :=
  { h with writing := hfiles ▸ h.writing }

-- ---------------------------------------------------------------------------
-- Snapshots
-- ---------------------------------------------------------------------------

theorem list_everything_keeps (t : ListedTable σ) :
    ((World.workspace t.store tables files moment directory).channels.list .everything).Keeps
      fun s => t.rows s.data :=
  t.list_keeps.onPart World.data_set

theorem snapshot_keeps (t : ListedTable σ) (start source : String) :
    ((World.workspace t.store tables files moment directory).snapshot start source).Keeps
      fun s => t.rows s.data :=
  Workspace.snapshot_keeps (list_everything_keeps t) (Clock.keeps_fixed moment _) start
    (fun path content _ => World.onFiles_keeps (files.write path content) t.rows) source

/-- A snapshot that is not written fails, and no row changes. -/
theorem triple_snapshot (t : ListedTable σ) (start source : String) (hrows : t.rows s.data = rows) :
    ((World.workspace t.store tables files moment directory).snapshot start source).Triple s
      (fun file s' => t.rows s'.data = rows ∧ ∃ listed,
        file = ⟨moment.backupPath directory start, listed.length⟩ ∧
        Saves t files moment (moment.backupPath directory start) source rows s listed s')
      fun _ s' => t.rows s'.data = rows := by
  subst hrows
  refine ((snapshot_keeps t start source).triple s).mono ?_ fun _ _ => id
  rintro file s' ⟨hs, hrows⟩
  have hpath : ((World.workspace t.store tables files moment directory).stampedPath start).perform
      s = (.ok (moment.backupPath directory start), s) := rfl
  rw [Workspace.snapshot, Action.perform_bind_ok hpath] at hs
  obtain ⟨listed, hlist, hwrite, rfl⟩ := World.writeBackup_eq_ok.mp hs
  exact ⟨hrows, listed, rfl, ⟨congrArg Prod.fst hlist, t.list_ok hlist, hwrite⟩⟩

-- ---------------------------------------------------------------------------
-- Resets
-- ---------------------------------------------------------------------------

theorem count_keeps (t : ListedTable σ) :
    (Workspace.stored (World.workspace t.store tables files moment directory).channels.count).Keeps
      fun s => t.rows s.data :=
  .mapError (t.count_keeps.onPart World.data_set) _

theorem reset_keeps (t : ListedTable σ) {saves empties dryRun : Bool}
    (h : dryRun = true ∨ empties = false) :
    ((World.workspace t.store tables files moment directory).reset saves empties dryRun).Keeps
      fun s => t.rows s.data := by
  have hcount : (World.workspace t.store tables files moment directory).channels.count.Keeps
      fun s => t.rows s.data := t.count_keeps.onPart World.data_set
  rcases h with rfl | rfl
  · exact Workspace.reset_dryRun_keeps hcount saves empties
  · exact Workspace.reset_keeps hcount (list_everything_keeps t) (Clock.keeps_fixed moment _) dryRun
      fun path content _ _ _ => World.onFiles_keeps (files.write path content) t.rows

theorem triple_deleteAll (t : ListedTable σ) (s : World σ φ) :
    (Workspace.stored
      (World.workspace t.store tables files moment directory).channels.deleteAll).Triple s
      (fun n s' => n = (t.rows s.data).length ∧ t.rows s'.data = [] ∧ s'.files = s.files)
      fun _ s' => s'.files = s.files := by
  show (Workspace.stored (t.store.deleteAll.onPart World.data fun data w =>
    { w with data := data })).Triple s _ _
  refine .mapError (.onPart ?_)
  refine Action.triple_iff.mpr ⟨fun n data h => ?_, fun _ _ _ => rfl⟩
  obtain ⟨hn, hrows⟩ := t.deleteAll_ok h
  exact ⟨hn, hrows, rfl⟩

theorem triple_reset (t : ListedTable σ) (s : World σ φ)
    (w : Workspace (World σ φ)) (hw : w = World.workspace t.store tables files moment directory) :
    (w.reset true true false).Triple s
      (fun report s' => ∃ listed,
        SavesAfter (Workspace.stored w.channels.count) t files moment
          (moment.backupPath directory "reset_backup") Backup.sourceReset s report.channelsBefore
          listed s' ∧
        report.backup = some ⟨moment.backupPath directory "reset_backup", listed.length⟩ ∧
        report.deleted = listed.length ∧ t.rows s'.data = [])
      fun _ s' => t.rows s'.data = t.rows s.data ∨ ∃ before listed,
        SavesAfter (Workspace.stored w.channels.count) t files moment
          (moment.backupPath directory "reset_backup") Backup.sourceReset s before listed s' := by
  subst hw
  refine .bind (((count_keeps t).triple s).mono_error fun _ _ => Or.inl) ?_
  rintro before s₁ ⟨hcount, hrows⟩
  refine .map_bind ((triple_snapshot t _ _ hrows).mono_error fun _ _ => Or.inl) ?_
  rintro _ s₂ ⟨hrows₂, listed, rfl, hsaves⟩
  have hsaved : ∀ s', s'.files = s₂.files → SavesAfter _ t files moment
      (moment.backupPath directory "reset_backup") Backup.sourceReset s before listed s' :=
    fun s' hfiles => ⟨s₁, hcount, hsaves.of_files hfiles⟩
  refine .bind ((triple_deleteAll t s₂).mono_error fun _ s' hfiles => ?_) ?_
  · exact .inr ⟨before, listed, hsaved s' hfiles⟩
  · rintro _ s' ⟨rfl, hnone, hfiles⟩
    refine .pure ⟨listed, hsaved s' hfiles, rfl, ?_, hnone⟩
    rw [hrows₂, hsaves.complete.length_eq]

-- ---------------------------------------------------------------------------
-- Removing rejected keys
-- ---------------------------------------------------------------------------

theorem applyPruning_keeps_files (t : ListedTable σ) (plans : List PrunePlan) :
    ((World.workspace t.store tables files moment directory).applyPruning plans).Keeps
      World.files := by
  refine .fold (fun r plan => .bind (.attempt fun _ => rfl) fun result => ?_) _ _
  cases result <;> exact .pure _

variable {d : Desk (World σ φ)} {c : Console (World σ φ)}

theorem triple_plan (hd : d.workspace = World.workspace t.store tables files moment directory)
    (deed : String) (results : List KeyTestResult) (c : Console (World σ φ)) :
    (Run.during deed (Run.task (d.workspace.planPruning results))).Triple c
      (fun plans c' => (d.workspace.planPruning results).perform c.state = (.ok plans, c'.state) ∧
        t.rows c'.state.data = t.rows c.state.data)
      fun _ c' => t.rows c'.state.data = t.rows c.state.data := by
  rw [hd]
  exact .mapError (Run.triple_task
    ((Workspace.planPruning_keeps (list_everything_keeps t) results).triple c.state))

theorem triple_saveBeforePruning
    (hd : d.workspace = World.workspace t.store tables files moment directory)
    (hrows : t.rows c.state.data = rows) :
    d.saveBeforePruning.Triple c
      (fun _ c' => ∃ listed, Saves t files moment
        (moment.backupPath directory "pre_cleanup_backup") Backup.sourceFull rows c.state listed
        c'.state)
      fun _ c' => t.rows c'.state.data = rows := by
  rw [Desk.saveBeforePruning, hd]
  refine .bind (.mapError (Run.triple_task (triple_snapshot t _ _ hrows))) ?_
  rintro _ c' ⟨-, listed, rfl, hsaves⟩
  exact ((Run.prints_line _).onlyIf _).triple fun c₁ hsame => ⟨listed, hsame ▸ hsaves⟩

theorem triple_applyPruning
    (hd : d.workspace = World.workspace t.store tables files moment directory)
    (plans : List PrunePlan) (c : Console (World σ φ)) :
    (Run.task (d.workspace.applyPruning plans)).Triple c
      (fun _ c' => c'.state.files = c.state.files) fun _ c' => c'.state.files = c.state.files := by
  rw [hd]
  exact Run.triple_task (((applyPruning_keeps_files t plans).triple c.state).mono
    (fun _ _ => And.right) fun _ _ => id)

theorem triple_prune (hd : d.workspace = World.workspace t.store tables files moment directory)
    (hrows : t.rows c.state.data = rows) (plans : List PrunePlan) :
    (d.prune plans).Triple c
      (fun pruned c' => pruned.isSome ∧ ∃ listed, Saves t files moment
        (moment.backupPath directory "pre_cleanup_backup") Backup.sourceFull rows c.state listed
        c'.state)
      fun _ c' => t.rows c'.state.data = rows ∨ ∃ listed, Saves t files moment
        (moment.backupPath directory "pre_cleanup_backup") Backup.sourceFull rows c.state listed
        c'.state := by
  refine .bind ((triple_saveBeforePruning hd hrows).mono_error fun _ _ => Or.inl) ?_
  rintro - c₁ ⟨listed, hsaves⟩
  have hsaved : ∀ c' : Console (World σ φ), c'.state.files = c₁.state.files →
      Saves t files moment (moment.backupPath directory "pre_cleanup_backup") Backup.sourceFull rows
        c.state listed c'.state := fun c' hfiles => hsaves.of_files hfiles
  refine .bind ((triple_applyPruning hd plans c₁).mono_error fun _ c' hfiles =>
    .inr ⟨listed, hsaved c' hfiles⟩) ?_
  intro report c₂ hfiles
  refine Run.Prints.bind ((Run.prints_lines _).onlyIf _) fun c₃ hsame => ?_
  have hfiles₃ : c₃.state.files = c₁.state.files := by rw [hsame, hfiles]
  split
  · exact .throw (.inr ⟨listed, hsaved c₃ hfiles₃⟩)
  · exact .pure ⟨rfl, listed, hsaved c₃ hfiles₃⟩

/-- Either nothing is to be removed, the operator refuses, or the rows are saved. -/
theorem triple_removeRejected
    (hd : d.workspace = World.workspace t.store tables files moment directory)
    (results : List KeyTestResult) (agreed : Bool) (c : Console (World σ φ)) :
    (d.removeRejected results agreed).Triple c
      (fun pruned c' =>
        (pruned = none ∧ t.rows c'.state.data = t.rows c.state.data ∧ ∃ plans s₁,
          (d.workspace.planPruning results).perform c.state = (.ok plans, s₁) ∧
          (plans = [] ∨ agreed = false ∧ ∃ question, d.operator.confirms question = .ok false)) ∨
        (pruned.isSome ∧ ∃ plans listed,
          SavesAfter (d.workspace.planPruning results) t files moment
            (moment.backupPath directory "pre_cleanup_backup") Backup.sourceFull c.state plans
            listed c'.state))
      fun _ c' => t.rows c'.state.data = t.rows c.state.data ∨ ∃ plans listed,
        SavesAfter (d.workspace.planPruning results) t files moment
          (moment.backupPath directory "pre_cleanup_backup") Backup.sourceFull c.state plans listed
          c'.state := by
  refine .bind ((triple_plan hd _ results c).mono_error fun _ _ => Or.inl) ?_
  rintro plans c₁ ⟨hplan, hrows⟩
  cases plans with
  | nil =>
    refine Run.Prints.bind ((Run.prints_lines _).onlyIf _) fun c₂ hsame => ?_
    exact .pure (.inl ⟨rfl, by rw [hsame, hrows], [], c₁.state, hplan, .inl rfl⟩)
  | cons plan rest =>
    refine Run.Prints.bind ((Run.prints_lines _).onlyIf _) fun c₂ hsame => ?_
    have hrows₂ : t.rows c₂.state.data = t.rows c.state.data := by rw [hsame, hrows]
    refine .bind ((d.triple_confirm _ agreed c₂).mono_error ?_) ?_
    · rintro _ _ rfl
      exact .inl hrows₂
    · rintro yes c₂ ⟨rfl, hrefused⟩
      cases yes with
      | true =>
        -- Only lines were printed since the plan was made, so the rows saved are those it saw.
        rw [← hsame] at hplan
        refine (triple_prune hd hrows₂ (plan :: rest)).mono ?_ ?_
        · rintro pruned c' ⟨hpruned, listed, hsaves⟩
          exact .inr ⟨hpruned, _, listed, c₂.state, hplan, hsaves⟩
        · rintro _ c' (hrows' | ⟨listed, hsaves⟩)
          · exact .inl hrows'
          · exact .inr ⟨_, listed, c₂.state, hplan, hsaves⟩
      | false =>
        obtain ⟨hagreed, hno⟩ := hrefused rfl
        refine Run.Prints.bind (Run.prints_line _) fun c₃ hsame₃ => ?_
        exact .pure (.inl ⟨rfl, by rw [hsame₃, hrows₂], _, c₁.state, hplan,
          .inr ⟨hagreed, _, hno⟩⟩)

/-- A reset that saves and empties, and the removal of rejected keys, either fail with
every row as it was, or have saved all rows; the removal may also have nothing to do. A
dry run and a reset that empties nothing change no row. After a reset that succeeds the
table is empty, and as many rows are gone as are in the backup.

Which calls fail is left open. The clock stands still. -/
theorem rows_change_only_saved (t : ListedTable σ) (w : Workspace (World σ φ))
    (hw : w = World.workspace t.store tables files moment directory) (s : World σ φ) :
    (∀ saves empties dryRun, dryRun = true ∨ empties = false →
      t.rows ((w.reset saves empties dryRun).perform s).2.data = t.rows s.data) ∧
    (∃ result s', (w.reset true true false).perform s = (result, s') ∧
      ((∃ e, result = .error e) ∧ t.rows s'.data = t.rows s.data ∨
        ∃ before listed, SavesAfter (Workspace.stored w.channels.count) t files moment
            (moment.backupPath directory "reset_backup") Backup.sourceReset s before listed s' ∧
          ∀ report, result = .ok report → report.channelsBefore = before ∧
            report.backup = some ⟨moment.backupPath directory "reset_backup", listed.length⟩ ∧
            report.deleted = listed.length ∧ t.rows s'.data = [])) ∧
    ∀ d : Desk (World σ φ), d.workspace = w → ∀ results agreed printed,
      ∃ result c', (d.removeRejected results agreed).perform ⟨s, printed⟩ = (result, c') ∧
        ((∃ e, result = .error e) ∧ t.rows c'.state.data = t.rows s.data ∨
          result = .ok none ∧ t.rows c'.state.data = t.rows s.data ∧
            (∃ plans s₁, (w.planPruning results).perform s = (.ok plans, s₁) ∧
              (plans = [] ∨
                agreed = false ∧ ∃ question, d.operator.confirms question = .ok false)) ∨
          ∃ plans listed, SavesAfter (w.planPruning results) t files moment
            (moment.backupPath directory "pre_cleanup_backup") Backup.sourceFull s plans listed
            c'.state) := by
  refine ⟨fun saves empties dryRun h => hw ▸ reset_keeps t h s, ?_, ?_⟩
  · obtain ⟨hok, herror⟩ := Action.triple_iff.mp (triple_reset t s w hw)
    cases hperform : (w.reset true true false).perform s with
    | mk result s' =>
      refine ⟨result, s', rfl, ?_⟩
      cases result with
      | ok report =>
        obtain ⟨listed, hsaved, hbackup, hdeleted, hnone⟩ := hok report s' hperform
        refine .inr ⟨_, listed, hsaved, ?_⟩
        rintro _ ⟨⟩
        exact ⟨rfl, hbackup, hdeleted, hnone⟩
      | error e =>
        rcases herror e s' hperform with hrows | ⟨before, listed, hsaved⟩
        · exact .inl ⟨⟨e, rfl⟩, hrows⟩
        · exact .inr ⟨before, listed, hsaved, fun _ h => by cases h⟩
  · rintro d hd results agreed printed
    obtain ⟨hok, herror⟩ := Action.triple_iff.mp
      (triple_removeRejected (hd.trans hw) results agreed ⟨s, printed⟩)
    rw [hd] at hok herror
    cases hperform : (d.removeRejected results agreed).perform ⟨s, printed⟩ with
    | mk result c' =>
      refine ⟨result, c', rfl, ?_⟩
      cases result with
      | ok pruned =>
        rcases hok pruned c' hperform with ⟨rfl, hrows, hplan⟩ | ⟨-, hsaved⟩
        · exact .inr (.inl ⟨rfl, hrows, hplan⟩)
        · exact .inr (.inr hsaved)
      | error e =>
        rcases herror e c' hperform with hrows | hsaved
        · exact .inl ⟨⟨e, rfl⟩, hrows⟩
        · exact .inr (.inr hsaved)

end

namespace Sample

/-- Rows in memory whose calls fail as they are told. -/
def toldTable : ListedTable (Told MemoryStore) := MemoryStore.listedTable.told

def toldWorkspace : Workspace (World (Told MemoryStore) MemoryFiles) :=
  World.workspace toldTable.store
    ((MemoryStore.tableStore '"').onPart Told.state fun data s => { s with state := data })
    MemoryFiles.store (.ofSeconds 0) "backups"

def toldRows : List Channel := [{ id := 1, name := "x", key := "bad" }, { id := 2, name := "y" }]

def toldWorld (failures : List (Option StoreError)) : World (Told MemoryStore) MemoryFiles :=
  ⟨⟨{ channels := .ofRows toldRows }, failures⟩, {}⟩

def toldDesk : Desk (World (Told MemoryStore) MemoryFiles) where
  workspace := toldWorkspace
  settings := {}
  backend := .sqlite
  prober _ := .valid 0
  duration _ := 0
  operator := .absent
  asJson := true

def rejection : KeyTestResult :=
  ⟨1, "bad", some ⟨1, "x", 0, 1, "bad", ""⟩, "m", .failed .forbidden "denied" 5⟩

def plansOf (rows : List Channel) : List PrunePlan :=
  PrunePlan.ofResults (rows.filter fun c => (Workspace.sourceIds [rejection]).contains c.id)
    [rejection]

theorem plansOf_toldRows : plansOf toldRows ≠ [] := by
  have hids : PrunePlan.affectedIds [rejection] = [1] := List.mergeSort_singleton 1
  rw [plansOf, PrunePlan.ofResults, hids]
  decide

end Sample

/-- The second call fails: it lists the rows that a reset or a removal would save. -/
theorem rows_change_only_saved_sample :
    (∃ e s', (Sample.toldWorkspace.reset true true false).perform
        (Sample.toldWorld [none, some .notFound]) = (.error e, s') ∧
      (Sample.toldTable.rows s'.data).map (·.key) = ["bad", ""]) ∧
    (∃ e c', (Sample.toldDesk.removeRejected [Sample.rejection] true).perform
        ⟨Sample.toldWorld [none, some .notFound], []⟩ = (.error e, c') ∧
      (Sample.toldTable.rows c'.state.data).map (·.key) = ["bad", ""]) ∧
    ∃ report s', (Sample.toldWorkspace.reset true true false).perform (Sample.toldWorld []) =
        (.ok report, s') ∧
      report.deleted = 2 ∧ Sample.toldTable.rows s'.data = [] := by
  have h := fun failures => rows_change_only_saved Sample.toldTable Sample.toldWorkspace rfl
    (Sample.toldWorld failures)
  obtain ⟨-, hreset, hremoval⟩ := h [none, some .notFound]
  refine ⟨?_, ?_, ?_⟩
  · obtain ⟨result, s', hperform, ⟨⟨e, rfl⟩, hrows⟩ | ⟨before, listed, ⟨s₁, hcount, hsaves⟩, -⟩⟩ :=
      hreset
    · exact ⟨e, s', hperform, congrArg (List.map (·.key)) hrows⟩
    · cases hcount
      cases hsaves.listing
  · obtain ⟨result, c', hperform, ⟨⟨e, rfl⟩, hrows⟩ | ⟨-, -, plans, s₁, hplan, hnone⟩ |
      ⟨plans, listed, s₁, hplan, hsaves⟩⟩ := hremoval Sample.toldDesk rfl [Sample.rejection] true []
    · exact ⟨e, c', hperform, congrArg (List.map (·.key)) hrows⟩
    · obtain rfl : plans = [] := hnone.resolve_right fun h => by cases h.1
      have hnil : Sample.plansOf (Sample.toldRows.mergeSort fun a b => a.id ≤ b.id) = [] :=
        Except.ok.inj (congrArg Prod.fst hplan)
      rw [List.mergeSort_of_pairwise (by decide)] at hnil
      exact absurd hnil Sample.plansOf_toldRows
    · cases hplan
      cases hsaves.listing
  · obtain ⟨result, s', hperform, ⟨⟨e, rfl⟩, -⟩ | ⟨before, listed, ⟨s₁, -, hsaves⟩, hok⟩⟩ :=
      (h []).2.1
    · cases congrArg Prod.fst hperform
    · cases congrArg Prod.fst hperform
      obtain ⟨-, -, hdeleted, hnone⟩ := hok _ rfl
      exact ⟨_, s', hperform, hdeleted.trans hsaves.complete.length_eq, hnone⟩

end ChannelKeeper

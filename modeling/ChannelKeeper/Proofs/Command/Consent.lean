import ChannelKeeper.Proofs.Command.KeyTests
import ChannelKeeper.Proofs.Machine

/-!
# Nothing changes without consent

The commands that change rows ask for it, unless they were agreed to beforehand. Where
every question is refused, or nobody is there to answer it, no row changes, whatever the
databases, the settings and the options are. A file may be written then, such as the report
of a test of keys, and only rows that lie in this very file are lost. A dry run changes no
row and no file, agreed to or not.

Connecting comes before all this. The address of the run may ask for its database to be made
where there is none, and then this file is the only one that a dry run can add.
-/

namespace ChannelKeeper

def askedWords : List String := ["RESET", "CLEAN"]

/-- Whatever is asked, there is no yes, and no word is typed as it is asked for. Failing to
answer is a refusal. -/
structure Operator.Refuses (operator : Operator) : Prop where
  confirms (question : String) : operator.confirms question ≠ .ok true
  types (deed text : String) : ∀ word ∈ askedWords,
    operator.types (deed ++ " (type " ++ word ++ " to continue)") = .ok text →
      Text.trim text ≠ word

theorem Operator.absent_refuses : absent.Refuses := ⟨nofun, nofun⟩

namespace Command

/-- The command changes rows, and was not agreed to beforehand. -/
def isUnagreed : Command → Bool
  | .channels (.importFile o) => !o.agreed
  | .channels (.restore o) => !o.agreed
  | .keys (.test o) => !o.agreed
  | .models (.update o) => !o.agreed
  | .tables (.clean o) => !o.agreed
  | .tables (.reset o) => !o.agreed
  | _ => false

/-- The command shows what it would do. -/
def isDryRun : Command → Bool
  | .channels (.importFile o) => o.dryRun
  | .channels (.restore o) => o.dryRun
  | .models (.update o) => o.dryRun
  | .tables (.reset o) => o.dryRun
  | _ => false

/-- The paths that a command writes to without asking: those of the report and of the list
of keys of a test, and that of the backup of a reset that empties nothing. -/
def Saves {σ : Type} (directory : String) (clock : Clock σ) : Command → String → Prop
  | .keys (.test o), path => o.report = some path ∨
      o.exportsFirst = true ∧ ∃ stamp, clock.Shows stamp ∧ path = "exported_keys_" ++ stamp ++ ".txt"
  | .tables (.reset o), path => o.saves = true ∧ o.empties = false ∧ o.dryRun = false ∧
      ∃ stamp, clock.Shows stamp ∧ path = Path.join directory ("reset_backup_" ++ stamp ++ ".json")
  | _, _ => False

end Command

namespace Desk

variable {σ γ : Type} {d : Desk σ} {view : σ → γ}

/-- A command at a desk; those that need none do nothing here. -/
def carryOut (d : Desk σ) : Command → Run σ Bool
  | .channels command => d.channelCommand command
  | .keys command => d.keyCommand command
  | .models command => d.modelCommand command
  | .tables command => d.tableCommand command
  | .check | .completions _ => pure true

-- ---------------------------------------------------------------------------
-- Questions
-- ---------------------------------------------------------------------------

theorem confirm_refused (h : d.operator.Refuses) (question : String) :
    Run.Refused (d.confirm question false) :=
  fun _ _ hyes => h.confirms question (Action.perform_ask_eq_ok.mp hyes).1

theorem confirmByWord_refused (h : d.operator.Refuses) (deed : String)
    (hword : word ∈ askedWords) : Run.Refused (d.confirmByWord deed word false) := by
  intro c c' hyes
  obtain ⟨text, c₁, htyped, htrimmed⟩ := Action.perform_bind_eq_ok.mp hyes
  have hsame : (Text.trim text == word) = true := Except.ok.inj (congrArg Prod.fst htrimmed)
  exact h.types deed text word hword (Action.perform_ask_eq_ok.mp htyped).1 (eq_of_beq hsame)

theorem confirmByWord_keeps (d : Desk σ) (deed word : String) (agreed : Bool)
    (view : Console σ → γ) : (d.confirmByWord deed word agreed).Keeps view := by
  cases agreed with
  | true => exact .pure _
  | false => exact .bind (.ask _) fun _ => .pure _

theorem agreeToClean_refused (h : d.operator.Refuses) (selected : List String) :
    Run.Refused (d.agreeToClean selected false) := by
  rw [agreeToClean]
  split
  · exact .bind fun _ => confirmByWord_refused h _ (by simp [askedWords])
  · exact confirm_refused h _

theorem agreeToClean_keeps (d : Desk σ) (selected : List String) (agreed : Bool) (view : σ → γ) :
    (d.agreeToClean selected agreed).Keeps (view ∘ Console.state) := by
  rw [agreeToClean]
  split
  · exact .bind (((Run.prints_line _).onlyIf _).keeps _) fun _ => d.confirmByWord_keeps _ _ _ _
  · exact d.confirm_keeps _ _ _

theorem cancelled_keeps (view : σ → γ) :
    (do Run.cancelled; return true : Run σ Bool).Keeps (view ∘ Console.state) :=
  (Run.prints_line _).keeps_return

theorem chooseTables_keeps (d : Desk σ) (o : CleanOptions) (stats : List TableStats)
    (view : Console σ → γ) : (d.chooseTables o stats).Keeps view := by
  rw [chooseTables]
  split
  · exact .pure _
  · split
    · exact .throw _
    · exact .ask _

theorem nothingToClean_keeps (missing : List String) (view : σ → γ) :
    (nothingToClean missing : Run σ Bool).Keeps (view ∘ Console.state) := by
  cases missing with
  | nil => exact (Run.prints_line _).keeps_return
  | cons name rest => exact .throw _

theorem cleanSelection_keeps {o : CleanOptions} (hagreed : o.agreed = false)
    (hrefuses : d.operator.Refuses) (stats : List TableStats) (selection : TableSelection)
    (view : σ → γ) :
    (d.cleanSelection o stats selection).Keeps (view ∘ Console.state) := by
  rw [cleanSelection]
  generalize selection.resolve (stats.map (·.name)) = resolved
  obtain ⟨selected, missing⟩ := resolved
  refine .bind (((Run.prints_line _).onlyIf _).keeps _) fun _ => ?_
  refine .bind (((Run.prints_lines _).onlyIf _).keeps _) fun _ => ?_
  split
  · exact nothingToClean_keeps _ _
  · refine .bind (((Run.prints_lines _).onlyIf _).keeps _) fun _ => ?_
    rw [hagreed]
    exact (agreeToClean_refused hrefuses _).keeps_bind (d.agreeToClean_keeps _ _ _)
      (cancelled_keeps view)

-- ---------------------------------------------------------------------------
-- Imports and restores
-- ---------------------------------------------------------------------------

section

variable (hd : d.workspace.ReadsKeep view)

include hd

theorem readBackup_keeps (path : String) :
    (d.readBackup path).Keeps (view ∘ Console.state) :=
  Run.keeps_during_task (Workspace.loadBackup_keeps hd.exists? hd.read path) _

theorem previewImport_keeps (document : Backup) (o : ImportOptions) :
    (d.previewImport document o).Keeps (view ∘ Console.state) := by
  rw [previewImport]
  split
  · exact .pure _
  · refine .bind (Run.keeps_task (Workspace.importBackup_dryRun_keeps hd.findExisting _ _))
      fun preview => ?_
    exact .bind ((Run.prints_lines _).keeps _) fun _ => d.confirm_keeps _ _ _

theorem importChannels_keeps {o : ImportOptions}
    (ho : o.dryRun = true ∨ o.agreed = false ∧ d.operator.Refuses) :
    (d.importChannels o).Keeps (view ∘ Console.state) := by
  refine .bind (readBackup_keeps hd _) fun document => ?_
  rcases Bool.eq_false_or_eq_true o.dryRun with hdry | hdry
  · refine .bind (previewImport_keeps hd document o) fun yes => ?_
    cases yes with
    | true =>
      rw [hdry]
      have himport := Workspace.importBackup_dryRun_keeps hd.findExisting document o.updateExisting
      refine .bind (Run.keeps_during_task himport _) fun report => ?_
      exact (d.prints_present _ (Run.prints_lines _)).keeps_return
    | false => exact cancelled_keeps view
  · obtain ⟨hagreed, hrefuses⟩ := ho.resolve_left (by simp [hdry])
    have hrefused : Run.Refused (d.previewImport document o) := by
      rw [previewImport, hdry, hagreed]
      exact .bind fun _ => .bind fun _ => confirm_refused hrefuses _
    exact hrefused.keeps_bind (previewImport_keeps hd document o) (cancelled_keeps view)

theorem restoreChannels_keeps {o : RestoreOptions}
    (ho : o.dryRun = true ∨ o.agreed = false ∧ d.operator.Refuses) :
    (d.restoreChannels o).Keeps (view ∘ Console.state) := by
  refine .bind (readBackup_keeps hd _) fun document => ?_
  refine .bind (((Run.prints_lines _).onlyIf _).keeps _) fun _ => ?_
  rw [agreeToRestore]
  rcases Bool.eq_false_or_eq_true o.dryRun with hdry | hdry
  · rw [hdry]
    refine .bind (.pure true) fun yes => ?_
    cases yes with
    | true =>
      have hrestore := d.workspace.restore_dryRun_keeps document view
      refine .bind (Run.keeps_during_task hrestore _) fun report => ?_
      exact (d.prints_present _ (Run.prints_lines _)).keeps_return
    | false => exact cancelled_keeps view
  · obtain ⟨hagreed, hrefuses⟩ := ho.resolve_left (by simp [hdry])
    rw [hdry, hagreed]
    refine Run.Refused.keeps_bind (.bind fun _ => confirm_refused hrefuses _) ?_
      (cancelled_keeps view)
    exact .bind (((Run.prints_line _).onlyIf _).keeps _) fun _ => d.confirm_keeps _ _ _

-- ---------------------------------------------------------------------------
-- The update of model lists
-- ---------------------------------------------------------------------------

theorem updateModels_keeps {o : ModelUpdateOptions}
    (ho : o.dryRun = true ∨ o.agreed = false ∧ d.operator.Refuses) :
    (d.updateModels o).Keeps (view ∘ Console.state) := by
  refine .bind (Run.keeps_during_task (Workspace.planModels_keeps hd.list _ _) _) fun plans => ?_
  split
  · exact (Run.prints_lines _).keeps_return
  · refine .bind (((Run.prints_lines _).onlyIf _).keeps _) fun _ => ?_
    split
    · exact (d.prints_present _ (Run.prints_lines _)).keeps_return
    · rename_i hchanges
      obtain ⟨hagreed, hrefuses⟩ := ho.resolve_left fun hdry => hchanges (by simp [hdry])
      rw [applyModels, hagreed]
      exact (confirm_refused hrefuses _).keeps_bind (d.confirm_keeps _ _ _) (cancelled_keeps view)

-- ---------------------------------------------------------------------------
-- Emptying tables
-- ---------------------------------------------------------------------------

theorem countedChannels_keeps : d.countedChannels.Keeps (view ∘ Console.state) :=
  Run.keeps_during_task (hd.count.mapError _) _

theorem resetChannels_dryRun_keeps {o : ResetOptions} (ho : o.dryRun = true) :
    (d.resetChannels o).Keeps (view ∘ Console.state) := by
  refine .bind (countedChannels_keeps hd) fun count => ?_
  refine .bind (((Run.prints_lines _).onlyIf _).keeps _) fun _ => ?_
  rw [if_pos ho]
  refine .bind (Run.keeps_task (Workspace.reset_dryRun_keeps hd.count _ _)) fun report => ?_
  exact (d.prints_present _ (Run.prints_lines _)).keeps_return

theorem resetChannels_refused_keeps {o : ResetOptions} (hagreed : o.agreed = false)
    (hrefuses : d.operator.Refuses)
    (hwrite : ∀ path content, (Command.tables (.reset o)).Saves d.workspace.backupDirectory
      d.workspace.clock path → (d.workspace.files.write path content).Keeps view) :
    (d.resetChannels o).Keeps (view ∘ Console.state) := by
  cases hdry : o.dryRun with
  | true => exact resetChannels_dryRun_keeps hd hdry
  | false =>
    refine .bind (countedChannels_keeps hd) fun count => ?_
    refine .bind (((Run.prints_lines _).onlyIf _).keeps _) fun _ => ?_
    rw [hdry, agreeToReset, hagreed]
    cases hempties : o.empties with
    | true =>
      exact (confirmByWord_refused hrefuses _ (by simp [askedWords])).keeps_bind
        (d.confirmByWord_keeps _ _ _ _) (cancelled_keeps view)
    | false =>
      refine .bind (.pure true) fun yes => ?_
      cases yes with
      | true =>
        have hreset := Workspace.reset_keeps hd.count (hd.list _) hd.clock false
          fun path content _ hsaves hpath => hwrite path content ⟨hsaves, hempties, hdry, hpath⟩
        refine .bind (Run.keeps_during_task hreset _) fun report => ?_
        exact (d.prints_present _ (Run.prints_lines _)).keeps_return
      | false => exact cancelled_keeps view

theorem cleanTables_keeps {o : CleanOptions} (hagreed : o.agreed = false)
    (hrefuses : d.operator.Refuses) : (d.cleanTables o).Keeps (view ∘ Console.state) := by
  have hstats := Run.keeps_tableTask (Workspace.tableStats_keeps hd.listTables hd.countRows)
  refine .bind (hstats.mapError _) fun stats => ?_
  refine .bind (d.chooseTables_keeps o stats _) fun chosen => ?_
  cases chosen with
  | some selection => exact cleanSelection_keeps hagreed hrefuses stats selection view
  | none => exact cancelled_keeps view

-- ---------------------------------------------------------------------------
-- The removal of rejected keys
-- ---------------------------------------------------------------------------

theorem removeRejected_keeps (hrefuses : d.operator.Refuses) (results : List KeyTestResult) :
    (d.removeRejected results false).Keeps (view ∘ Console.state) := by
  have hplan := Workspace.planPruning_keeps (hd.list .everything) results
  refine .bind (Run.keeps_during_task hplan _) fun plans => ?_
  split
  · exact ((Run.prints_lines _).onlyIf _).keeps_return
  · refine .bind (((Run.prints_lines _).onlyIf _).keeps _) fun _ => ?_
    refine (confirm_refused hrefuses _).keeps_bind (d.confirm_keeps _ _ _) ?_
    exact (Run.prints_line _).keeps_return

theorem testKeys_keeps {o : KeyTestOptions} (hagreed : o.agreed = false)
    (hrefuses : d.operator.Refuses)
    (hwrite : ∀ path content, (Command.keys (.test o)).Saves d.workspace.backupDirectory
      d.workspace.clock path → (d.workspace.files.write path content).Keeps view) :
    (d.testKeys o).Keeps (view ∘ Console.state) := by
  have hlisted := fun path content hexports hpath => hwrite path content (.inr ⟨hexports, hpath⟩)
  have hreported := fun content path hpath => hwrite path content (.inl hpath)
  refine .bind (candidates_keeps hd.clock hlisted hd.list hd.read) fun keys => ?_
  split
  · exact (d.prints_present _ (Run.prints_lines _)).keeps_return
  · refine .bind (d.runKeyTests_keeps o keys view) fun results => ?_
    refine .bind (saveKeyReport_keeps hd.clock hreported _ _) fun _ => ?_
    rw [hagreed]
    cases o.removesRejected with
    | true =>
      refine .bind (removeRejected_keeps hd hrefuses results) fun pruning => ?_
      exact (d.prints_present _ (Run.prints_lines _)).keeps_return
    | false =>
      refine .bind (.pure _) fun pruning => ?_
      exact (d.prints_present _ (Run.prints_lines _)).keeps_return

-- ---------------------------------------------------------------------------
-- Whole commands
-- ---------------------------------------------------------------------------

theorem dryRun_keeps (h : command.isDryRun = true) :
    (d.carryOut command).Keeps (view ∘ Console.state) := by
  unfold Command.isDryRun at h
  split at h
  · exact importChannels_keeps hd (.inl h)
  · exact restoreChannels_keeps hd (.inl h)
  · exact updateModels_keeps hd (.inl h)
  · exact resetChannels_dryRun_keeps hd h
  · cases h

theorem refused_keeps (h : command.isUnagreed = true) (hrefuses : d.operator.Refuses)
    (hwrite : ∀ path content, command.Saves d.workspace.backupDirectory d.workspace.clock path →
      (d.workspace.files.write path content).Keeps view) :
    (d.carryOut command).Keeps (view ∘ Console.state) := by
  unfold Command.isUnagreed at h
  split at h
  · exact importChannels_keeps hd (.inr ⟨by simpa using h, hrefuses⟩)
  · exact restoreChannels_keeps hd (.inr ⟨by simpa using h, hrefuses⟩)
  · exact testKeys_keeps hd (by simpa using h) hrefuses hwrite
  · exact updateModels_keeps hd (.inr ⟨by simpa using h, hrefuses⟩)
  · exact cleanTables_keeps hd (by simpa using h) hrefuses
  · exact resetChannels_refused_keeps hd (by simpa using h) hrefuses hwrite
  · cases h

end

end Desk

-- ---------------------------------------------------------------------------
-- Runs of the program
-- ---------------------------------------------------------------------------

namespace Settings

variable {σ γ ε : Type} {files : FileStore σ} {view : σ → γ}

theorem load_keeps (hread : ∀ path, (files.read path).Keeps view) (path : String) :
    (load files path : Action σ ε Settings).Keeps view := by
  have hload : (Settings.read files path).Keeps view := by
    refine .bind (hread path).attempt fun found => ?_
    split
    · split
      · exact .pure _
      · exact .throw _
    · split
      · exact .pure _
      · exact .throw _
  refine .bind hload.attempt fun found => ?_
  split <;> exact .pure _

/-- Defaults stand in for a file that cannot be read. -/
theorem load_succeeds (ε : Type) (files : FileStore σ) (path : String) (s : σ) :
    ∃ settings s', (load files path : Action σ ε Settings).perform s = (.ok settings, s') := by
  rw [load, Action.perform_attempt_bind]
  rcases (Settings.read files path).perform s with ⟨_ | _ | settings, s'⟩
  · exact ⟨{}, s', rfl⟩
  · exact ⟨{}, s', rfl⟩
  · exact ⟨settings, s', rfl⟩

end Settings

namespace Platform

variable {σ γ ρ κ β : Type} {p : Platform σ}

/-- Reading leaves a view of the state alone: that of files, of the clock, and of every
database that was connected to. -/
structure ReadsKeep (p : Platform σ) (view : σ → γ) : Prop where
  settings (path : String) : (p.files.read path).Keeps view
  workspace {dsn : String} {s s' : σ} {gateway : Gateway σ} (directory : String)
    (h : (p.connect dsn).perform s = (.ok gateway, s')) :
    (gateway.workspace p directory).ReadsKeep view

/-- The settings of a run. -/
def loadSettings (p : Platform σ) (i : Invocation) : Action σ CommandError Settings :=
  Settings.load p.files (i.options.settingsFile.getD settingsFile)

/-- The paths that a run writes to without asking. -/
def Saves (p : Platform σ) (i : Invocation) (s : σ) (path : String) : Prop :=
  ∃ settings s', (p.loadSettings i).perform s = (.ok settings, s') ∧
    i.command.Saves settings.backupDirectory p.clock path

/-- The rows that are looked at lie in none of the files at some paths, so that writing these
files changes no row. Reading changes neither rows nor files. Connecting changes no row, and
of the files it adds at most one, where its address asks for that. -/
structure Separates (p : Platform σ) (written : String → Prop) (rows : σ → ρ)
    (file : σ → κ → Option β) : Prop where
  rows_read : p.ReadsKeep rows
  rows_write {path : String} (h : written path) (content : String) :
    (p.files.write path content).Keeps rows
  rows_connect (dsn : String) : (p.connect dsn).Keeps rows
  file_read : p.ReadsKeep file
  file_connect (dsn : String) (s : σ) : file ((p.connect dsn).perform s).2 = file s ∨
    Dsn.AsksToCreate dsn ∧ ∃ made, file s made = none ∧
      ∀ other ≠ made, file ((p.connect dsn).perform s).2 other = file s other

variable {settings : Settings} {dsn : String} {asJson : Bool} {view : σ → γ}

theorem carryOut_eq (h : command.isUnagreed = true ∨ command.isDryRun = true) :
    p.carryOut settings dsn asJson command = p.connected dsn >>= fun gateway =>
      (p.desk settings gateway asJson).carryOut command := by
  cases command with
  | channels | keys | models | tables => rfl
  | check | completions => simp [Command.isUnagreed, Command.isDryRun] at h

theorem state_connected (p : Platform σ) (dsn : String) (c : Console σ) :
    ((p.connected dsn).perform c).2.state = ((p.connect dsn).perform c.state).2 := by
  rw [connected, Run.during, Run.work]
  simp only [Action.mapError, Action.perform_ofFunction, Action.perform_onPart]
  rcases (p.connect dsn).perform c.state with ⟨_ | _, s⟩ <;> rfl

theorem connected_eq_ok (h : (p.connected dsn).perform c = (.ok gateway, c')) :
    ∃ s, (p.connect dsn).perform c.state = (.ok gateway, s) := by
  rw [connected, Run.during, Action.perform_mapError_eq_ok] at h
  obtain ⟨s, hs, -⟩ := Run.perform_work_eq_ok.mp h
  exact ⟨s, hs⟩

/-- Where the rest of a command leaves a view alone, only connecting is left to change it. -/
theorem view_run (hp : p.ReadsKeep view)
    (h : i.command.isUnagreed = true ∨ i.command.isDryRun = true) {c : Console σ}
    (hload : (p.loadSettings i).perform c.state = (.ok settings, s))
    (hcommand : ∀ gateway : Gateway σ,
      (gateway.workspace p settings.backupDirectory).ReadsKeep view →
      ((p.desk settings gateway i.options.asJson).carryOut i.command).Keeps (view ∘ Console.state)) :
    view ((p.run i).perform c).2.state =
      view ((p.connect (settings.resolveDsn i.options.dsn)).perform s).2 := by
  have hsettings : (Run.work (p.loadSettings i) id).perform c =
      (.ok settings, { c with state := s }) := Run.perform_work_eq_ok.mpr ⟨s, hload, rfl⟩
  rw [loadSettings] at hsettings
  rw [run, Action.perform_bind_ok hsettings, carryOut_eq h]
  refine (Action.view_perform_bind (view ∘ Console.state) ?_ _).trans
    (congrArg view (p.state_connected _ _))
  intro gateway c₁ c₂ hconnected
  obtain ⟨s', hconnect⟩ := connected_eq_ok hconnected
  exact hcommand gateway (hp.workspace _ hconnect)

end Platform

-- ---------------------------------------------------------------------------
-- Machines
-- ---------------------------------------------------------------------------

namespace Machine

/-- A platform of machines, whoever sits at them and whatever answers from the net. -/
structure Serves (p : Platform Machine) (moment : Moment) : Prop where
  files : p.files = Machine.files
  clock : p.clock = { now := pure moment, zone := Machine.zone }
  connect (dsn : String) : p.connect dsn = .change (·.connect dsn)

theorem platform_serves (moment : Moment) (operator : Operator) :
    Serves { platform moment with operator := operator } moment := by
  constructor <;> simp only [platform, implies_true]

variable {γ : Type} {view : Machine → γ} {p : Platform Machine} {moment : Moment}

/-- Reading puts a database back as it was. -/
theorem Serves.reads_keep (h : Serves p moment)
    (hset : ∀ place m, view (setDatabase place (database place m) m) = view m) :
    p.ReadsKeep view where
  settings := h.files ▸ fun _ _ => rfl
  workspace directory hconnect := by
    rw [h.connect] at hconnect
    obtain ⟨⟨place, rfl⟩, -⟩ := connect_eq_ok (Action.perform_change_eq_ok.mp hconnect)
    have hreads {α : Type} {act : Action Relational.Database StoreError α}
        (hact : ∀ db, (act.perform db).2 = db) :
        ((act.onPart (database place) (setDatabase place)).guarded (checkDatabase place)).Keeps
          view := by
      refine .guarded (fun m => ?_) _
      rw [Action.perform_onPart, hact]
      exact hset place m
    exact ⟨fun _ => hreads fun _ => rfl, hreads fun _ => rfl, fun _ _ => hreads fun _ => rfl,
      hreads fun _ => rfl, fun _ => hreads fun _ => rfl,
      show ∀ path, (p.files.read path).Keeps view from h.files ▸ fun _ _ => rfl,
      show ∀ path, (p.files.exists? path).Keeps view from h.files ▸ fun _ _ => rfl,
      show p.clock.Keeps view from h.clock ▸ fun _ => rfl⟩

/-- A file of the disk is apart from every database but that of its own place. -/
theorem Serves.separates (h : Serves p moment) (written : String → Prop) :
    p.Separates written (HoldsApart written) fun m => m.disk.node? where
  rows_read := h.reads_keep fun place m => holdsApart_eq rfl fun other _ => database_set m place other
  rows_write hpath content := h.files ▸ fun m => m.holdsApart_write hpath content
  rows_connect dsn m := by
    rw [h.connect]
    have hextends := connect_extends dsn m
    exact holdsApart_eq hextends.workingDirectory fun place _ => hextends.database place
  file_read := h.reads_keep fun _ _ => rfl
  file_connect dsn m := by
    rw [h.connect]
    exact (connect_extends dsn m).disk

end Machine

/-- A command that changes rows and was not agreed to changes none where every question is
refused. A dry run changes none either, and leaves every file that it finds as it was; it
adds no file but the one that connecting to its address adds, where that asks for a database
to be made.

Of the platform it is assumed that reading changes nothing, that the rows looked at lie in
none of the files that such a run writes, and that connecting changes no file that is there. -/
theorem nothing_changed_without_consent {σ ρ κ β : Type} {p : Platform σ} {rows : σ → ρ}
    {file : σ → κ → Option β} (i : Invocation) (c : Console σ)
    (hp : p.Separates (p.Saves i c.state) rows file) :
    (i.command.isUnagreed = true → p.operator.Refuses →
      rows ((p.run i).perform c).2.state = rows c.state) ∧
    (i.command.isDryRun = true →
      rows ((p.run i).perform c).2.state = rows c.state ∧
      (∀ place content, file c.state place = some content →
        file ((p.run i).perform c).2.state place = some content) ∧
      ∃ settings s, (p.loadSettings i).perform c.state = (.ok settings, s) ∧
        file s = file c.state ∧
        file ((p.run i).perform c).2.state =
          file ((p.connect (settings.resolveDsn i.options.dsn)).perform s).2 ∧
        (file ((p.run i).perform c).2.state = file c.state ∨
          Dsn.AsksToCreate (settings.resolveDsn i.options.dsn) ∧
          ∃ made, file c.state made = none ∧
            ∀ other ≠ made, file ((p.run i).perform c).2.state other = file c.state other)) := by
  obtain ⟨settings, s, hload⟩ := Settings.load_succeeds CommandError p.files
    (i.options.settingsFile.getD Platform.settingsFile) c.state
  have hrows : rows s = rows c.state := (congrArg (fun out => rows out.2) hload).symm.trans
    (Settings.load_keeps hp.rows_read.settings _ c.state)
  have hfile : file s = file c.state := (congrArg (fun out => file out.2) hload).symm.trans
    (Settings.load_keeps hp.file_read.settings _ c.state)
  refine ⟨fun hunagreed hrefuses => ?_, fun hdry => ?_⟩
  · rw [Platform.view_run hp.rows_read (.inl hunagreed) hload fun gateway hd =>
      Desk.refused_keeps hd hunagreed hrefuses fun path content hpath =>
        hp.rows_write ⟨settings, s, hload, hpath⟩ content]
    exact (hp.rows_connect _ s).trans hrows
  · rw [Platform.view_run hp.rows_read (.inr hdry) hload fun gateway hd => Desk.dryRun_keeps hd hdry]
    have hrun := Platform.view_run hp.file_read (.inr hdry) hload fun gateway hd =>
      Desk.dryRun_keeps hd hdry
    have hconnect := hp.file_connect (settings.resolveDsn i.options.dsn) s
    rw [← hrun, hfile] at hconnect
    refine ⟨(hp.rows_connect _ s).trans hrows, fun place content hplace => ?_, settings, s, hload,
      hfile, hrun, hconnect⟩
    rcases hconnect with hsame | ⟨-, made, hnone, hothers⟩
    · rw [hsame, hplace]
    · rw [hothers place fun hmade => ?_, hplace]
      rw [hmade, hnone] at hplace
      cases hplace

namespace Sample

/-- A database of one channel. -/
def guardedMachine : Machine where
  disk := { nodes := [(["gw.db"], .file (.text "") 0)] }
  databases := [(.file ["gw.db"], { tables := [
    { name := "channels"
      columns := [⟨"id", "INTEGER"⟩, ⟨"type", "INTEGER"⟩, ⟨"key", "TEXT"⟩]
      rows := [⟨1, [("id", .integer 1), ("type", .integer 24), ("key", .text "k")]⟩] }] })]

/-- Every question is answered, and never with a yes. -/
def declining : Operator := ⟨fun _ => .ok false, fun _ => .ok "no", fun _ => .ok none⟩

theorem declining_refuses : declining.Refuses where
  confirms _ := by simp [declining]
  types _ _ word hword htyped := by
    cases htyped
    revert word
    decide

def guardedRun (command : Command) : Except CommandError Bool × Console Machine :=
  ({ Machine.platform (.ofSeconds 0) with operator := declining } : Platform Machine).run
    ⟨{ dsn := some "sqlite:gw.db" }, command⟩ |>.perform ⟨guardedMachine, []⟩

def declinedReset : Command := .tables (.reset ⟨true, true, false, false⟩)

def declinedTest (report : String) : Command :=
  .keys (.test ⟨none, {}, false, ⟨none, none⟩, some report, true, false⟩)

def dryReset : Command := .tables (.reset ⟨true, true, true, true⟩)

end Sample

/-- A reset and a test of keys are not agreed to, and another reset that was agreed to is a
dry run. -/
theorem nothing_changed_without_consent_sample :
    ((Sample.guardedRun Sample.declinedReset).1 = .ok true ∧
      (Sample.guardedRun Sample.declinedReset).2.state.database (.file ["gw.db"]) =
        Sample.guardedMachine.database (.file ["gw.db"])) ∧
    ((Sample.guardedRun (Sample.declinedTest "report.txt")).1 = .ok false ∧
      (Sample.guardedRun (Sample.declinedTest "report.txt")).2.state.database (.file ["gw.db"]) =
        Sample.guardedMachine.database (.file ["gw.db"])) ∧
    (Sample.guardedRun Sample.dryReset).1 = .ok true ∧
      (Sample.guardedRun Sample.dryReset).2.state.database (.file ["gw.db"]) =
        Sample.guardedMachine.database (.file ["gw.db"]) ∧
      (Sample.guardedRun Sample.dryReset).2.state.disk.node? ["gw.db"] =
        Sample.guardedMachine.disk.node? ["gw.db"] := by
  have h := fun command => nothing_changed_without_consent
    ⟨{ dsn := some "sqlite:gw.db" }, command⟩ ⟨Sample.guardedMachine, []⟩
    ((Machine.platform_serves (.ofSeconds 0) Sample.declining).separates _)
  refine ⟨⟨by decide +kernel, ?_⟩, ⟨by decide +kernel, ?_⟩, by decide +kernel, ?_, ?_⟩
  · refine Machine.database_of_holdsApart
      ((h Sample.declinedReset).1 rfl Sample.declining_refuses) ?_
    rintro path ⟨settings, s, -, -, hempties, -⟩
    cases hempties
  · refine Machine.database_of_holdsApart
      ((h (Sample.declinedTest "report.txt")).1 rfl Sample.declining_refuses) ?_
    rintro path ⟨settings, s, -, hreport | ⟨hexports, -⟩⟩
    · cases hreport
      decide
    · cases hexports
  · refine Machine.database_of_holdsApart ((h Sample.dryReset).2 rfl).1 ?_
    rintro path ⟨settings, s, -, -, -, hdry, -⟩
    cases hdry
  · exact ((h Sample.dryReset).2 rfl).2.1 ["gw.db"] _ rfl

namespace Sample

def bareMachine : Machine where
  disk := { nodes := [(["b.json"], .file (.text
    ("\x7b\"export_time\": \"\", \"export_version\": \"1.0.0\", \"total_channels\": 0, " ++
      "\"database_info\": \"\", \"channels\": []\x7d")) 0)] }

/-- A dry run at an address that asks for its database to be made. -/
def dryRestore : Invocation :=
  ⟨{ dsn := some "sqlite:made.db?mode=rwc" }, .channels (.restore ⟨"b.json", true, false⟩)⟩

def bareRun : Except CommandError Bool × Console Machine :=
  ((Machine.platform (.ofSeconds 0)).run dryRestore).perform ⟨bareMachine, []⟩

end Sample

/-- A dry run that goes well can leave a file that was not there: connecting made it. And a
report that is written to the file of the database takes the place of its rows. -/
theorem changed_without_consent :
    (Sample.dryRestore.command.isDryRun = true ∧
      Sample.bareMachine.disk.node? ["made.db"] = none ∧
      Sample.bareRun.1 = .ok true ∧ Sample.bareRun.2.state.disk.node? ["made.db"] ≠ none) ∧
    (Sample.declinedTest "gw.db").isUnagreed = true ∧
      (Sample.guardedMachine.database (.file ["gw.db"])).tables.isEmpty = false ∧
      ((Sample.guardedRun (Sample.declinedTest "gw.db")).2.state.database
        (.file ["gw.db"])).tables.isEmpty = true :=
  ⟨⟨rfl, rfl, by decide +kernel⟩, rfl, by decide +kernel⟩

end ChannelKeeper

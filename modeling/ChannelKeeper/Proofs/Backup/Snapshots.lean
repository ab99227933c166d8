import ChannelKeeper.Proofs.Backup.Restore
import ChannelKeeper.Proofs.Calendar
import ChannelKeeper.Proofs.Files.Names

/-!
# Saved rows stay

Each file in which a call has saved the rows is read as before at the end of a run of
calls, unless a later one saves rows under the same start of a name and the same text for
the time. Two seconds have one text where clocks are set back in between. This holds for all
stores, places for files, clocks and zones, also where calls fail, as long as a writing
leaves files of other names alone. Nothing is said of files that something else writes.
-/

namespace ChannelKeeper

/-- A call that may save the rows in the backup directory. -/
inductive SavingCall where
  | backup
  | snapshot (start source : String)
  | restore (document : Backup) (dryRun : Bool)
  | reset (saves empties dryRun : Bool)

namespace SavingCall

-- ---------------------------------------------------------------------------
-- What a call does
-- ---------------------------------------------------------------------------

def start : SavingCall → String
  | .backup => "channels_backup"
  | .snapshot start _ => start
  | .restore .. => "pre_restore_backup"
  | .reset .. => "reset_backup"

def source : SavingCall → String
  | .snapshot _ source => source
  | .reset .. => Backup.sourceReset
  | .backup | .restore .. => Backup.sourceFull

variable {σ : Type}

def run (w : Workspace σ) : SavingCall → Workspace.Task σ (Option String)
  | .backup => (w.backup none).map fun file => some file.path
  | .snapshot start source => (w.snapshot start source).map fun file => some file.path
  | .restore document dryRun => (w.restore document dryRun).map fun report => report.snapshot
  | .reset saves empties dryRun =>
    (w.reset saves empties dryRun).map fun report => report.backup.map (·.path)

/-- What the call does until it has saved the rows, if it is to save them at all. -/
def saving (w : Workspace σ) : SavingCall → Workspace.Task σ (Option WrittenFile)
  | .backup => (w.backup none).map some
  | .snapshot start source => (w.snapshot start source).map some
  | .restore _ dryRun =>
    if dryRun then pure none
    else (w.snapshot "pre_restore_backup" Backup.sourceFull).map some
  | .reset saves _ dryRun => do
    let _ ← Workspace.stored w.channels.count
    if saves && !dryRun then (w.snapshot "reset_backup" Backup.sourceReset).map some else pure none

section

variable {γ : Type} {view : σ → γ} {w : Workspace σ}

/-- After it has saved the rows a call touches the rows only. -/
theorem view_run (hdelete : w.channels.deleteAll.Keeps view)
    (hinsert : ∀ c, (w.channels.insert c true).Keeps view) (call : SavingCall) (s : σ) :
    view ((call.run w).perform s).2 = view ((call.saving w).perform s).2 := by
  cases call with
  | backup => rw [run, saving, Action.perform_map, Action.perform_map]
  | snapshot start source => rw [run, saving, Action.perform_map, Action.perform_map]
  | restore document dryRun =>
    rw [run, saving, Action.perform_map]
    cases dryRun with
    | true => rfl
    | false =>
      simp only [Workspace.restore, Bool.false_eq_true, if_false]
      rw [Action.perform_map]
      exact Action.view_perform_bind view (fun saved _ _ _ => (hdelete.mapError _).bind fun _ =>
        .fold (Workspace.restoreChannel_keeps hinsert) _ _) s
  | reset saves empties dryRun =>
    rw [run, saving, Action.perform_map, Workspace.reset, Action.perform_bind, Action.perform_bind]
    rcases (Workspace.stored w.channels.count).perform s with ⟨_ | before, s₁⟩
    · rfl
    · dsimp only
      cases dryRun with
      | true => cases saves <;> rfl
      | false =>
        simp only [Bool.false_eq_true, if_false, Bool.not_false, Bool.and_true]
        cases saves <;> cases empties
        · rfl
        · exact Action.view_perform_bind view (fun _ _ _ _ => (hdelete.mapError _).bind fun _ =>
            .pure _) s₁
        · exact Action.view_perform_bind view (fun _ _ _ _ => .bind (.pure 0) fun _ => .pure _) s₁
        · exact Action.view_perform_bind view (fun _ _ _ _ => (hdelete.mapError _).bind fun _ =>
            .pure _) s₁

theorem snapshot_fold_restoreChannel {channels : List Channel} {r r' : RestoreReport} {s s' : σ}
    (h : (Action.fold w.restoreChannel r channels).perform s = (.ok r', s')) :
    r'.snapshot = r.snapshot := by
  induction channels generalizing r s with
  | nil =>
    cases h
    rfl
  | cons c rest ih =>
    obtain ⟨r₁, s₁, hstep, hrest⟩ := Action.perform_bind_eq_ok.mp h
    rw [ih hrest]
    rw [Workspace.restoreChannel, Action.perform_attempt_bind] at hstep
    split at hstep <;> cases hstep <;> rfl

theorem snapshot_of_restore {document : Backup} {report : RestoreReport} {s s' : σ}
    (h : (w.restore document false).perform s = (.ok report, s')) : report.snapshot =
      ((w.snapshot "pre_restore_backup" Backup.sourceFull).perform s).1.toOption.map (·.path) := by
  simp only [Workspace.restore, Bool.false_eq_true, if_false] at h
  rw [Action.perform_attempt_bind] at h
  obtain ⟨deleted, s₁, -, hfold⟩ := Action.perform_bind_eq_ok.mp h
  rw [snapshot_fold_restoreChannel hfold]
  cases ((w.snapshot "pre_restore_backup" Backup.sourceFull).perform s).1 <;> rfl

theorem backup_of_reset {saves empties dryRun : Bool} {report : ResetReport} {s s' : σ}
    (h : (w.reset saves empties dryRun).perform s = (.ok report, s')) :
    ((saving w (.reset saves empties dryRun)).perform s).1 = .ok report.backup := by
  obtain ⟨before, s₁, hcount, hrest⟩ := Action.perform_bind_eq_ok.mp h
  rw [saving, Action.perform_bind_ok hcount]
  cases dryRun with
  | true =>
    cases hrest
    cases saves <;> rfl
  | false =>
    cases saves <;> cases empties
    all_goals
      obtain ⟨backup, s₂, hsaved, hend⟩ := Action.perform_bind_eq_ok.mp hrest
      obtain ⟨deleted, s₃, -, hreport⟩ := Action.perform_bind_eq_ok.mp hend
      cases hreport
      exact congrArg Prod.fst hsaved

theorem reported_eq {call : SavingCall} {reported : Option String} {s s' : σ}
    (h : (call.run w).perform s = (.ok reported, s')) :
    reported = (((call.saving w).perform s).1.toOption.bind id).map (·.path) := by
  cases call with
  | backup =>
    obtain ⟨file, hperform, rfl⟩ := Action.perform_map_eq_ok.mp h
    rw [saving, Action.perform_map, hperform]
    rfl
  | snapshot start source =>
    obtain ⟨file, hperform, rfl⟩ := Action.perform_map_eq_ok.mp h
    rw [saving, Action.perform_map, hperform]
    rfl
  | restore document dryRun =>
    obtain ⟨report, hperform, rfl⟩ := Action.perform_map_eq_ok.mp h
    cases dryRun with
    | true =>
      cases hperform
      rfl
    | false =>
      -- a snapshot that failed is not reported, and the restore goes on
      rw [snapshot_of_restore hperform]
      simp only [saving, Bool.false_eq_true, if_false]
      rw [Action.perform_map]
      cases ((w.snapshot "pre_restore_backup" Backup.sourceFull).perform s).1 <;> rfl
  | reset saves empties dryRun =>
    obtain ⟨report, hperform, rfl⟩ := Action.perform_map_eq_ok.mp h
    rw [backup_of_reset hperform]
    rfl

end

-- ---------------------------------------------------------------------------
-- Runs
-- ---------------------------------------------------------------------------

/-- A file in which a call has saved the rows, as it was read right after that. -/
structure Saving where
  start : String
  /-- The time in the name. -/
  stamp : String
  path : String
  content : Except IoError String

variable {δ φ : Type}

/-- What a call saves, named by the time that the clock shows when it begins. -/
def saved? (w : Workspace (Timed δ φ)) (call : SavingCall) (s : Timed δ φ) : Option Saving :=
  match (call.saving w).perform s with
  | (.ok (some file), s₁) =>
    some ⟨call.start, (s.moment 0).stamp, file.path, ((w.files.read file.path).perform s₁).1⟩
  | _ => none

def after (w : Workspace (Timed δ φ)) (call : SavingCall) (s : Timed δ φ) : Timed δ φ :=
  ((call.run w).perform s).2

def savings (w : Workspace (Timed δ φ)) : List SavingCall → Timed δ φ → List Saving
  | [], _ => []
  | call :: rest, s => (call.saved? w s).toList ++ savings w rest (call.after w s)

def afterAll (w : Workspace (Timed δ φ)) : List SavingCall → Timed δ φ → Timed δ φ
  | [], s => s
  | call :: rest, s => afterAll w rest (call.after w s)

/-- The rows that a call saves. A reset counts them before. -/
def listing (channels : ChannelStore δ) (data : δ) : SavingCall → Except StoreError (List Channel)
  | .reset .. => ((channels.list .everything).perform (channels.count.perform data).2).1
  | _ => ((channels.list .everything).perform data).1

/-- How the saving of these rows to this path may end: it does not come to writing a file,
the file cannot be written, or it is. -/
inductive Ends (files : FileStore φ) (path : String) (text : List Channel → String)
    (listing : Except StoreError (List Channel)) (f : φ) :
    Except ChannelError (Option WrittenFile) → φ → Prop
  | unwritten (h : ∀ file, result ≠ .ok (some file)) : Ends files path text listing f result f
  | refused (rows : List Channel)
      (h : (files.write path (text rows)).perform f = (.error e, f')) (e' : ChannelError) :
      Ends files path text listing f (.error e') f'
  | saved (rows : List Channel) (hrows : listing = .ok rows)
      (h : (files.write path (text rows)).perform f = (.ok (), f')) :
      Ends files path text listing f (.ok (some ⟨path, rows.length⟩)) f'

section

variable {channels : ChannelStore δ} {tables : TableStore δ} {files : FileStore φ}
  {directory path other content : String} {w : Workspace (Timed δ φ)} {s : Timed δ φ}
  {call : SavingCall}

-- ---------------------------------------------------------------------------
-- One call
-- ---------------------------------------------------------------------------

/-- A file of another name stays, and every file if no rows are saved. -/
theorem Ends.stays {text : List Channel → String} {listed : Except StoreError (List Channel)}
    {f f' : φ} (h : Ends files path text listed f result f') (hothers : files.KeepsOthers)
    (hapart : ∀ file, result = .ok (some file) → Path.Apart file.path other)
    (hread : ((files.read other).perform f).1 = .ok content) :
    ((files.read other).perform f').1 = .ok content := by
  cases h with
  | unwritten => exact hread
  | refused rows h =>
    have hfails : ((files.write path (text rows)).perform f).1 ≠ .ok () := by
      rw [h]
      nofun
    have hstays := hothers path (text rows) other f (fun hok => absurd hok hfails) _ hread
    rwa [h] at hstays
  | saved rows _ h =>
    have hstays := hothers path (text rows) other f
      (fun _ => hapart ⟨path, rows.length⟩ rfl) _ hread
    rwa [h] at hstays

theorem snapshot_ends (hw : w = Timed.workspace channels tables files directory)
    (start source : String) (s : Timed δ φ) :
    Ends files (s.savePath directory start) (s.saveText source)
      ((channels.list .everything).perform s.data).1 s.files
      ((Action.perform ((w.snapshot start source).map some) s).1)
      ((Action.perform ((w.snapshot start source).map some) s).2.files) := by
  subst hw
  rw [Action.perform_map]
  rcases hlist : (channels.list .everything).perform s.data with ⟨e | rows, data⟩
  · rw [Timed.perform_snapshot_unlisted start source hlist]
    exact .unwritten fun _ => nofun
  · rw [Timed.perform_snapshot_listed start source hlist]
    dsimp only
    rcases hwrite : (files.write (s.savePath directory start) (s.saveText source rows)).perform
      s.files with ⟨e | _, f⟩
    · exact .refused rows hwrite _
    · exact .saved rows rfl hwrite

theorem saving_ends (hw : w = Timed.workspace channels tables files directory)
    (call : SavingCall) (s : Timed δ φ) :
    Ends files (s.savePath directory call.start) (s.saveText call.source)
      (call.listing channels s.data) s.files ((call.saving w).perform s).1
      ((call.saving w).perform s).2.files := by
  cases call with
  | backup => exact snapshot_ends hw _ _ s
  | snapshot start source => exact snapshot_ends hw _ _ s
  | restore document dryRun =>
    cases dryRun with
    | true => exact .unwritten fun _ => nofun
    | false => exact snapshot_ends hw _ _ s
  | reset saves empties dryRun =>
    have hcount : (Workspace.stored w.channels.count).perform s =
        ((channels.count.perform s.data).1.mapError .store,
          { s with data := (channels.count.perform s.data).2 }) := by
      rw [hw]
      exact Action.perform_mapError _ _ s
    rw [saving, Action.perform_bind, hcount, listing]
    rcases channels.count.perform s.data with ⟨_ | before, data⟩
    · exact .unwritten fun _ => nofun
    · show Ends _ _ _ _ _ (Action.perform (if saves && !dryRun then _ else _) _).1 _
      cases saves && !dryRun with
      | true => exact snapshot_ends hw "reset_backup" Backup.sourceReset { s with data := data }
      | false => exact .unwritten fun _ => nofun

theorem listing_perm (t : ListedTable δ) {data : δ} {rows : List Channel}
    (h : call.listing t.store data = .ok rows) : rows.Perm (t.rows data) := by
  cases call with
  | reset saves empties dryRun =>
    rw [← t.count_keeps data]
    exact t.list_ok (Prod.ext h rfl)
  | _ => exact t.list_ok (Prod.ext h rfl)

theorem files_after (hw : w = Timed.workspace channels tables files directory)
    (call : SavingCall) (s : Timed δ φ) :
    (call.after w s).files = ((call.saving w).perform s).2.files := by
  subst hw
  exact view_run (fun _ => rfl) (fun _ _ => rfl) call s

theorem saved?_eq_some {saving : Saving} : call.saved? w s = some saving ↔
    ∃ file s₁, (call.saving w).perform s = (.ok (some file), s₁) ∧
      saving = ⟨call.start, (s.moment 0).stamp, file.path,
        ((w.files.read file.path).perform s₁).1⟩ := by
  rw [saved?]
  rcases (call.saving w).perform s with ⟨_ | _ | file, s₁⟩
  · simp
  · simp
  · simp [eq_comm]

theorem saved?_reads (hw : w = Timed.workspace channels tables files directory)
    (hfiles : files.Keeps) {saving : Saving} (h : call.saved? w s = some saving) :
    saving.start = call.start ∧ saving.stamp = (s.moment 0).stamp ∧
      saving.path = Path.join directory (saving.start ++ "_" ++ saving.stamp ++ ".json") ∧
      (∃ rows, call.listing channels s.data = .ok rows ∧
        saving.content = .ok (s.saveText call.source rows)) ∧
      ((files.read saving.path).perform (call.after w s).files).1 = saving.content := by
  obtain ⟨file, s₁, hsaving, rfl⟩ := saved?_eq_some.mp h
  have hends := saving_ends hw call s
  rw [files_after hw]
  rw [hsaving] at hends ⊢
  have hread : ((w.files.read file.path).perform s₁).1 =
      ((files.read file.path).perform s₁.files).1 := by
    subst hw
    rfl
  rw [hread]
  dsimp only at hends ⊢
  generalize s₁.files = f at hends ⊢
  cases hends with
  | unwritten h => exact absurd rfl (h file)
  | saved rows hrows h =>
    exact ⟨rfl, rfl, rfl, ⟨rows, hrows, congrArg Prod.fst (hfiles _ _ _ _ h).2⟩, rfl⟩

/-- Every file that a call reports is one that it has saved the rows in. -/
theorem saved?_of_reported {path : String} {s' : Timed δ φ}
    (h : (call.run w).perform s = (.ok (some path), s')) :
    ∃ saving, call.saved? w s = some saving ∧ saving.path = path := by
  have hreported := reported_eq h
  rcases hsaving : (call.saving w).perform s with ⟨_ | _ | file, s₁⟩
  · rw [hsaving] at hreported
    cases hreported
  · rw [hsaving] at hreported
    cases hreported
  · rw [hsaving] at hreported
    exact ⟨_, saved?_eq_some.mpr ⟨file, s₁, hsaving, rfl⟩, (Option.some.inj hreported).symm⟩

theorem after_stays (hw : w = Timed.workspace channels tables files directory)
    (hothers : files.KeepsOthers)
    (hapart : ∀ saving, call.saved? w s = some saving → Path.Apart saving.path other)
    (hread : ((files.read other).perform s.files).1 = .ok content) :
    ((files.read other).perform (call.after w s).files).1 = .ok content := by
  rw [files_after hw]
  refine (saving_ends hw call s).stays hothers ?_ hread
  intro file hfile
  have hsaving : (call.saving w).perform s = (.ok (some file), ((call.saving w).perform s).2) := by
    rw [← hfile]
  have hfile := hapart _ (saved?_eq_some.mpr ⟨file, _, hsaving, rfl⟩)
  exact hfile

-- ---------------------------------------------------------------------------
-- One call after the other
-- ---------------------------------------------------------------------------

theorem afterAll_stays (hw : w = Timed.workspace channels tables files directory)
    (hothers : files.KeepsOthers) (calls : List SavingCall)
    (hapart : ∀ saving ∈ savings w calls s, Path.Apart saving.path other)
    (hread : ((files.read other).perform s.files).1 = .ok content) :
    ((files.read other).perform (afterAll w calls s).files).1 = .ok content := by
  induction calls generalizing s with
  | nil => exact hread
  | cons call rest ih =>
    refine ih (fun saving h => hapart saving (List.mem_append_right _ h)) ?_
    refine after_stays hw hothers (fun saving h => hapart saving ?_) hread
    exact List.mem_append_left _ (by simp [h])

/-- The name of a file tells the start and the time. -/
theorem apart_stamped (directory : String) {start start' : String} {m n : Int}
    (h : Path.lastPart start = Path.lastPart start' → Calendar.stampText m ≠ Calendar.stampText n) :
    Path.Apart (Path.join directory (start ++ "_" ++ Calendar.stampText m ++ ".json"))
      (Path.join directory (start' ++ "_" ++ Calendar.stampText n ++ ".json")) := by
  have hname (start : String) (second : Int) :
      Path.fileName? (Path.join directory (start ++ "_" ++ Calendar.stampText second ++ ".json")) =
        some (Path.lastPart start ++ "_" ++ Calendar.stampText second ++ ".json") := by
    have hslash : '/' ∉ ("_" ++ Calendar.stampText second ++ ".json").toList := by
      have hstamp := Calendar.slash_notMem_stampText second
      simp [hstamp]
    have hlength : 2 < ("_" ++ Calendar.stampText second ++ ".json").length := by
      rw [String.length_append, show ".json".length = 5 from rfl]
      omega
    simpa only [String.append_assoc] using
      Path.fileName?_join_append directory start hslash hlength
  refine ⟨_, _, hname start m, hname start' n, fun heq => ?_⟩
  obtain ⟨heq, -⟩ := Text.append_inj_of_length heq rfl
  obtain ⟨hstart, hsecond⟩ := Calendar.stamped_inj heq
  exact h hstart (congrArg Calendar.stampText hsecond)

theorem mem_savings (hw : w = Timed.workspace channels tables files directory)
    (hfiles : files.Keeps) {calls : List SavingCall} {saving : Saving}
    (h : saving ∈ savings w calls s) :
    (∃ second, saving.stamp = Calendar.stampText second) ∧
      saving.path = Path.join directory (saving.start ++ "_" ++ saving.stamp ++ ".json") ∧
      ∃ time source rows, saving.content = .ok (Backup.ofChannels time source rows).render := by
  induction calls generalizing s with
  | nil => cases h
  | cons call rest ih =>
    rcases List.mem_append.mp h with h | h
    · obtain ⟨-, hstamp, hpath, ⟨rows, -, hcontent⟩, -⟩ :=
        saved?_reads hw hfiles (Option.mem_toList.mp h)
      exact ⟨⟨_, hstamp⟩, hpath, _, _, rows, hcontent⟩
    · exact ih h

/-- A file in which rows were saved has its content for as long as no later call saves rows
under the same start of a name and the same text for the time, whatever the calls are, whatever
the store does, and whatever the clock shows in whatever zone. -/
theorem saved_files_stay (hfiles : files.Keeps) (hothers : files.KeepsOthers)
    (w : Workspace (Timed δ φ)) (hw : w = Timed.workspace channels tables files directory)
    {calls : List SavingCall} {s : Timed δ φ} {before later : List Saving} {saving : Saving}
    (hsavings : savings w calls s = before ++ saving :: later)
    (hlater : ∀ next ∈ later, Path.lastPart next.start = Path.lastPart saving.start →
      next.stamp ≠ saving.stamp) :
    (∃ time source rows, saving.content = .ok (Backup.ofChannels time source rows).render) ∧
      ((w.files.read saving.path).perform (afterAll w calls s)).1 = saving.content := by
  have hmem : saving ∈ savings w calls s := by
    rw [hsavings]
    exact List.mem_append_right _ List.mem_cons_self
  obtain ⟨⟨second, hsecond⟩, -, hcontent⟩ := mem_savings hw hfiles hmem
  refine ⟨hcontent, ?_⟩
  have hread (t : Timed δ φ) : ((w.files.read saving.path).perform t).1 =
      ((files.read saving.path).perform t.files).1 := by
    subst hw
    rfl
  rw [hread]
  clear hread hmem hcontent
  induction calls generalizing s before with
  | nil => exact absurd hsavings (by simp [savings])
  | cons call rest ih =>
    rw [savings] at hsavings
    cases hsaved : call.saved? w s with
    | none =>
      rw [hsaved] at hsavings
      exact ih hsavings
    | some first =>
      rw [hsaved, Option.toList_some, List.singleton_append] at hsavings
      cases before with
      | cons _ before => exact ih (List.cons.inj hsavings).2
      | nil =>
        obtain ⟨rfl, hrest⟩ := List.cons.inj hsavings
        obtain ⟨-, -, hpath, ⟨rows, -, hcontent⟩, hread⟩ := saved?_reads hw hfiles hsaved
        rw [hcontent] at hread ⊢
        refine afterAll_stays hw hothers rest (fun next hnext => ?_) hread
        obtain ⟨⟨second', hsecond'⟩, hpath', -⟩ := mem_savings hw hfiles hnext
        have hstamps := hlater next (hrest ▸ hnext)
        rw [hsecond, hsecond'] at hstamps
        rw [hpath, hpath', hsecond, hsecond']
        exact apart_stamped directory hstamps

end

end SavingCall

namespace Sample

def savingCalls : List SavingCall :=
  [.restore repeatedIds false, .reset true true false, .restore repeatedIds false]

/-- One row, and a clock that shows the same second all the time. -/
def stoppedWorld : Timed MemoryStore MemoryFiles where
  data := { channels := .ofRows [{ id := 1, name := "x" }] }
  files := {}
  readings _ := 0

def resetTwice : List SavingCall := [.reset true true false, .reset true true false]

end Sample

/-- The second restore saves two seconds after the reset. -/
theorem SavingCall.saved_files_stay_sample : ∃ first later,
    SavingCall.savings Sample.timedWorkspace Sample.savingCalls Sample.timedWorld = first :: later ∧
    (first :: later).map (fun saving => (saving.start, saving.stamp)) =
      [("pre_restore_backup", "19700101_000000"), ("reset_backup", "19700101_000002"),
        ("pre_restore_backup", "19700101_000004")] ∧
    ((Sample.timedWorkspace.files.read first.path).perform (SavingCall.afterAll
      Sample.timedWorkspace Sample.savingCalls Sample.timedWorld)).1 = first.content := by
  have hnames : (SavingCall.savings Sample.timedWorkspace Sample.savingCalls
      Sample.timedWorld).map (fun saving => (saving.start, saving.stamp)) =
        [("pre_restore_backup", "19700101_000000"), ("reset_backup", "19700101_000002"),
          ("pre_restore_backup", "19700101_000004")] := by
    decide +kernel
  cases hsavings : SavingCall.savings Sample.timedWorkspace Sample.savingCalls Sample.timedWorld with
  | nil =>
    rw [hsavings] at hnames
    cases hnames
  | cons first later =>
    rw [hsavings] at hnames
    refine ⟨first, later, rfl, hnames, ?_⟩
    obtain ⟨hfirst, hlater⟩ := List.cons.inj hnames
    have hrun : SavingCall.savings Sample.timedWorkspace Sample.savingCalls Sample.timedWorld =
      [] ++ first :: later := hsavings
    refine (SavingCall.saved_files_stay MemoryFiles.keeps_store MemoryFiles.keepsOthers_store
      Sample.timedWorkspace rfl hrun ?_).2
    intro next hnext _ hstamp
    have hmem : (next.start, next.stamp) ∈
        [("reset_backup", "19700101_000002"), ("pre_restore_backup", "19700101_000004")] :=
      hlater ▸ List.mem_map.mpr ⟨next, hnext, rfl⟩
    have hzero : first.stamp = "19700101_000000" := congrArg Prod.snd hfirst
    rw [hzero] at hstamp
    simp [hstamp] at hmem

/-- The first reset saves the only row and removes it. The second writes an empty document in
the place of that file, and the row is nowhere left. -/
theorem SavingCall.saved_file_replaced :
    (∀ n, Sample.stoppedWorld.readings n ≤ Sample.stoppedWorld.readings (n + 1)) ∧
    ∃ first second, SavingCall.savings Sample.timedWorkspace Sample.resetTwice
        Sample.stoppedWorld = [first, second] ∧ second.content ≠ first.content ∧
      ((Sample.timedWorkspace.files.read first.path).perform (SavingCall.afterAll
        Sample.timedWorkspace Sample.resetTwice Sample.stoppedWorld)).1 = second.content := by
  let call : SavingCall := .reset true true false
  let s₁ := call.after Sample.timedWorkspace Sample.stoppedWorld
  obtain ⟨first, hfirst⟩ : ∃ first,
      call.saved? Sample.timedWorkspace Sample.stoppedWorld = some first :=
    Option.isSome_iff_exists.mp (by decide +kernel)
  obtain ⟨second, hsecond⟩ : ∃ second, call.saved? Sample.timedWorkspace s₁ = some second :=
    Option.isSome_iff_exists.mp (by decide +kernel)
  obtain ⟨hstart, htime, hpath, ⟨rows, hrows, hcontent⟩, -⟩ :=
    SavingCall.saved?_reads rfl MemoryFiles.keeps_store hfirst
  obtain ⟨hstart', htime', hpath', ⟨rows', hrows', hcontent'⟩, hread⟩ :=
    SavingCall.saved?_reads rfl MemoryFiles.keeps_store hsecond
  refine ⟨fun _ => Int.le_refl 0, first, second, ?_, ?_, ?_⟩
  · simp only [Sample.resetTwice, SavingCall.savings]
    rw [hfirst, hsecond]
    rfl
  · have hone : rows = [{ id := 1, name := "x" }] :=
      List.perm_singleton.mp (SavingCall.listing_perm MemoryStore.ownIdTable.toListedTable hrows)
    have hempty : s₁.data.channels.rows = [] := List.isEmpty_iff.mp (by decide +kernel)
    have hnone : rows' = [] := by
      have hperm := SavingCall.listing_perm MemoryStore.ownIdTable.toListedTable hrows'
      rwa [show MemoryStore.ownIdTable.rows s₁.data = [] from hempty, List.perm_nil] at hperm
    rw [hcontent, hcontent', hone, hnone]
    intro heq
    have htexts := String.ofList_inj.mp (Except.ok.inj heq)
    revert htexts
    decide +kernel
  · rw [hpath, hstart, htime]
    rw [hpath', hstart', htime'] at hread
    exact hread

end ChannelKeeper

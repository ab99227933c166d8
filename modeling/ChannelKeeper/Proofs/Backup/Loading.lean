import ChannelKeeper.Backup.Writing
import ChannelKeeper.Proofs.Backup.Format
import ChannelKeeper.Proofs.Channel.Columns
import ChannelKeeper.Proofs.Files.Written
import ChannelKeeper.Proofs.World
import ChannelKeeper.Store.Memory
import ChannelKeeper.Store.Relational

/-!
# Backups are loaded

The file of a backup or a snapshot holds the rows that were listed when it was
written, and is loaded as a document of these rows when their infos nest at most
124 containers. The info of a row may nest 127: such a backup is written all the
same, and refused when it is loaded.
-/

namespace ChannelKeeper

open Json

/-- A row as the database gives it, where the info comes from a cell. -/
structure Channel.Stored (c : Channel) : Prop where
  integers : ∀ n ∈ c.integers, IsInt64 n
  someIntegers : ∀ o ∈ c.someIntegers, ∀ n ∈ o, IsInt64 n
  info : ∃ cell, c.info = ChannelColumn.infoOfCell cell

-- ---------------------------------------------------------------------------
-- Infos
-- ---------------------------------------------------------------------------

namespace ChannelColumn

theorem wellFormed_infoOfCell (cell : Option String) : (infoOfCell cell).WellFormed := by
  cases cell with
  | none => exact Value.wellFormed_of_plain trivial rfl
  | some s =>
    rw [infoOfCell]
    by_cases hb : Text.isBlankText s
    · rw [if_pos hb]
      exact Value.wellFormed_of_plain trivial rfl
    · rw [if_neg hb]
      cases hv : Value.read? s with
      | none => exact Value.wellFormed_of_plain trivial rfl
      | some v => exact Value.wellFormed_read? hv

theorem info_read : ∀ column ∈ all, ∀ d c,
    (column.read d c).info = c.info ∨ (column.read d c).info = infoOfCell (text? d) := by
  simp [all, int, text, maybeInt, maybeText]

theorem info_readAll (cells : String → Relational.Datum) {columns : List ChannelColumn}
    (hc : columns ⊆ all) {c : Channel} (h : ∃ cell, c.info = infoOfCell cell) :
    ∃ cell, (readAll cells columns c).info = infoOfCell cell := by
  induction columns generalizing c with
  | nil => exact h
  | cons column rest ih =>
    obtain ⟨hcolumn, hrest⟩ := List.cons_subset.mp hc
    rw [readAll_cons]
    refine ih hrest ?_
    rcases info_read column hcolumn ((cells column.name).cast column.kind) c with hr | hr
    · rw [hr]
      exact h
    · exact ⟨_, hr⟩

end ChannelColumn

theorem Relational.Database.info_selectChannels {db : Relational.Database}
    {test : Relational.Table → Relational.Row → Bool} {rows : List Channel}
    (h : db.selectChannels test = .ok rows) :
    ∀ c ∈ rows, ∃ cell, c.info = ChannelColumn.infoOfCell cell := by
  obtain ⟨columns, hcolumns, h⟩ := bind_eq_ok.mp h
  obtain ⟨found, -, h⟩ := bind_eq_ok.mp h
  cases h
  have hsub : columns ⊆ ChannelColumn.all := by
    unfold Relational.Database.knownColumns at hcolumns
    simp only at hcolumns
    split at hcolumns
    · cases hcolumns
    · cases hcolumns
      exact List.filter_subset_self _
  intro c hc
  obtain ⟨r, -, rfl⟩ := List.mem_map.mp hc
  exact ChannelColumn.info_readAll r.read hsub ⟨none, rfl⟩

theorem Channel.Stored.wellFormed {c : Channel} (h : c.Stored) : c.WellFormed := by
  obtain ⟨cell, hcell⟩ := h.info
  exact ⟨h.integers, h.someIntegers, hcell ▸ ChannelColumn.wellFormed_infoOfCell cell⟩

-- ---------------------------------------------------------------------------
-- Writing and loading
-- ---------------------------------------------------------------------------

namespace World

variable {δ φ : Type} {s s' : World δ φ} {channels : ChannelStore δ} {tables : TableStore δ}
  {files : FileStore φ}
  {moment : Moment} {directory : String} {file : WrittenFile}

theorem writeBackup_eq_ok {path source : String} :
    ((workspace channels tables files moment directory).writeBackup path source).perform s =
      (.ok file, s') ↔
    ∃ rows, (channels.list .everything).perform s.data = (.ok rows, s'.data) ∧
      (files.write path (Backup.ofChannels moment.display source rows).render).perform s.files =
        (.ok (), s'.files) ∧ file = ⟨path, rows.length⟩ := by
  simp only [Workspace.writeBackup, Workspace.stored, Workspace.writeFile, Workspace.onFile,
    Action.perform_bind_eq_ok, Action.perform_mapError_eq_ok]
  constructor
  · rintro ⟨rows, t, hlist, _, _, ⟨⟩, _, _, hwrite, ⟨⟩⟩
    obtain ⟨hlist, hfiles⟩ := onData_eq_ok.mp hlist
    obtain ⟨hwrite, hdata⟩ := onFiles_eq_ok.mp hwrite
    exact ⟨rows, hdata ▸ hlist, hfiles ▸ hwrite, rfl⟩
  · rintro ⟨rows, hlist, hwrite, rfl⟩
    exact ⟨rows, { s with data := s'.data }, onData_eq_ok.mpr ⟨hlist, rfl⟩, moment.display, _, rfl,
      (), s', onFiles_eq_ok.mpr ⟨hwrite, rfl⟩, rfl⟩

theorem perform_loadBackup {path content : String}
    (hthere : (files.exists? path).perform s.files = (.ok true, s.files))
    (hread : (files.read path).perform s.files = (.ok content, s.files)) :
    ((workspace channels tables files moment directory).loadBackup path).perform s =
      match Backup.read? content with
      | some document => (.ok document, s)
      | none => (.error (.invalidBackup (path ++ ": " ++ faultText content)), s) := by
  let w := workspace channels tables files moment directory
  have hfound : (Workspace.onFile path (w.files.exists? path)).perform s = (.ok true, s) :=
    Action.perform_mapError_ok _ (onFiles_eq_ok.mpr ⟨hthere, rfl⟩)
  have hcontent : (Workspace.onFile path (w.files.read path)).perform s = (.ok content, s) :=
    Action.perform_mapError_ok _ (onFiles_eq_ok.mpr ⟨hread, rfl⟩)
  rw [Workspace.loadBackup, Action.perform_bind_ok hfound]
  refine (Action.perform_bind_ok hcontent).trans ?_
  cases Backup.read? content <;> rfl

/-- What loading makes of the file that a backup was written to. -/
theorem loadBackup_of_writeBackup (hfiles : files.Keeps) {path source : String}
    {rows : List Channel} {data : δ}
    (hlist : (channels.list .everything).perform s.data = (.ok rows, data))
    (hcount : rows.length ≤ maxUnsigned) (hrows : ∀ c ∈ rows, c.WellFormed)
    (hfloats : ∀ c ∈ rows, c.FloatsReadBack)
    (hrun : ((workspace channels tables files moment directory).writeBackup path source).perform s =
      (.ok file, s')) :
    ((workspace channels tables files moment directory).loadBackup file.path).perform s' =
      if ∀ c ∈ rows, c.info.nesting ≤ 124 then
        (.ok (Backup.ofChannels moment.display source rows), s')
      else (.error (.invalidBackup (path ++ ": " ++
        faultText (Backup.ofChannels moment.display source rows).render)), s') := by
  obtain ⟨rows', hlist', hwrite, rfl⟩ := writeBackup_eq_ok.mp hrun
  obtain rfl : rows = rows' := by
    rw [hlist] at hlist'
    cases hlist'
    rfl
  obtain ⟨hthere, hread⟩ := hfiles _ _ _ _ hwrite
  have hdocument : (Backup.ofChannels moment.display source rows).WellFormed := ⟨hcount, hrows⟩
  rw [perform_loadBackup hthere hread, Backup.read?_render hdocument hfloats]
  have hnesting : (Backup.ofChannels moment.display source rows).toJson.nesting < 128 ↔
      ∀ c ∈ rows, c.info.nesting ≤ 124 := Backup.nesting_toJson_lt
  by_cases hn : ∀ c ∈ rows, c.info.nesting ≤ 124
  · rw [if_pos (hnesting.mpr hn), if_pos hn]
  · rw [if_neg (hnesting.not.mpr hn), if_neg hn]

theorem perform_backup_some {σ : Type} (w : Workspace σ) (path : String) (s : σ) :
    (w.backup (some path)).perform s = (w.writeBackup path Backup.sourceFull).perform s :=
  Action.perform_bind_ok (Action.perform_pure path s)

/-- The operations that write all rows. -/
inductive WritesBackup (w : Workspace (World δ φ)) : Workspace.Task (World δ φ) WrittenFile → Prop
  | backup (output : Option String) : WritesBackup w (w.backup output)
  | snapshot (start source : String) : WritesBackup w (w.snapshot start source)

theorem WritesBackup.perform_eq {act : Workspace.Task (World δ φ) WrittenFile}
    (h : WritesBackup (workspace channels tables files moment directory) act) :
    ∃ path source, act.perform s =
      ((workspace channels tables files moment directory).writeBackup path source).perform s := by
  have hstamped : ∀ start, ∃ path,
      ((workspace channels tables files moment directory).stampedPath start).perform s =
        (.ok path, s) := fun _ => ⟨_, rfl⟩
  cases h with
  | backup output =>
    cases output with
    | none =>
      obtain ⟨path, hpath⟩ := hstamped "channels_backup"
      exact ⟨path, _, Action.perform_bind_ok hpath⟩
    | some path => exact ⟨path, _, perform_backup_some _ path s⟩
  | snapshot start source =>
    obtain ⟨path, hpath⟩ := hstamped start
    exact ⟨path, source, Action.perform_bind_ok hpath⟩

/-- A backup that was written is loaded as a document of the listed rows, unless
the info of one of them nests more than 124 containers: then it is refused. -/
theorem written_backup_loads (hfiles : files.Keeps)
    {act : Workspace.Task (World δ φ) WrittenFile} {rows : List Channel} {data : δ}
    (hact : WritesBackup (workspace channels tables files moment directory) act)
    (hlist : (channels.list .everything).perform s.data = (.ok rows, data))
    (hcount : rows.length ≤ maxUnsigned) (hrows : ∀ c ∈ rows, c.Stored)
    (hfloats : ∀ c ∈ rows, c.FloatsReadBack) (hrun : act.perform s = (.ok file, s')) :
    ((∀ c ∈ rows, c.info.nesting ≤ 124) → ∃ document,
      ((workspace channels tables files moment directory).loadBackup file.path).perform s' =
        (.ok document, s') ∧ document.channels = rows ∧ document.total = rows.length) ∧
    ((∃ c ∈ rows, 124 < c.info.nesting) → ∃ detail,
      ((workspace channels tables files moment directory).loadBackup file.path).perform s' =
        (.error (.invalidBackup detail), s')) := by
  obtain ⟨path, source, hperform⟩ := hact.perform_eq (s := s)
  have hload := loadBackup_of_writeBackup hfiles hlist hcount (fun c hc => (hrows c hc).wellFormed)
    hfloats (hperform ▸ hrun)
  constructor
  · intro hn
    rw [if_pos hn] at hload
    exact ⟨_, hload, rfl, rfl⟩
  · rintro ⟨c, hc, hdeep⟩
    rw [if_neg fun hn => (hn c hc).not_gt hdeep] at hload
    exact ⟨_, hload⟩

namespace Sample

def nest : Nat → Value
  | 0 => .array []
  | n + 1 => .array [nest n]

theorem nesting_nest (n : Nat) : (nest n).nesting = n + 1 := by
  induction n with
  | zero => rfl
  | succ n ih => simp [nest, Value.nesting, Value.itemNesting, ih]

theorem ordered_nest (n : Nat) : (nest n).Ordered := by
  induction n with
  | zero => trivial
  | succ n ih => exact ⟨ih, trivial⟩

theorem numbers_nest (n : Nat) : (nest n).numbers = [] := by
  induction n with
  | zero => rfl
  | succ n ih => simp [nest, Value.numbers, itemNumbers, ih]

theorem infoOfCell_nest {n : Nat} (h : n + 1 ≤ Value.depthLimit) :
    ChannelColumn.infoOfCell (some (nest n).pretty) = nest n := by
  have hnumbers : ∀ m ∈ (nest n).numbers, m.ReadsBack := by
    rw [numbers_nest]
    exact List.forall_mem_nil _
  have hblank : Text.isBlankText (nest n).pretty = false := by
    cases n <;> simp [Text.isBlankText, Value.pretty, nest, writePretty, Text.isBlank]
  have hread : Value.read? (nest n).pretty = some (nest n) := by
    rw [Value.read?, Document.read?_pretty hnumbers]
    refine (Value.ofDocument?_document _ (ordered_nest n) hnumbers _).trans (if_pos ?_)
    rwa [nesting_nest]
  rw [ChannelColumn.infoOfCell, hblank, hread]
  rfl

def nestedRow (n : Nat) : Channel where
  id := 1
  kind := 24
  status := 1
  name := "deep"
  key := "k"
  info := ChannelColumn.infoOfCell (some (nest n).pretty)

def nestedWorkspace : Workspace (World MemoryStore Disk) :=
  workspace MemoryStore.channelStore (MemoryStore.tableStore '"') Disk.store ⟨"now", "then"⟩
    "backups"

def nestedWorld (n : Nat) : World MemoryStore Disk where
  data := { channels := .ofRows [nestedRow n] }
  files := {}

theorem list_nestedWorld (n : Nat) :
    (MemoryStore.channelStore.list .everything).perform (nestedWorld n).data =
      (.ok [nestedRow n], (nestedWorld n).data) := by
  have hlist : (nestedWorld n).data.channels.list .everything = .ok [nestedRow n] := by
    exact congrArg Except.ok (List.mergeSort_singleton (nestedRow n))
  rw [MemoryStore.channelStore, ChannelStore.onPart, Action.perform_onPart]
  exact Prod.ext hlist rfl

theorem nestedRow_stored (n : Nat) : (nestedRow n).Stored := by
  refine ⟨?_, ?_, ⟨some (nest n).pretty, rfl⟩⟩
  · simp [nestedRow, Channel.integers, IsInt64]
  · simp [nestedRow, Channel.someIntegers]

theorem nestedRow_floatsReadBack {n : Nat} (h : n + 1 ≤ Value.depthLimit) :
    (nestedRow n).FloatsReadBack := by
  have hzero : (Number.float .zero).ReadsBack := by decide +kernel
  refine ⟨hzero, fun x hx => ?_⟩
  rw [nestedRow, infoOfCell_nest h, numbers_nest] at hx
  cases hx

theorem backup_nestedWorld (n : Nat) : ∃ s',
    (nestedWorkspace.backup (some "b.json")).perform (nestedWorld n) = (.ok ⟨"b.json", 1⟩, s') := by
  have hwrite : ∀ content, ∃ d, (Disk.store.write "b.json" content).perform {} = (.ok (), d) :=
    fun _ => ⟨_, rfl⟩
  obtain ⟨d, hd⟩ := hwrite (Backup.ofChannels "now" Backup.sourceFull [nestedRow n]).render
  refine ⟨⟨(nestedWorld n).data, d⟩, ?_⟩
  rw [perform_backup_some]
  exact writeBackup_eq_ok.mpr ⟨[nestedRow n], list_nestedWorld n, hd, rfl⟩

theorem nesting_nestedRow {n : Nat} (h : n + 1 ≤ Value.depthLimit) :
    (nestedRow n).info.nesting = n + 1 := by
  rw [nestedRow, infoOfCell_nest h, nesting_nest]

end Sample

/-- An info of 124 containers. -/
theorem written_backup_loads_sample : ∃ file s' document,
    (Sample.nestedWorkspace.backup (some "b.json")).perform (Sample.nestedWorld 123) =
      (.ok file, s') ∧
    (Sample.nestedWorkspace.loadBackup file.path).perform s' = (.ok document, s') ∧
    document.channels = [Sample.nestedRow 123] ∧ document.total = 1 := by
  obtain ⟨s', hrun⟩ := Sample.backup_nestedWorld 123
  obtain ⟨document, hload, hchannels, htotal⟩ := (written_backup_loads Disk.keeps_store
    (.backup (some "b.json")) (Sample.list_nestedWorld 123) (by decide)
    (List.forall_mem_singleton.mpr (Sample.nestedRow_stored 123))
    (List.forall_mem_singleton.mpr (Sample.nestedRow_floatsReadBack (by decide))) hrun).1
    (List.forall_mem_singleton.mpr (Sample.nesting_nestedRow (by decide)).le)
  exact ⟨_, s', document, hrun, hload, hchannels, htotal⟩

/-- An info of 125 containers: the backup is written and no document comes back. -/
theorem deep_backup_refused : ∃ file s',
    (Sample.nestedWorkspace.backup (some "b.json")).perform (Sample.nestedWorld 124) =
      (.ok file, s') ∧
    ∀ document s'',
      (Sample.nestedWorkspace.loadBackup file.path).perform s' ≠ (.ok document, s'') := by
  obtain ⟨s', hrun⟩ := Sample.backup_nestedWorld 124
  have hwritten := (perform_backup_some _ _ _).symm.trans hrun
  have hload := loadBackup_of_writeBackup Disk.keeps_store (Sample.list_nestedWorld 124) (by decide)
    (List.forall_mem_singleton.mpr (Sample.nestedRow_stored 124).wellFormed)
    (List.forall_mem_singleton.mpr (Sample.nestedRow_floatsReadBack (by decide))) hwritten
  have hdeep : ¬ ∀ c ∈ [Sample.nestedRow 124], c.info.nesting ≤ 124 := by
    rw [List.forall_mem_singleton, Sample.nesting_nestedRow (by decide)]
    decide
  rw [if_neg hdeep] at hload
  refine ⟨_, s', hrun, fun document s'' h => ?_⟩
  rw [Sample.nestedWorkspace, hload] at h
  cases h

end World

end ChannelKeeper

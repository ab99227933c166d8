import ChannelKeeper.Proofs.Store.SteadyTable
import ChannelKeeper.Proofs.Timed
import Mathlib.Data.Finset.Card

/-!
# What a restore leaves

A restore empties the table and adds the channels of a document under their own ids. A
channel whose id was there before it in the document is refused and counted, so the table
ends with the first channel of each id, which has all fields that there are columns for. If
the report names a file, this file has all rows that were there. The restore itself fails if
the table cannot be emptied, of which nothing is said; whether the rows can be listed and
written is left open.
-/

namespace ChannelKeeper

/-- For each id the rows have what is shown of the first channel with it, and nothing else. -/
def LeavesFirsts (shown : Channel → Channel) (channels rows : List Channel) : Prop :=
  ∀ id, rows.filter (fun row => row.id = id) =
    ((channels.find? fun c => c.id = id).map shown).toList

def idsOf (channels : List Channel) : Finset Int := (channels.map (·.id)).toFinset

section

variable {shown : Channel → Channel} {channels rows rows' : List Channel} {c : Channel}

theorem perm_toList {α : Type} {l : List α} {o : Option α} : l.Perm o.toList ↔ l = o.toList := by
  cases o with
  | none => exact List.perm_nil
  | some a => exact List.perm_singleton

theorem LeavesFirsts.nil : LeavesFirsts shown [] [] := fun _ => rfl

theorem LeavesFirsts.perm (h : LeavesFirsts shown channels rows) (hrows : rows'.Perm rows) :
    LeavesFirsts shown channels rows' := by
  intro id
  have hperm := hrows.filter fun row => decide (row.id = id)
  rw [h id] at hperm
  exact perm_toList.mp hperm

theorem LeavesFirsts.exists_row_iff (h : LeavesFirsts shown channels rows) (id : Int) :
    (∃ row ∈ rows, row.id = id) ↔ ∃ c ∈ channels, c.id = id := by
  have hrows : (rows.filter fun row => row.id = id) ≠ [] ↔ ∃ row ∈ rows, row.id = id := by
    simp [List.filter_eq_nil_iff]
  have hchannels : ((channels.find? fun c => c.id = id).map shown).toList ≠ [] ↔
      ∃ c ∈ channels, c.id = id := by
    simp [Option.toList_eq_nil_iff]
  rw [← hrows, h id, hchannels]

theorem LeavesFirsts.taken (h : LeavesFirsts shown channels rows)
    (htaken : ∃ old ∈ channels, old.id = c.id) : LeavesFirsts shown (channels ++ [c]) rows := by
  intro id
  rw [h id, List.find?_append]
  by_cases hid : c.id = id
  · obtain ⟨old, hold, heq⟩ := htaken
    have hsome : (channels.find? fun c => c.id = id).isSome :=
      List.find?_isSome.mpr ⟨old, hold, by simp [heq, hid]⟩
    rw [Option.or_of_isSome hsome]
  · simp [hid]

theorem LeavesFirsts.new (h : LeavesFirsts shown channels rows) (hid : (shown c).id = c.id)
    (hnew : ∀ old ∈ channels, old.id ≠ c.id) :
    LeavesFirsts shown (channels ++ [c]) (shown c :: rows) := by
  intro id
  rw [List.find?_append, List.filter_cons, h id, hid]
  by_cases heq : c.id = id
  · have hnone : (channels.find? fun c => c.id = id) = none := by
      simpa [← heq] using hnew
    simp [heq, hnone]
  · simp [heq]

theorem idsOf_concat (channels : List Channel) (c : Channel) :
    idsOf (channels ++ [c]) = insert c.id (idsOf channels) := by
  rw [idsOf, idsOf, List.map_append, List.toFinset_append, Finset.union_comm]
  rfl

theorem mem_idsOf {id : Int} : id ∈ idsOf channels ↔ ∃ c ∈ channels, c.id = id := by
  simp [idsOf]

end

-- ---------------------------------------------------------------------------
-- Adding the channels
-- ---------------------------------------------------------------------------

section

variable {σ φ : Type} {t : OwnIdTable σ} {tables : TableStore σ} {files : FileStore φ}
  {directory : String} {shown : Channel → Channel} {done : List Channel}
  {start r : RestoreReport} {s₀ s : Timed σ φ} {w : Workspace (Timed σ φ)}

/-- Where a restore is after these channels of the document. -/
structure RestoredSoFar (t : OwnIdTable σ) (shown : Channel → Channel) (done : List Channel)
    (start r : RestoreReport) (s₀ s : Timed σ φ) : Prop where
  takes : t.takes shown s.data
  rows : LeavesFirsts shown done (t.rows s.data)
  restored : r.restored = (idsOf done).card
  failed : r.restored + r.failed = done.length
  errors : r.errors.length = r.failed
  rest : r = { start with restored := r.restored, failed := r.failed, errors := r.errors }
  files : s.files = s₀.files

theorem RestoredSoFar.refuse (h : RestoredSoFar t shown done start r s₀ s) {c : Channel} {data : σ}
    (htaken : ∃ old ∈ done, old.id = c.id) (htakes : t.takes shown data)
    (hrows : (t.rows data).Perm (t.rows s.data)) (message : String) :
    RestoredSoFar t shown (done ++ [c]) start (r.recordFailure c message) s₀
      { s with data := data } where
  takes := htakes
  rows := (h.rows.taken htaken).perm hrows
  restored := by
    rw [idsOf_concat, Finset.insert_eq_of_mem (mem_idsOf.mpr htaken)]
    exact h.restored
  failed := by
    rw [List.length_append, ← h.failed]
    exact (Nat.add_assoc ..).symm
  errors := by simp [RestoreReport.recordFailure, h.errors]
  rest := by rw [h.rest]; rfl
  files := h.files

theorem RestoredSoFar.add (h : RestoredSoFar t shown done start r s₀ s) {c : Channel} {data : σ}
    (hnew : ¬∃ old ∈ done, old.id = c.id) (htakes : t.takes shown data)
    (hrows : (t.rows data).Perm (shown c :: t.rows s.data)) :
    RestoredSoFar t shown (done ++ [c]) start { r with restored := r.restored + 1 } s₀
      { s with data := data } where
  takes := htakes
  rows := (h.rows.new (t.shown_id h.takes c) (by simpa using hnew)).perm hrows
  restored := by
    rw [idsOf_concat, Finset.card_insert_of_notMem (mem_idsOf.not.mpr hnew), ← h.restored]
  failed := by
    rw [List.length_append, ← h.failed]
    exact Nat.add_right_comm ..
  errors := h.errors
  rest := by rw [h.rest]
  files := h.files

theorem RestoredSoFar.step (hw : w = Timed.workspace t.store tables files directory)
    (h : RestoredSoFar t shown done start r s₀ s) (c : Channel) :
    ∃ r' s', (w.restoreChannel r c).perform s = (.ok r', s') ∧
      RestoredSoFar t shown (done ++ [c]) start r' s₀ s' := by
  subst hw
  have hthere := h.rows.exists_row_iff c.id
  by_cases htaken : ∃ old ∈ done, old.id = c.id
  · obtain ⟨e, data, hinsert, htakes, hrows⟩ := t.insert_taken c h.takes (hthere.mpr htaken)
    refine ⟨_, _, ?_, h.refuse htaken htakes hrows e.message⟩
    rw [Workspace.restoreChannel, Action.perform_attempt_bind, Timed.perform_insert, hinsert]
    rfl
  · have hnew : ∀ row ∈ t.rows s.data, row.id ≠ c.id := by simpa using hthere.not.mpr htaken
    obtain ⟨id, data, hinsert, htakes, hrows⟩ := t.insert_new c h.takes hnew
    refine ⟨_, _, ?_, h.add htaken htakes hrows⟩
    rw [Workspace.restoreChannel, Action.perform_attempt_bind, Timed.perform_insert, hinsert]
    rfl

theorem RestoredSoFar.run (hw : w = Timed.workspace t.store tables files directory)
    (h : RestoredSoFar t shown done start r s₀ s) (rest : List Channel) :
    ∃ r' s', (Action.fold w.restoreChannel r rest).perform s = (.ok r', s') ∧
      RestoredSoFar t shown (done ++ rest) start r' s₀ s' := by
  induction rest generalizing done r s with
  | nil => exact ⟨r, s, rfl, by rwa [List.append_nil]⟩
  | cons c rest ih =>
    obtain ⟨r₁, s₁, hperform, hstep⟩ := h.step hw c
    obtain ⟨r', s', hrest, hrun⟩ := ih hstep
    refine ⟨r', s', ?_, by rwa [List.append_assoc] at hrun⟩
    rw [Action.perform_fold_cons hperform, hrest]

-- ---------------------------------------------------------------------------
-- The whole restore
-- ---------------------------------------------------------------------------

/-- A snapshot leaves the rows as they are. If it succeeds, its file has all of them. -/
theorem snapshot_of_takes (hw : w = Timed.workspace t.store tables files directory)
    (hfiles : files.Keeps) (h : t.takes shown s.data) (start source : String) :
    ∃ result s₁, (w.snapshot start source).perform s = (result, s₁) ∧
      t.takes shown s₁.data ∧ t.rows s₁.data = t.rows s.data ∧
      ∀ file, result = .ok file → file.path = s.savePath directory start ∧
        ∃ listed, listed.Perm (t.rows s.data) ∧
          ((files.read file.path).perform s₁.files).1 = .ok (s.saveText source listed) := by
  subst hw
  have htakes := t.list_takes s.data h
  have hrows := t.list_keeps s.data
  rcases hlist : (t.store.list .everything).perform s.data with ⟨e | listed, data⟩
  · rw [hlist] at htakes hrows
    refine ⟨_, _, Timed.perform_snapshot_unlisted start source hlist, htakes, hrows, ?_⟩
    rintro file ⟨⟩
  · rw [hlist] at htakes hrows
    refine ⟨_, _, Timed.perform_snapshot_listed start source hlist, htakes, hrows, ?_⟩
    intro file hfile
    rcases hwrite : (files.write (s.savePath directory start) (s.saveText source listed)).perform
      s.files with ⟨e | _, after⟩
    · rw [hwrite] at hfile
      cases hfile
    · rw [hwrite] at hfile
      cases hfile
      obtain ⟨-, hread⟩ := hfiles _ _ _ _ hwrite
      exact ⟨rfl, listed, t.list_ok hlist, congrArg Prod.fst hread⟩

theorem perform_restore {τ : Type} {w : Workspace τ} {s s₁ s₂ : τ} {n : Nat}
    {saved : Except ChannelError WrittenFile}
    (hsnapshot : (w.snapshot "pre_restore_backup" Backup.sourceFull).perform s = (saved, s₁))
    (hdelete : (Workspace.stored w.channels.deleteAll).perform s₁ = (.ok n, s₂))
    (document : Backup) : (w.restore document false).perform s =
      (Action.fold w.restoreChannel {
        total := document.channels.length
        snapshot := saved.toOption.map (·.path)
        deleted := n } document.channels).perform s₂ := by
  have hsaved : ((w.snapshot "pre_restore_backup" Backup.sourceFull).attempt :
      Workspace.Task _ _).perform s = (.ok saved, s₁) := by
    rw [Action.perform_attempt, hsnapshot]
  rw [Workspace.restore]
  simp only [Bool.false_eq_true, if_false]
  rw [Action.perform_bind_ok hsaved, Action.perform_bind_ok hdelete]
  cases saved <;> rfl

/-- A restore adds the channels of the document to the emptied table, however its snapshot
ends. -/
theorem exists_restored {saved : Except ChannelError WrittenFile} {s₁ : Timed σ φ}
    (hw : w = Timed.workspace t.store tables files directory)
    (hsnapshot : (w.snapshot "pre_restore_backup" Backup.sourceFull).perform s = (saved, s₁))
    (htakes : t.takes shown s₁.data) (document : Backup) :
    ∃ report s', (w.restore document false).perform s = (.ok report, s') ∧
      RestoredSoFar t shown document.channels {
        total := document.channels.length
        snapshot := saved.toOption.map (·.path)
        deleted := (t.rows s₁.data).length } report s₁ s' := by
  obtain ⟨n, data, hdelete, hempty⟩ := t.deleteAll_takes htakes
  obtain ⟨rfl, hnone⟩ := t.deleteAll_ok hdelete
  have hdeleted : (Workspace.stored w.channels.deleteAll).perform s₁ =
      (.ok (t.rows s₁.data).length, { s₁ with data := data }) := by
    rw [hw, Timed.perform_deleteAll, hdelete]
    rfl
  let start : RestoreReport := {
    total := document.channels.length
    snapshot := saved.toOption.map (·.path)
    deleted := (t.rows s₁.data).length }
  -- The run begins with no channel done, over the emptied table.
  have hstart : RestoredSoFar t shown [] start start s₁ { s₁ with data := data } := {
    takes := hempty
    rows := by
      show LeavesFirsts shown [] (t.rows data)
      rw [hnone]
      exact .nil
    restored := rfl
    failed := rfl
    errors := rfl
    rest := rfl
    files := rfl }
  obtain ⟨report, s', hfold, hend⟩ := hstart.run hw document.channels
  exact ⟨report, s', (perform_restore hsnapshot hdeleted document).trans hfold, hend⟩

/-- A dry run changes nothing. After a restore the table has the first channel of each id in
the document and nothing else, with the fields of the table's columns as they were, if it keeps
their values; an info that is nothing becomes an empty object where infos are texts. The report
counts the rows that were there, the ids of the document, and the channels that were refused,
and the file that it names has all rows that were there. -/
theorem restore_leaves_firsts (hfiles : files.Keeps) (h : t.takes shown s.data)
    (w : Workspace (Timed σ φ)) (hw : w = Timed.workspace t.store tables files directory)
    (document : Backup) :
    (w.restore document true).perform s =
        (.ok { total := document.channels.length, dryRun := true }, s) ∧
      ∃ report s', (w.restore document false).perform s = (.ok report, s') ∧
        t.takes shown s'.data ∧ LeavesFirsts shown document.channels (t.rows s'.data) ∧
        (∀ c ∈ document.channels, document.channels.find? (fun other => other.id = c.id) = some c →
          t.keeps s.data c → (t.rows s'.data).filter (fun row => row.id = c.id) =
            [(if t.fillsInfos then c.filled else c).limitedTo (t.columns s.data)]) ∧
        report.dryRun = false ∧ report.total = document.channels.length ∧
        report.deleted = (t.rows s.data).length ∧
        report.restored = (idsOf document.channels).card ∧
        report.restored + report.failed = report.total ∧
        report.errors.length = report.failed ∧
        ∀ path, report.snapshot = some path →
          path = s.savePath directory "pre_restore_backup" ∧
          ∃ listed, listed.Perm (t.rows s.data) ∧
            ((files.read path).perform s'.files).1 =
              .ok (s.saveText Backup.sourceFull listed) := by
  refine ⟨rfl, ?_⟩
  obtain ⟨saved, s₁, hsnapshot, htakes, hrows, hsaved⟩ :=
    snapshot_of_takes hw hfiles h "pre_restore_backup" Backup.sourceFull
  obtain ⟨report, s', hrestore, hend⟩ := exists_restored hw hsnapshot htakes document
  obtain ⟨htotal, hdryRun, hcount, hpath⟩ : report.total = document.channels.length ∧
      report.dryRun = false ∧ report.deleted = (t.rows s₁.data).length ∧
      report.snapshot = saved.toOption.map (·.path) := by
    rw [hend.rest]
    exact ⟨rfl, rfl, rfl, rfl⟩
  refine ⟨report, s', hrestore, hend.takes, hend.rows, fun c _ hfirst hkeeps => ?_, hdryRun,
    htotal, hrows ▸ hcount, hend.restored, hend.failed.trans htotal.symm, hend.errors, ?_⟩
  · rw [hend.rows c.id, hfirst, ← t.shown_eq h hkeeps]
    rfl
  intro path hnamed
  rw [hpath] at hnamed
  cases hresult : saved with
  | error e =>
    rw [hresult] at hnamed
    cases hnamed
  | ok file =>
    rw [hresult] at hnamed
    obtain rfl : file.path = path := Option.some.inj hnamed
    rw [hend.files]
    exact hsaved file hresult

end

namespace Sample

def timedWorkspace : Workspace (Timed MemoryStore MemoryFiles) :=
  Timed.workspace MemoryStore.channelStore (MemoryStore.tableStore '"') MemoryFiles.store "backups"

def timedWorld : Timed MemoryStore MemoryFiles where
  data := { channels := .ofRows [{ id := 1, name := "x" }, { id := 7, name := "y" }] }
  files := {}
  readings n := n

/-- Two channels of one id. -/
def repeatedIds : Backup :=
  Backup.ofChannels "now" Backup.sourceFull
    [{ id := 5, name := "a", key := "k" }, { id := 5, name := "b" }, { id := 1, name := "c" }]

theorem takes_timedWorld : MemoryStore.ownIdTable.takes id timedWorld.data := ⟨rfl, rfl, rfl⟩

open Relational (Database)

open Relational.Database.Sample (richChannel reduced_keepsInfo)

theorem richChannel_isStorable (id : Int) : (richChannel id).IsStorable where
  info := reduced_keepsInfo id (by decide)
  balance h := absurd (show (Binary64.ofDecimal false 125 (-1)).isZero = true from h)
    (by decide +kernel)

/-- A full table of two channels. -/
def fullDatabase : Database := .holding [richChannel 2, richChannel 7]

theorem fullDatabase_holds : fullDatabase.Holds [richChannel 2, richChannel 7] := by
  refine Database.holding_holds (by decide) fun row hrow => ?_
  simp only [List.mem_cons, List.not_mem_nil, or_false] at hrow
  rcases hrow with rfl | rfl
  · exact ⟨richChannel_isStorable 2, by decide⟩
  · exact ⟨richChannel_isStorable 7, by decide⟩

def fullWorld : Timed Database MemoryFiles where
  data := fullDatabase
  files := {}
  readings n := n

def fullWorkspace : Workspace (Timed Database MemoryFiles) :=
  Timed.workspace Database.channelStore Database.tableStore MemoryFiles.store "backups"

/-- Two channels of one id, and one without an info. -/
def richDocument : Backup :=
  Backup.ofChannels "now" Backup.sourceFull
    [richChannel 5, { id := 5, name := "b" }, { id := 1, name := "c" }]

end Sample

/-- In memory and in a full table, where the channel without an info gets an empty one. -/
theorem restore_leaves_firsts_sample :
    (∃ report s',
      (Sample.timedWorkspace.restore Sample.repeatedIds false).perform Sample.timedWorld =
        (.ok report, s') ∧
      LeavesFirsts id Sample.repeatedIds.channels s'.data.channels.rows ∧
      s'.data.channels.rows.filter (fun row => row.id = 5) =
        [{ id := 5, name := "a", key := "k" }] ∧
      report.deleted = 2 ∧ report.restored = 2 ∧ report.restored + report.failed = 3) ∧
    ∃ report s',
      (Sample.fullWorkspace.restore Sample.richDocument false).perform Sample.fullWorld =
        (.ok report, s') ∧
      s'.data.channels.filter (fun row => row.id = 5) =
        [Relational.Database.Sample.richChannel 5] ∧
      s'.data.channels.filter (fun row => row.id = 1) =
        [{ id := 1, name := "c", info := .object [] }] ∧
      report.deleted = 2 ∧ report.restored = 2 ∧ report.restored + report.failed = 3 := by
  constructor
  · obtain ⟨-, report, s', hrestore, -, hrows, -, -, htotal, hdeleted, hrestored, hfailed, -⟩ :=
      restore_leaves_firsts MemoryFiles.keeps_store Sample.takes_timedWorld Sample.timedWorkspace
        rfl Sample.repeatedIds
    exact ⟨report, s', hrestore, hrows, hrows 5, hdeleted, hrestored.trans (by decide),
      hfailed.trans htotal⟩
  · obtain ⟨shown, htakes⟩ := Sample.fullDatabase_holds.takes
    obtain ⟨-, report, s', hrestore, -, -, hfirsts, -, htotal, hdeleted, hrestored, hfailed, -⟩ :=
      restore_leaves_firsts (s := Sample.fullWorld) MemoryFiles.keeps_store htakes
        Sample.fullWorkspace rfl Sample.richDocument
    have hrich := Sample.richChannel_isStorable 5
    have hfive := hfirsts _ List.mem_cons_self rfl
      (Sample.fullDatabase_holds.keeps (.value hrich.info) hrich.balance)
    have hone := hfirsts { id := 1, name := "c" } (.tail _ (.tail _ (.head _))) rfl
      (Sample.fullDatabase_holds.keeps .null fun _ => rfl)
    have hcolumns : Relational.Database.ownIdTable.columns Sample.fullWorld.data =
      ChannelColumn.all.map (·.name) := Sample.fullDatabase_holds.columns_eq
    rw [hcolumns, Channel.limitedTo_all] at hfive hone
    have hrows : Sample.fullDatabase.channels.length = 2 :=
      Sample.fullDatabase_holds.perm.length_eq.symm
    exact ⟨report, s', hrestore, hfive, hone, hdeleted.trans hrows, hrestored.trans (by decide),
      hfailed.trans htotal⟩

/-- A full table without rows, after a restore of one channel that has no info. -/
def Sample.refilled : Except ChannelError RestoreReport × Timed Relational.Database MemoryFiles :=
  let document := Backup.ofChannels "now" Backup.sourceFull [{ id := 1, name := "c" }]
  (Sample.fullWorkspace.restore document false).perform { Sample.fullWorld with data := .holding [] }

/-- The channel is restored, and its row has an empty object for an info. -/
theorem restored_info_differs :
    Sample.refilled.1.toOption.map (fun report => (report.restored, report.failed)) = some (1, 0) ∧
    Sample.refilled.2.data.channels.map (fun row => (row.id, row.name, row.info.compact)) =
      [(1, "c", "\x7b\x7d")] ∧
    ({ id := 1, name := "c" } : Channel).info.compact = "null" := by
  decide +kernel

end ChannelKeeper

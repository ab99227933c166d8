import ChannelKeeper.Proofs.Backup.Restore
import ChannelKeeper.Proofs.Channel.Info
import ChannelKeeper.Proofs.Store.KeyedRows

/-!
# Infos of rows that are written as they were listed

A row that is listed and updated without a change, or restored from the listed rows, is
listed with its info as it was, where an empty object takes the place of nothing. The
`channels` table is keyed by its ids and keeps the texts in its column of infos. Of what
other fields become nothing is said here.
-/

namespace ChannelKeeper

open ChannelColumn (InfoStays infoOfCell infoStays_text infoText orEmpty readAll reread
  reread_infoOfCell)

def infosOf (id : Int) (channels : List Channel) : List Json.Value :=
  (channels.filter fun c => c.id = id).map (·.info)

theorem infosOf_map {α : Type} {f : α → Channel} {number : α → Int} {items : List α}
    (h : ∀ a ∈ items, (f a).id = number a) (id : Int) : infosOf id (items.map f) =
      (items.filter fun a => number a = id).map fun a => (f a).info := by
  have hfilter : (items.filter fun a => (f a).id = id) = items.filter fun a => number a = id :=
    List.filter_congr fun a ha => by rw [h a ha]
  rw [infosOf, List.filter_map, List.map_map, ← hfilter]
  rfl

theorem infosOf_leavesFirsts {shown : Channel → Channel} (h : LeavesFirsts shown channels rows)
    (id : Int) : infosOf id rows =
      ((channels.find? fun c => c.id = id).map fun c => (shown c).info).toList := by
  rw [infosOf, h id]
  cases channels.find? fun c => c.id = id <;> rfl

theorem DistinctIds.leavesFirsts (h : DistinctIds rows) : LeavesFirsts id rows rows := by
  induction rows with
  | nil => exact .nil
  | cons row rest ih =>
    intro n
    obtain ⟨hnew, hrest⟩ : row.id ∉ rest.map (·.id) ∧ DistinctIds rest := List.nodup_cons.mp h
    rw [List.filter_cons, List.find?_cons, ih hrest n]
    by_cases hid : row.id = n
    · have hnone : (rest.find? fun c => c.id = n) = none := by
        rw [List.find?_eq_none]
        intro other hother
        have hmem : other.id ∈ rest.map (·.id) := List.mem_map_of_mem hother
        have hne : other.id ≠ row.id := fun he => hnew (he ▸ hmem)
        simpa [← hid] using hne
      simp [hid, hnone]
    · simp [hid]

theorem ChannelColumn.sets_info (s : String) :
    Sets "channel_info" (.text s) fun c => { c with info := infoOfCell (some s) } :=
  .of_find rfl (fun _ _ => ⟨rfl, rfl⟩) (by simp [all, int, text, maybeInt, maybeText])

namespace Relational

namespace Table

variable {t : Table} {c : Channel} {r : Row}

/-- The table has a column of infos, which keeps texts as they are. -/
structure HoldsInfos (t : Table) : Prop where
  known : "channel_info" ∈ t.knownNames
  keeps : ∀ s, (Datum.text s).store (t.affinity "channel_info") = .text s

theorem HoldsInfos.info_readAll (h : t.HoldsInfos) {cells : String → Datum} {s : String}
    (hcell : cells "channel_info" = .text s) :
    (readAll cells t.knownColumns {}).info = infoOfCell (some s) := by
  rw [(ChannelColumn.sets_info s).readAll_eq t.knownColumns_subset h.known hcell]

theorem HoldsInfos.assignment?_info (h : t.HoldsInfos) (c : Channel) :
    assignment? (t.givenValues c) "channel_info" = some (.text (infoText c.info)) := by
  obtain ⟨column, hc, hn⟩ := List.mem_map.mp h.known
  have hgiven := assignment?_givenValues hc (by simp [hn]) c
  obtain rfl := ChannelColumn.eq_of_find rfl (t.knownColumns_subset hc) hn
  exact hgiven

theorem HoldsInfos.info_shown (h : t.HoldsInfos) (c : Channel) :
    (t.shown c).info = reread c.info := by
  refine h.info_readAll ?_
  rw [writtenCells, if_neg (by decide), h.assignment?_info c, Option.getD_some, h.keeps]

theorem HoldsInfos.info_assigned (h : t.HoldsInfos) (ht : t.ShowsChannels) (hr : r ∈ t.rows)
    (c : Channel) :
    (Database.channelOf t.knownColumns (Database.assigned t (t.givenValues c) r)).info =
      reread c.info := by
  refine h.info_readAll ?_
  obtain ⟨column, hc, hn⟩ := List.mem_map.mp h.known
  have hcell := ht.known r hr column hc
  rw [hn] at hcell
  exact (read_assigned_of_some t (h.assignment?_info c) hcell).trans (h.keeps _)

/-- The info of a listed row came from a cell. -/
theorem reread_listed (hc : c ∈ t.listed) (h : InfoStays c.info) :
    reread c.info = orEmpty c.info := by
  obtain ⟨r, -, rfl⟩ := List.mem_map.mp hc
  have hnone : ({} : Channel).info = infoOfCell none := rfl
  obtain ⟨cell, hcell⟩ := ChannelColumn.info_readAll r.read t.knownColumns_subset ⟨none, hnone⟩
  have hinfo : (Database.channelOf t.knownColumns r).info = infoOfCell cell := hcell
  rw [hinfo] at h ⊢
  exact reread_infoOfCell cell h

-- ---------------------------------------------------------------------------
-- Rows of an id
-- ---------------------------------------------------------------------------

theorem KeyedById.listed_eq (h : t.KeyedById) :
    t.listed = t.rows.map (Database.channelOf t.knownColumns) := by
  have hids : ∀ r ∈ t.rows, r.read "id" = .integer r.id := fun r hr => by
    rw [Row.read, h.numbers h.isKey r hr, Option.getD_some]
  rw [listed, Database.byId_eq hids h.ordered]

theorem KeyedById.distinctIds (h : t.KeyedById) : DistinctIds t.listed := by
  have hids : t.listed.map (·.id) = t.rows.map (·.id) := by
    rw [h.listed_eq, List.map_map]
    exact List.map_congr_left fun r hr => h.id_channelOf hr
  rw [DistinctIds, hids, List.nodup_iff_pairwise_ne]
  exact List.pairwise_map.mpr (h.ordered.imp Int.ne_of_lt)

theorem KeyedById.listed_withChannel (h : t.KeyedById) (c : Channel) :
    (t.withChannel c).listed = t.rows.map fun r => Database.channelOf t.knownColumns
      (if r.id = c.id then Database.assigned t (t.givenValues c) r else r) := by
  have hid : ∀ r, (if t.holds "id" (.integer c.id) r then
      Database.assigned t (t.givenValues c) r else r).read "id" = r.read "id" := by
    intro r
    split
    · exact read_assigned_of_none t (assignment?_givenValues_id t c) r
    · rfl
  have hids : ∀ r ∈ t.rows, r.read "id" = .integer r.id := fun r hr => by
    rw [Row.read, h.numbers h.isKey r hr, Option.getD_some]
  show (Database.byId (t.rows.map _)).map (Database.channelOf t.knownColumns) = _
  rw [Database.byId_map hid, Database.byId_eq hids h.ordered, List.map_map]
  refine List.map_congr_left fun r hr => ?_
  simp [h.holds_eq h.isKey hr]

theorem KeyedById.infosOf_withChannel (h : t.KeyedById) (hinfos : t.HoldsInfos)
    (hc : c ∈ t.listed) (hstays : InfoStays c.info) (id : Int) :
    infosOf id (t.withChannel c).listed =
      (infosOf id t.listed).map fun v => if id = c.id then orEmpty v else v := by
  have hchanged : ∀ r ∈ t.rows, (Database.channelOf t.knownColumns
      (if r.id = c.id then Database.assigned t (t.givenValues c) r else r)).id = r.id := by
    intro r hr
    split
    · refine ChannelColumn.shows_id.readAll t.knownColumns_subset h.mem_knownNames ?_ {}
      rw [read_assigned_of_none t (assignment?_givenValues_id t c), Row.read,
        h.numbers h.isKey r hr, Option.getD_some]
    · exact h.id_channelOf hr
  have hshown : ∀ r ∈ t.rows, (Database.channelOf t.knownColumns r).id = r.id :=
    fun r hr => h.id_channelOf hr
  rw [h.listed_withChannel, infosOf_map hchanged, h.listed_eq, infosOf_map hshown, List.map_map]
  refine List.map_congr_left fun r hmem => ?_
  obtain ⟨hr, rfl⟩ : r ∈ t.rows ∧ r.id = id := by simpa using hmem
  by_cases hrow : r.id = c.id
  · have hlisted : Database.channelOf t.knownColumns r ∈ t.listed := by
      rw [h.listed_eq]
      exact List.mem_map_of_mem hr
    have hsame : Database.channelOf t.knownColumns r = c :=
      List.inj_on_of_nodup_map h.distinctIds hlisted hc ((h.id_channelOf hr).trans hrow)
    rw [Function.comp_apply, if_pos hrow, if_pos hrow, hsame,
      hinfos.info_assigned h.toShowsChannels hr, reread_listed hc hstays]
  · rw [Function.comp_apply, if_neg hrow, if_neg hrow]

end Table

namespace Database

open Table (KeyedById HoldsInfos)

variable {φ : Type} {db : Database} {t : Table} {tables : TableStore Database}
  {files : FileStore φ} {directory : String}

/-- An info that came from a cell is written and read again as it was, with an empty object in
place of nothing, if its text gives it back, as each text does that is no JSON. So a row that is
listed and updated without a change is listed with its info as before, and so are all rows after
a restore of what was listed. -/
theorem info_written_back (hfind : db.find? channelTable = some t) (h : t.KeyedById)
    (hinfos : t.HoldsInfos) (hfiles : files.Keeps) (w : Workspace (Timed Database φ))
    (hw : w = Timed.workspace channelStore tables files directory) (s : Timed Database φ)
    (hs : s.data = db) :
    (∀ cell, InfoStays (infoOfCell cell) →
      infoOfCell (some (infoText (infoOfCell cell))) = orEmpty (infoOfCell cell)) ∧
    (∀ s, Text.isBlankText s = false → Json.Value.read? s = none →
      InfoStays (infoOfCell (some s))) ∧
    (channelStore.list .everything).perform db = (.ok t.listed, db) ∧
    (∀ c ∈ t.listed, InfoStays c.info → ∃ db' listed,
      (channelStore.update c).perform db = (.ok (), db') ∧
      (channelStore.list .everything).perform db' = (.ok listed, db') ∧
      ∀ id, infosOf id listed =
        (infosOf id t.listed).map fun v => if id = c.id then orEmpty v else v) ∧
    ∀ document : Backup, document.channels = t.listed → (∀ c ∈ t.listed, InfoStays c.info) →
      ∃ report s' listed, (w.restore document false).perform s = (.ok report, s') ∧
        (channelStore.list .everything).perform s'.data = (.ok listed, s'.data) ∧
        ∀ id, infosOf id listed = (infosOf id t.listed).map orEmpty := by
  have hlist := list_everything_eq hfind h.idColumn.column
  refine ⟨reread_infoOfCell, fun _ => infoStays_text, hlist, fun c hc hstays => ?_,
    fun document hdocument hstays => ?_⟩
  · have hthere : ∃ r ∈ t.rows, t.holds "id" (.integer c.id) r = true := by
      rw [h.listed_eq] at hc
      obtain ⟨r, hr, rfl⟩ := List.mem_map.mp hc
      exact ⟨r, hr, by rw [h.holds_eq h.isKey hr, h.id_channelOf hr, beq_self_eq_true]⟩
    have hupdated := updateChannel_eq hfind h.toShowsChannels hthere
      ⟨_, hinfos.known, by decide⟩
    have hfind' := find?_replace hfind (show (t.withChannel c).name = t.name from rfl)
    exact ⟨_, _, Action.perform_change_ok hupdated, list_everything_eq hfind' h.idColumn.column,
      h.infosOf_withChannel hinfos hc hstays⟩
  · have htakes : ownIdTable.takes t.shown s.data := ⟨t, hs ▸ hfind, h, rfl⟩
    obtain ⟨saved, s₁, hsnapshot, htakes, -⟩ :=
      snapshot_of_takes hw hfiles htakes "pre_restore_backup" Backup.sourceFull
    obtain ⟨report, s', hrestore, hend⟩ := exists_restored hw hsnapshot htakes document
    obtain ⟨t', hfind', h', -⟩ := hend.takes
    have hlisted : t'.listed.Perm s'.data.channels :=
      listedTable.list_ok (list_everything_eq hfind' h'.idColumn.column)
    refine ⟨report, s', _, hrestore, list_everything_eq hfind' h'.idColumn.column, fun id => ?_⟩
    rw [infosOf_leavesFirsts (hend.rows.perm hlisted), hdocument,
      infosOf_leavesFirsts h.distinctIds.leavesFirsts]
    cases hfound : t.listed.find? fun c => c.id = id with
    | none => rfl
    | some c =>
      have hc := List.mem_of_find?_eq_some hfound
      rw [Option.map_some, hinfos.info_shown, Table.reread_listed hc (hstays c hc)]
      rfl

namespace Sample

theorem reduced_keyedById : reduced.KeyedById :=
  { reduced_showsChannels with isKey := by decide }

theorem reduced_holdsInfos : reduced.HoldsInfos where
  known := by decide
  keeps _ := rfl

def reducedWorld : Timed Database MemoryFiles where
  data := reducedDatabase
  files := {}
  readings n := n

def reducedWorkspace : Workspace (Timed Database MemoryFiles) :=
  Timed.workspace channelStore tableStore MemoryFiles.store "backups"

theorem mem_listed_reduced : ({ id := 1 } : Channel) ∈ reduced.listed := by
  rw [reduced_keyedById.listed_eq]
  exact List.mem_map.mpr ⟨_, List.mem_cons_self, rfl⟩

theorem infosOf_reduced : infosOf 1 reduced.listed = [.null] := by
  rw [reduced_keyedById.listed_eq]
  rfl

end Sample

/-- Two rows without an info, one of which is updated as it was listed. -/
theorem info_written_back_sample : ∃ db' listed,
    (channelStore.update { id := 1 }).perform Sample.reducedDatabase = (.ok (), db') ∧
    (channelStore.list .everything).perform db' = (.ok listed, db') ∧
    infosOf 1 listed = [.object []] := by
  obtain ⟨-, -, -, hupdate, -⟩ := info_written_back Sample.find?_reduced Sample.reduced_keyedById
    Sample.reduced_holdsInfos MemoryFiles.keeps_store Sample.reducedWorkspace rfl
    Sample.reducedWorld rfl
  obtain ⟨db', listed, hupdated, hlisted, hinfos⟩ :=
    hupdate { id := 1 } Sample.mem_listed_reduced ChannelColumn.infoStays_null
  refine ⟨db', listed, hupdated, hlisted, ?_⟩
  rw [hinfos 1, Sample.infosOf_reduced]
  rfl

end Database

end Relational

end ChannelKeeper

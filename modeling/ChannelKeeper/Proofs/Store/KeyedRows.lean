import ChannelKeeper.Proofs.Store.OwnIdTable
import ChannelKeeper.Proofs.Store.ReadBack

/-!
# Rows of tables that are keyed by the id

A database whose `channels` table has the id as its key takes channels under their own
ids, and refuses an id that a row has. What a row then shows of a channel is what its
columns hold of it, which are its fields as they were if the columns store their values so
and its info is read back from its text. Nothing is said of tables without a key, which
refuse no id.
-/

namespace ChannelKeeper.Relational

namespace Table

variable {t : Table} {c : Channel} {r row : Row}

/-- A table of channels whose key is the id. -/
structure KeyedById (t : Table) : Prop extends t.ShowsChannels where
  isKey : t.isIdColumn "id" = true

-- ---------------------------------------------------------------------------
-- Ids
-- ---------------------------------------------------------------------------

theorem KeyedById.id_shown (h : t.KeyedById) (c : Channel) : (t.shown c).id = c.id :=
  ChannelColumn.shows_id.readAll t.knownColumns_subset h.mem_knownNames rfl {}

theorem KeyedById.id_channelOf (h : t.KeyedById) (hr : r ∈ t.rows) :
    (Database.channelOf t.knownColumns r).id = r.id := by
  refine ChannelColumn.shows_id.readAll t.knownColumns_subset h.mem_knownNames ?_ {}
  rw [Row.read, h.numbers h.isKey r hr, Option.getD_some]

-- ---------------------------------------------------------------------------
-- Fields
-- ---------------------------------------------------------------------------

theorem shown_written (hkeeps : t.Keeps c) (hinfo : "channel_info" ∈ t.knownNames →
      ChannelColumn.infoOfCell (some (ChannelColumn.infoText c.info)) = c.info) :
    t.shown c = c.limitedTo t.knownNames := by
  refine ChannelColumn.readAll_written t.knownColumns_subset hinfo fun column hc => ?_
  have hcell : t.writtenCells c column.name = column.write c := by
    rw [writtenCells]
    split
    · rename_i hid
      exact (write_id hc hid c).symm
    · rename_i hid
      rw [assignment?_givenValues hc hid, Option.getD_some, hkeeps column hc]
  rw [hcell]
  exact ChannelColumn.cast_write column (t.knownColumns_subset hc) c

theorem write_filled (c : Channel) :
    ∀ column ∈ ChannelColumn.all, column.write c.filled = column.write c := by
  simp only [ChannelColumn.all, ChannelColumn.int, ChannelColumn.text, ChannelColumn.maybeInt,
    ChannelColumn.maybeText, Channel.filled, ChannelColumn.infoText_orEmpty, List.forall_mem_cons,
    List.not_mem_nil, false_implies, implies_true, and_self]

/-- Nothing is written as an empty object is. -/
theorem shown_filled (t : Table) (c : Channel) : t.shown c.filled = t.shown c := by
  refine ChannelColumn.readAll_congr (fun column hc => ?_) {}
  by_cases hn : column.name = "id"
  · simp only [writtenCells, if_pos hn]
    rfl
  · simp only [writtenCells, if_neg hn, assignment?_givenValues hc hn,
      write_filled c column (t.knownColumns_subset hc)]

theorem Keeps.shown_eq (hkeeps : t.Keeps c)
    (hinfo : "channel_info" ∈ t.knownNames → ChannelColumn.InfoKept c.info) :
    t.shown c = c.filled.limitedTo t.knownNames := by
  have hfilled : t.Keeps c.filled := fun column hc => by
    rw [write_filled c column (t.knownColumns_subset hc)]
    exact hkeeps column hc
  rw [← t.shown_filled, shown_written hfilled fun hknown => ?_]
  show ChannelColumn.infoOfCell (some (ChannelColumn.infoText (ChannelColumn.orEmpty c.info))) =
    ChannelColumn.orEmpty c.info
  rw [ChannelColumn.infoText_orEmpty]
  exact (hinfo hknown).reread_eq

-- ---------------------------------------------------------------------------
-- Placing rows
-- ---------------------------------------------------------------------------

theorem placed_perm (row : Row) (rows : List Row) : (placed row rows).Perm (row :: rows) := by
  obtain ⟨before, after, hrows, hplaced⟩ := exists_placed row rows
  rw [hplaced, hrows]
  exact List.perm_middle

theorem pairwise_placed {rows : List Row} (h : rows.Pairwise fun r r' => r.id < r'.id)
    (hnew : ∀ r ∈ rows, r.id ≠ row.id) : (placed row rows).Pairwise fun r r' => r.id < r'.id := by
  induction rows with
  | nil => exact List.pairwise_singleton _ _
  | cons r rest ih =>
    obtain ⟨hr, hrest⟩ := List.pairwise_cons.mp h
    obtain ⟨hne, hnew⟩ := List.forall_mem_cons.mp hnew
    rw [placed]
    split
    · rename_i hlt
      refine List.pairwise_cons.mpr ⟨?_, h⟩
      rw [List.forall_mem_cons]
      exact ⟨hlt, fun other hother => Int.lt_trans hlt (hr other hother)⟩
    · rename_i hnot
      refine List.pairwise_cons.mpr ⟨fun other hother => ?_, ih hrest hnew⟩
      rcases List.mem_cons.mp ((placed_perm row rest).mem_iff.mp hother) with rfl | hother
      · omega
      · exact hr other hother

theorem KeyedById.isWritten_ownRow (h : t.KeyedById) (c : Channel) :
    t.IsWritten c (t.ownRow c.id c) where
  number := rfl
  id := by
    obtain ⟨column, hcolumn⟩ := Option.isSome_iff_exists.mp h.idColumn.column
    rw [ownRow, cell?_storedCells, hcolumn, Option.map_some, if_pos h.isKey]
  others column hc hn := by
    obtain ⟨found, hfound⟩ := Option.isSome_iff_exists.mp (column?_known hc)
    have hother : t.isIdColumn column.name = false := by
      rw [h.isIdColumn_iff hc, beq_false_of_ne hn, Bool.and_false]
    rw [ownRow, cell?_storedCells, hfound, Option.map_some, hother, allValues,
      assignment?_valuesOf t.knownColumns_subset hc]
    rfl

theorem KeyedById.placed (h : t.KeyedById) (hnew : ∀ r ∈ t.rows, r.id ≠ c.id) :
    KeyedById { t with rows := Table.placed (t.ownRow c.id c) t.rows } where
  idColumn := ⟨h.idColumn.column, h.idColumn.affinity⟩
  key := h.key
  ordered := pairwise_placed h.ordered hnew
  numbers := by
    intro hkey r hr
    rcases List.mem_cons.mp ((placed_perm _ _).mem_iff.mp hr) with rfl | hr
    · exact (h.isWritten_ownRow c).id
    · exact h.numbers hkey r hr
  known := by
    intro r hr column hc
    rcases List.mem_cons.mp ((placed_perm _ _).mem_iff.mp hr) with rfl | hr
    · obtain ⟨found, hfound⟩ := Option.isSome_iff_exists.mp (column?_known hc)
      have hcell := t.cell?_storedCells c.id (t.allValues c) column.name
      rw [show t.column? column.name = some found from hfound] at hcell
      rw [ownRow, hcell]
      rfl
    · exact h.known r hr column hc
  isKey := h.isKey

theorem KeyedById.emptied (h : t.KeyedById) : KeyedById { t with rows := [] } where
  idColumn := ⟨h.idColumn.column, h.idColumn.affinity⟩
  key := h.key
  ordered := .nil
  numbers _ r hr := by cases hr
  known r hr := by cases hr
  isKey := h.isKey

end Table

namespace Database

open Table (KeyedById)

variable {db : Database} {t : Table} {c : Channel}

theorem givenId_keyed (h : t.KeyedById) (c : Channel) :
    givenId t (t.allValues c) = .ok (some c.id) := by
  rw [givenId_allValues h.toShowsChannels, if_pos h.isKey]

theorem insertChannel_new (hfind : db.find? channelTable = some t) (h : t.KeyedById)
    (hnew : ∀ r ∈ t.rows, r.id ≠ c.id) :
    db.insertChannel c true = .ok (c.id, db.withRow t (t.ownRow c.id c)) := by
  refine insertChannel_of_number hfind h.toShowsChannels (.inl (givenId_keyed h c)) hnew ?_
  rw [Row.read, (h.isWritten_ownRow c).id]
  rfl

theorem insertChannel_taken (hfind : db.find? channelTable = some t) (h : t.KeyedById)
    (htaken : ∃ r ∈ t.rows, r.id = c.id) : ∃ e, db.insertChannel c true = .error e := by
  have hchecked : checkColumns t ((t.allValues c).map (·.1)) = .ok () :=
    checkColumns_eq fun name hn => by
      obtain ⟨v, hv, rfl⟩ := List.mem_map.mp hn
      exact column?_allValues t c v hv
  have hempty : (t.allValues c).isEmpty = false := by
    simpa using allValues_ne_nil h.toShowsChannels c
  have hany : t.rows.any (·.id == c.id) = true := by simpa using htaken
  have hrefused : ∃ e, db.insert channelTable (t.allValues c) = .error e := by
    simp [insert, find_eq_ok hfind, hempty, hchecked, givenId_keyed h c, hany, bind, Except.bind,
      pure, Except.pure, throw, throwThe, MonadExceptOf.throw]
  obtain ⟨e, he⟩ := hrefused
  rw [insertChannel_keepId hfind h.toShowsChannels, he]
  exact ⟨_, rfl⟩

theorem exists_channel_iff (hfind : db.find? channelTable = some t) (h : t.KeyedById) (id : Int) :
    (∃ row ∈ db.channels, row.id = id) ↔ ∃ r ∈ t.rows, r.id = id := by
  rw [channels_eq hfind]
  simp only [List.mem_map, exists_exists_and_eq_and]
  exact exists_congr fun r => and_congr_right fun hr => by rw [h.id_channelOf hr]

/-- The database as a table that takes rows under their own ids. -/
def ownIdTable : OwnIdTable Database where
  toListedTable := listedTable
  takes shown db := ∃ t, db.find? channelTable = some t ∧ t.KeyedById ∧ t.shown = shown
  shown_id := by
    rintro _ db ⟨t, -, h, rfl⟩ c
    exact h.id_shown c
  columns db := ((db.find? channelTable).map (·.knownNames)).getD []
  fillsInfos := true
  keeps db c := ∀ t, db.find? channelTable = some t →
    t.Keeps c ∧ ("channel_info" ∈ t.knownNames → ChannelColumn.InfoKept c.info)
  shown_eq := by
    rintro _ db c ⟨t, hfind, -, rfl⟩ hkeeps
    obtain ⟨hvalues, hinfo⟩ := hkeeps t hfind
    rw [hvalues.shown_eq hinfo, hfind]
    rfl
  list_takes _ h := h
  deleteAll_takes := by
    rintro _ db ⟨t, hfind, h, rfl⟩
    have hdeleted : reported (db.deleteAll channelTable) =
        .ok (t.rows.length, db.replace { t with rows := [] }) := by
      rw [deleteAll, find_eq_ok hfind]
      rfl
    refine ⟨_, _, Action.perform_change_ok hdeleted, _, ?_, h.emptied, rfl⟩
    exact find?_replace hfind rfl
  insert_new := by
    rintro _ db c ⟨t, hfind, h, rfl⟩ hnew
    have hrows : ∀ r ∈ t.rows, r.id ≠ c.id := by
      have hchannels : ¬∃ row ∈ db.channels, row.id = c.id := fun ⟨row, hrow, hid⟩ =>
        hnew row hrow hid
      simpa using (exists_channel_iff hfind h c.id).not.mp hchannels
    have hfind' := find?_withRow hfind (t.ownRow c.id c)
    refine ⟨_, _, Action.perform_change_ok (insertChannel_new hfind h hrows),
      ⟨_, hfind', h.placed hrows, rfl⟩, ?_⟩
    show (channels _).Perm (_ :: channels db)
    rw [channels_eq hfind, channels_eq hfind', ← (h.isWritten_ownRow c).channelOf_eq]
    exact (Table.placed_perm _ _).map _
  insert_taken := by
    rintro _ db c ⟨t, hfind, h, rfl⟩ ⟨row, hrow, hid⟩
    have htaken := (exists_channel_iff hfind h c.id).mp ⟨row, hrow, hid⟩
    obtain ⟨e, he⟩ := insertChannel_taken hfind h htaken
    exact ⟨e, db, Action.perform_change_eq_error.mpr ⟨he, rfl⟩, ⟨t, hfind, h, rfl⟩, .refl _⟩

end Database

end ChannelKeeper.Relational

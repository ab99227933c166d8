import ChannelKeeper.Proofs.Store.KeyedRows
import ChannelKeeper.Proofs.Store.ReadBack
import ChannelKeeper.Proofs.Store.RelationalRows

/-!
# Stores with room for rows

A `SteadyTable` is a store with a view of its rows and of the room for new ones. While
there is room, rows are found, added, replaced and listed without a failure, and a new
row takes up the room of one. Nothing is said of a store that has no room left.

A row of a full table, one with a column for every field, shows a channel as it was
written, if the info is read back and the balance is no minus zero, which the database
stores as zero. So a full table can hold any such channels, each under its own id. Nothing
is said of full tables from which rows were removed after they had their numbers.
-/

namespace ChannelKeeper

structure SteadyTable (σ : Type) extends FallibleTable σ where
  /-- There is room for so many new rows, and no call fails for another reason. -/
  hasRoom : σ → Nat → Prop
  sound : hasRoom s n → isSound s
  room_le : hasRoom s n → k ≤ n → hasRoom s k
  findExisting_room (name : String) (id : Int) : hasRoom s n →
    ∃ found s', (store.findExisting name id).perform s = (.ok found, s')
  insert_room (c : Channel) : hasRoom s (n + 1) →
    ∃ given s', (store.insert c false).perform s = (.ok given, s') ∧ hasRoom s' n
  update_room (c : Channel) : hasRoom s n → (∃ row ∈ rows s, row.id = c.id) →
    ∃ s', (store.update c).perform s = (.ok (), s') ∧ hasRoom s' n
  list_room : hasRoom s n → ∃ listed, (store.list .everything).perform s = (.ok listed, s) ∧
    listed.Perm (rows s) ∧ listed.Pairwise fun a b => a.id ≤ b.id

namespace SteadyTable

variable {σ τ : Type}

def onPart (t : SteadyTable σ) (get : τ → σ) (set : σ → τ → τ)
    (get_set : ∀ s w, get (set s w) = s) (set_get : ∀ w, set (get w) w = w) : SteadyTable τ where
  toFallibleTable := t.toFallibleTable.onPart get set get_set set_get
  hasRoom w n := t.hasRoom (get w) n
  sound h := t.sound h
  room_le h hk := t.room_le h hk
  findExisting_room := by
    intro w n name id h
    obtain ⟨found, s', hfind⟩ := t.findExisting_room name id h
    exact ⟨found, set s' w, Action.perform_onPart_eq_ok.mpr ⟨s', hfind, rfl⟩⟩
  insert_room := by
    intro w n c h
    obtain ⟨given, s', hinsert, hroom⟩ := t.insert_room c h
    refine ⟨given, set s' w, Action.perform_onPart_eq_ok.mpr ⟨s', hinsert, rfl⟩, ?_⟩
    rwa [get_set]
  update_room := by
    intro w n c h hc
    obtain ⟨s', hupdate, hroom⟩ := t.update_room c h hc
    refine ⟨set s' w, Action.perform_onPart_eq_ok.mpr ⟨s', hupdate, rfl⟩, ?_⟩
    rwa [get_set]
  list_room := by
    intro w n h
    obtain ⟨listed, hlist, hlisted⟩ := t.list_room h
    exact ⟨listed, Action.perform_onPart_eq_ok.mpr ⟨get w, hlist, set_get w⟩, hlisted⟩

def inWorld (t : SteadyTable σ) (φ : Type) : SteadyTable (World σ φ) :=
  t.onPart World.data (fun data w => { w with data := data }) World.data_set World.set_data

end SteadyTable

-- ---------------------------------------------------------------------------
-- Rows in memory
-- ---------------------------------------------------------------------------

namespace MemoryChannels

theorem takesRows_ofRows {rows : List Channel} (h : DistinctIds rows) :
    (ofRows rows).TakesRows where
  isDown := rfl
  failing := rfl
  failingLookups := rfl
  distinct := h
  below c hc := by
    have hid : c.id ∈ rows.map (·.id) := List.mem_map_of_mem hc
    obtain ⟨greatest, hgreatest⟩ := Option.isSome_iff_exists.mp (List.isSome_max?_of_mem hid)
    have hle : c.id ≤ greatest := (List.max?_eq_some_iff.mp hgreatest).2 c.id hid
    rw [ofRows, hgreatest]
    exact Int.lt_add_one_of_le hle

/-- In memory there is always room. -/
def steadyTable : SteadyTable MemoryChannels where
  toFallibleTable := fallibleTable
  hasRoom m _ := m.TakesRows
  sound h := h.numbered
  room_le h _ := h
  findExisting_room name id h :=
    ⟨_, _, Action.perform_ask_eq_ok.mpr ⟨h.findExisting_eq name id, rfl⟩⟩
  insert_room c h := ⟨_, _, Action.perform_change_ok (h.insert_eq c), h.insert c⟩
  update_room c h hc := ⟨_, Action.perform_change_ok (h.update_eq hc), h.update c⟩
  list_room := by
    intro m _ h
    have hlist : m.list .everything = .ok ((m.rows.filter ChannelFilter.everything.selects).mergeSort
        fun a b => a.id ≤ b.id) := by
      simp [list, checkUp, h.isDown, bind, Except.bind, pure, Except.pure]
    rw [List.filter_eq_self.mpr fun c _ => ChannelFilter.selects_everything c] at hlist
    refine ⟨_, Action.perform_ask_eq_ok.mpr ⟨hlist, rfl⟩, List.mergeSort_perm _ _, ?_⟩
    refine (List.pairwise_mergeSort (fun a b c hab hbc => ?_) (fun a b => ?_) m.rows).imp
      of_decide_eq_true
    · rw [decide_eq_true_iff] at *
      exact Int.le_trans hab hbc
    · rw [Bool.or_eq_true, decide_eq_true_iff, decide_eq_true_iff]
      exact Int.le_total a.id b.id

end MemoryChannels

def MemoryStore.steadyTable : SteadyTable MemoryStore :=
  MemoryChannels.steadyTable.onPart channels (fun channels s => { s with channels := channels })
    channels_set set_channels

-- ---------------------------------------------------------------------------
-- Rows in the embedded database
-- ---------------------------------------------------------------------------

namespace Relational

namespace Table

variable {t : Table}

theorem TakesChannels.showsChannels (h : t.TakesChannels) : t.ShowsChannels where
  idColumn := ⟨h.columns "id" (by simp), h.idAffinity ▸ rfl⟩
  key own hown := by
    have hnumbers := h.numbers
    rw [isIdColumn, hown, Option.any_some] at hnumbers
    rwa [Text.sameLetters_comm]
  ordered := h.ordered
  numbers _ r hr := (h.rows r hr).id
  known r hr := (h.rows r hr).known

end Table

namespace Database

variable {db : Database} {t : Table} {c : Channel}

theorem insertChannel_eq_fresh (hfind : db.find? channelTable = some t) (h : t.TakesChannels)
    (hroom : db.greatestNumber t < maxInteger) (c : Channel) :
    ∃ given db', db.insertChannel c false = .ok (given, db') := by
  have hcolumns : ∀ v ∈ t.givenValues c, (t.column? v.1).isSome := by
    intro v hv
    obtain ⟨column, hc, rfl⟩ := List.mem_map.mp hv
    exact Table.column?_known (Table.mem_givenColumns.mp hc).1
  have hne : t.givenValues c ≠ [] := by
    obtain ⟨column, hc, hname, -⟩ := h.nameColumn
    have hgiven : column ∈ t.knownColumns.filter (·.name != "id") :=
      Table.mem_givenColumns.mpr ⟨hc, by simp [hname]⟩
    simpa [Table.givenValues, valuesOf] using List.ne_nil_of_mem hgiven
  have hfresh : db.freshId t = .ok (db.greatestNumber t + 1) :=
    (freshId_eq_if db t).trans (if_pos hroom)
  have hinserted := insert_eq hfind hne hcolumns (.inr ⟨h.givenId_eq c, hfresh⟩)
    fun r hr => Int.ne_of_lt (id_lt_fresh db h.ordered r hr)
  rw [insertChannel, knownColumns_eq hfind (h.columns "id" (by simp))]
  exact ⟨_, _, bind_eq_ok.mpr ⟨_, rfl, bind_eq_ok.mpr ⟨_, reported_eq_ok.mpr hinserted, rfl⟩⟩⟩

theorem updateChannel_eq_there (hfind : db.find? channelTable = some t) (h : t.TakesChannels)
    (hthere : ∃ row ∈ db.channels, row.id = c.id) :
    db.updateChannel c = .ok ((), db.replace (t.withChannel c)) := by
  refine updateChannel_eq hfind h.showsChannels ?_ ⟨"name", h.mem_knownColumns (by simp), by simp⟩
  obtain ⟨row, hrow, hid⟩ := hthere
  rw [channels_eq hfind] at hrow
  obtain ⟨r, hr, rfl⟩ := List.mem_map.mp hrow
  refine ⟨r, hr, ?_⟩
  rw [h.holds_id hr, beq_iff_eq, ← h.id_channelOf hr, hid]

/-- There is room as long as there are numbers. -/
def steadyTable : SteadyTable Database where
  toFallibleTable := fallibleTable
  hasRoom db n := ∃ t, db.find? channelTable = some t ∧ t.TakesChannels ∧
    db.greatestNumber t + n ≤ maxInteger
  sound := by
    rintro db n ⟨t, hfind, h, -⟩
    exact ⟨t, hfind, h⟩
  room_le := by
    rintro db n k ⟨t, hfind, h, hroom⟩ hk
    exact ⟨t, hfind, h, by omega⟩
  findExisting_room name id := by
    rintro ⟨t, hfind, h, -⟩
    have hselected := selectChannels_eq hfind (knownColumns_eq hfind (h.columns "id" (by simp)))
      (isNamed name id)
    exact ⟨_, _, Action.perform_ask_eq_ok.mpr ⟨congrArg (Except.map List.head?) hselected, rfl⟩⟩
  insert_room c := by
    rintro ⟨t, hfind, h, hroom⟩
    obtain ⟨given, db', hinsert⟩ := insertChannel_eq_fresh hfind h (by omega) c
    obtain ⟨hfind', hnext⟩ := insertChannel_eq_ok hfind h hinsert
    refine ⟨given, db', Action.perform_change_ok hinsert, _, hfind',
      h.added (id_lt_fresh _ h.ordered) c, ?_⟩
    rw [hnext]
    omega
  update_room c := by
    rintro ⟨t, hfind, h, hroom⟩ hthere
    have hupdate := updateChannel_eq_there hfind h hthere
    obtain ⟨hfind', hnext⟩ := updateChannel_eq_ok hfind hupdate
    exact ⟨_, Action.perform_change_ok hupdate, _, hfind', h.withChannel c, hnext ▸ hroom⟩
  list_room := by
    rintro db n ⟨t, hfind, h, -⟩
    refine ⟨_, list_everything_eq hfind (h.columns "id" (by simp)), ?_, ?_⟩
    · show t.listed.Perm db.channels
      rw [channels_eq hfind, Table.listed, h.byId_rows]
    · rw [Table.listed, h.byId_rows, List.pairwise_map]
      refine h.ordered.imp_of_mem fun hr hr' hlt => ?_
      rw [h.id_channelOf hr, h.id_channelOf hr']
      exact Int.le_of_lt hlt

end Database

end Relational

-- ---------------------------------------------------------------------------
-- Tables with a column for every field
-- ---------------------------------------------------------------------------

/-- A full table can hold the channel as it is. -/
structure Channel.IsStorable (c : Channel) : Prop where
  info : ChannelColumn.InfoReadsBack c.info
  balance : c.balance.isZero = true → c.balance = .zero

theorem Channel.IsStorable.withId {c : Channel} (h : c.IsStorable) (id : Int) :
    Channel.IsStorable { c with id := id } := ⟨h.info, h.balance⟩

namespace Relational

/-- The affinity of a column that holds values of a kind. -/
def Affinity.ofKind : Sql.ValueKind → Affinity
  | .int => .integer
  | .float => .real
  | .text => .text

theorem store_write {c : Channel} (h : c.balance.isZero = true → c.balance = .zero) :
    ∀ column ∈ ChannelColumn.all,
      (column.write c).store (.ofKind column.kind) = column.write c := by
  have hint : ∀ n, (Datum.integer n).store (.ofKind .int) = .integer n := fun _ => rfl
  have htext : ∀ s, (Datum.text s).store (.ofKind .text) = .text s := fun _ => rfl
  have hmaybeInt : ∀ o : Option Int, (ChannelColumn.optionalInt o).store (.ofKind .int) =
      ChannelColumn.optionalInt o := by
    intro o
    cases o <;> rfl
  have hmaybeText : ∀ o : Option String, (ChannelColumn.optionalText o).store (.ofKind .text) =
      ChannelColumn.optionalText o := by
    intro o
    cases o <;> rfl
  have hfloat : (Datum.real c.balance).store (.ofKind .float) = .real c.balance := by
    show (if c.balance.isZero then Datum.real .zero else .real c.balance) = _
    split
    · rw [h ‹_›]
    · rfl
  simp only [ChannelColumn.all, ChannelColumn.int, ChannelColumn.text, ChannelColumn.maybeInt,
    ChannelColumn.maybeText, List.forall_mem_cons, hint, hfloat, htext, hmaybeInt, hmaybeText,
    List.not_mem_nil, false_implies, implies_true, and_self]

namespace Table

/-- A table of channels with all columns, each for values of its kind. -/
structure IsFull (t : Table) : Prop extends t.TakesChannels where
  known : ∀ column ∈ ChannelColumn.all, (t.column? column.name).isSome
  affinities : ∀ column ∈ ChannelColumn.all, t.affinity column.name = .ofKind column.kind

instance (t : Table) : Decidable t.IsFull :=
  decidable_of_iff
    (t.TakesChannels ∧ (∀ column ∈ ChannelColumn.all, (t.column? column.name).isSome) ∧
      ∀ column ∈ ChannelColumn.all, t.affinity column.name = .ofKind column.kind)
    ⟨fun ⟨h₁, h₂, h₃⟩ => ⟨h₁, h₂, h₃⟩, fun h => ⟨h.toTakesChannels, h.known, h.affinities⟩⟩

variable {t : Table} {c : Channel}

theorem IsFull.knownColumns_eq (h : t.IsFull) : t.knownColumns = ChannelColumn.all :=
  List.filter_eq_self.mpr fun column hc => by
    simpa [column?, List.find?_isSome] using h.known column hc

theorem IsFull.keeps (h : t.IsFull) (hbalance : c.balance.isZero = true → c.balance = .zero) :
    t.Keeps c := by
  intro column hcolumn
  have hall := t.knownColumns_subset hcolumn
  rw [h.affinities column hall]
  exact store_write hbalance column hall

theorem IsFull.shown_eq (h : t.IsFull) (hc : c.IsStorable) : t.shown c = c := by
  rw [shown_written (h.keeps hc.balance) fun _ => hc.info.infoOfCell, knownNames, h.knownColumns_eq,
    c.limitedTo_all]

/-- A full table takes a channel under a new id. -/
theorem IsFull.placed (h : t.IsFull) (hnew : ∀ r ∈ t.rows, r.id ≠ c.id) :
    IsFull { t with rows := Table.placed (t.ownRow c.id c) t.rows } where
  numbers := h.numbers
  columns := h.columns
  idAffinity := h.idAffinity
  nameAffinity := h.nameAffinity
  ordered := pairwise_placed h.ordered hnew
  rows r hr := by
    rcases List.mem_cons.mp ((placed_perm _ _).mem_iff.mp hr) with rfl | hr
    · have hwritten := KeyedById.isWritten_ownRow ⟨h.showsChannels, h.numbers⟩ c
      exact (hwritten.holdsChannel h.toTakesChannels).of_knownColumns rfl
    · exact (h.rows r hr).of_knownColumns rfl
  known := h.known
  affinities := h.affinities

end Table

namespace Database

variable {db : Database} {t : Table} {c : Channel} {rows : List Channel}

theorem lastId_mem (h : t.rows ≠ []) : ∃ r ∈ t.rows, r.id = lastId t :=
  ⟨t.rows.getLast h, List.getLast_mem h, by rw [lastId, List.getLast?_eq_some_getLast h]; rfl⟩

/-- A full table of these channels, which has given no number beyond theirs. -/
def Holds (db : Database) (rows : List Channel) : Prop :=
  ∃ t, db.find? channelTable = some t ∧ t.IsFull ∧
    (t.counts = true → db.counterOf t.name ≤ lastId t) ∧ rows.Perm db.channels

theorem Holds.perm (h : db.Holds rows) : rows.Perm db.channels := by
  obtain ⟨t, -, -, -, hrows⟩ := h
  exact hrows

theorem greatestNumber_eq_lastId (h : t.counts = true → db.counterOf t.name ≤ lastId t) :
    db.greatestNumber t = lastId t := by
  have hleast : (if t.rows.isEmpty then 0 else lastId t) = lastId t := by
    split
    · rename_i hempty
      rw [lastId, List.isEmpty_iff.mp hempty]
      rfl
    · rfl
  rw [greatestNumber, hleast]
  split
  · exact Int.max_eq_left (h ‹_›)
  · rfl

theorem Holds.nextId_eq (h : db.Holds rows) : (MemoryChannels.ofRows rows).nextId = db.nextId := by
  obtain ⟨t, hfind, hfull, hcounted, hrows⟩ := h
  have hids : (rows.map (·.id)).Perm (t.rows.map (·.id)) := by
    refine (hrows.map _).trans (.of_eq ?_)
    rw [channels_eq hfind, List.map_map]
    exact List.map_congr_left fun r hr => hfull.id_channelOf hr
  rw [Database.nextId_eq hfind, greatestNumber_eq_lastId hcounted]
  by_cases hnil : t.rows = []
  · rw [hnil] at hids
    rw [MemoryChannels.ofRows, List.perm_nil.mp hids, lastId, hnil]
    rfl
  · obtain ⟨last, hlast, hid⟩ := lastId_mem hnil
    have hgreatest : (rows.map (·.id)).max? = some (lastId t) := by
      rw [List.max?_eq_some_iff, hids.mem_iff]
      refine ⟨hid ▸ List.mem_map_of_mem hlast, fun id hid => ?_⟩
      obtain ⟨r, hr, rfl⟩ := List.mem_map.mp (hids.mem_iff.mp hid)
      exact id_le_lastId hfull.ordered hr
    rw [MemoryChannels.ofRows, hgreatest, Option.getD_some]

theorem Holds.takes (h : db.Holds rows) : ∃ shown, ownIdTable.takes shown db := by
  obtain ⟨t, hfind, hfull, -, -⟩ := h
  exact ⟨t.shown, t, hfind, ⟨hfull.showsChannels, hfull.numbers⟩, rfl⟩

theorem Holds.columns_eq (h : db.Holds rows) :
    ownIdTable.columns db = ChannelColumn.all.map (·.name) := by
  obtain ⟨t, hfind, hfull, -, -⟩ := h
  show ((db.find? channelTable).map (·.knownNames)).getD [] = _
  rw [hfind, Option.map_some, Option.getD_some, Table.knownNames, hfull.knownColumns_eq]

theorem Holds.keeps (h : db.Holds rows) (hinfo : ChannelColumn.InfoKept c.info)
    (hbalance : c.balance.isZero = true → c.balance = .zero) : ownIdTable.keeps db c := by
  obtain ⟨t, hfind, hfull, -, -⟩ := h
  intro t' hfind'
  cases hfind.symm.trans hfind'
  exact ⟨hfull.keeps hbalance, fun _ => hinfo⟩

theorem Holds.hasRoom {n : Nat} (h : db.Holds rows)
    (hroom : (MemoryChannels.ofRows rows).nextId + n ≤ maxInteger + 1) :
    steadyTable.hasRoom db n := by
  rw [h.nextId_eq] at hroom
  obtain ⟨t, hfind, hfull, -, -⟩ := h
  rw [Database.nextId_eq hfind] at hroom
  exact ⟨t, hfind, hfull.toTakesChannels, by omega⟩

theorem Holds.pairwise_channels (h : db.Holds rows) :
    db.channels.Pairwise fun a b => a.id < b.id := by
  obtain ⟨t, hfind, hfull, -, -⟩ := h
  rw [channels_eq hfind, List.pairwise_map]
  refine hfull.ordered.imp_of_mem fun hr hr' hlt => ?_
  rwa [hfull.id_channelOf hr, hfull.id_channelOf hr']

theorem Holds.distinct (h : db.Holds rows) : DistinctIds rows := by
  have hchannels : DistinctIds db.channels :=
    List.nodup_iff_pairwise_ne.mpr (List.pairwise_map.mpr (h.pairwise_channels.imp Int.ne_of_lt))
  exact hchannels.perm h.perm.symm

theorem Holds.shown_eq (h : db.Holds rows) (hc : c.IsStorable) : db.shown c = c := by
  obtain ⟨t, hfind, hfull, -, -⟩ := h
  rw [Database.shown_eq hfind, hfull.shown_eq hc]

-- ---------------------------------------------------------------------------
-- Channels that can be held
-- ---------------------------------------------------------------------------

theorem counterOf_withRow_le (hfind : db.find? channelTable = some t) (row : Row) {bound : Int}
    (hrow : row.id ≤ bound) (hcounted : db.counterOf t.name ≤ bound) (hbound : 0 ≤ bound)
    (h : t.counts = true) : (db.withRow t row).counterOf t.name ≤ bound := by
  have hother := sameLetters_counterTable hfind
  have hsame : (db.replace { t with rows := Table.placed row t.rows }).counterOf t.name =
      db.counterOf t.name :=
    counterOf_replace db { t with rows := Table.placed row t.rows } hother t.name
  rw [withRow, if_pos h]
  rcases counterOf_withCounter (db.replace { t with rows := Table.placed row t.rows }) t.name
    (max row.id (Database.counterOf _ t.name)) with hn | ⟨hn, -⟩
  · rw [hn, hsame]
    exact Int.max_le.mpr ⟨hrow, hcounted⟩
  · rwa [hn]

theorem Holds.insert (h : db.Holds rows) (hc : c.IsStorable) (hpos : 0 < c.id)
    (hnew : ∀ row ∈ rows, row.id ≠ c.id) :
    ∃ db', db.insertChannel c true = .ok (c.id, db') ∧ db'.Holds (rows ++ [c]) := by
  obtain ⟨t, hfind, hfull, hcounted, hrows⟩ := h
  have hkeyed : t.KeyedById := ⟨hfull.showsChannels, hfull.numbers⟩
  have hfree : ∀ r ∈ t.rows, r.id ≠ c.id := by
    have hchannels : ¬∃ row ∈ db.channels, row.id = c.id := by
      rintro ⟨row, hrow, hid⟩
      exact hnew row (hrows.mem_iff.mpr hrow) hid
    simpa using (exists_channel_iff hfind hkeyed c.id).not.mp hchannels
  have hfind' := find?_withRow hfind (t.ownRow c.id c)
  have hfull' := hfull.placed hfree
  refine ⟨_, insertChannel_new hfind hkeyed hfree, _, hfind', hfull', fun hcounts => ?_, ?_⟩
  · have hperm := Table.placed_perm (t.ownRow c.id c) t.rows
    have hrow := id_le_lastId hfull'.ordered (hperm.mem_iff.mpr List.mem_cons_self)
    have hlast := hpos.le.trans hrow
    refine counterOf_withRow_le hfind _ hrow ((hcounted hcounts).trans ?_) hlast hcounts
    by_cases hnil : t.rows = []
    · have hzero : lastId t = 0 := by
        rw [lastId, hnil]
        rfl
      rwa [hzero]
    · obtain ⟨r, hr, hid⟩ := lastId_mem hnil
      rw [← hid]
      exact id_le_lastId hfull'.ordered (hperm.mem_iff.mpr (List.mem_cons_of_mem _ hr))
  · rw [channels_eq hfind] at hrows
    rw [channels_eq hfind']
    refine (List.perm_append_singleton c rows).trans ((hrows.cons c).trans ?_)
    have hown : channelOf t.knownColumns (t.ownRow c.id c) = c :=
      (hkeyed.isWritten_ownRow c).channelOf_eq.trans (hfull.shown_eq hc)
    have hplaced := (Table.placed_perm (t.ownRow c.id c) t.rows).map (channelOf t.knownColumns)
    rw [List.map_cons, hown] at hplaced
    exact hplaced.symm

/-- A full table of some channels, with their own ids. -/
def holding (rows : List Channel) : Database :=
  rows.foldl (fun db c => ((db.insertChannel c true).toOption.map (·.2)).getD db)
    (createCounted {} channelTable "id" ChannelColumn.declarations)

theorem holds_empty :
    (createCounted {} channelTable "id" ChannelColumn.declarations).Holds [] := by
  refine ⟨_, rfl, by decide +kernel, fun _ => by decide, .refl _⟩

/-- Channels with distinct positive ids can be held, in whatever order they are added. -/
theorem holding_holds (hd : DistinctIds rows) (hrows : ∀ row ∈ rows, row.IsStorable ∧ 0 < row.id) :
    (holding rows).Holds rows := by
  induction rows using List.reverseRecOn with
  | nil => exact holds_empty
  | append_singleton rows c ih =>
    obtain ⟨hrows, hc⟩ := List.forall_mem_append.mp hrows
    obtain ⟨hstorable, hpos⟩ := hc c (List.mem_singleton_self c)
    rw [DistinctIds, List.map_append, List.nodup_append] at hd
    obtain ⟨hd, -, hother⟩ := hd
    have hnew : ∀ row ∈ rows, row.id ≠ c.id := fun row hrow =>
      hother row.id (List.mem_map_of_mem hrow) c.id (by simp)
    obtain ⟨db', hinsert, hholds⟩ := (ih hd hrows).insert hstorable hpos hnew
    rw [holding] at hinsert
    rw [holding, List.foldl_append, List.foldl_cons, List.foldl_nil, hinsert]
    exact hholds

end Database

end Relational

end ChannelKeeper

import ChannelKeeper.Proofs.Channel.Columns
import ChannelKeeper.Proofs.Store.KeyTable
import ChannelKeeper.Proofs.Store.Order

/-!
# The embedded database as a table of keys

Where the `channels` table has the columns that keys are kept by, with numbers in
the cells that hold numbers, the statements of the store list the rows that a
filter selects, and change the keys of one row and nothing else. Nothing is said
of tables with nulls in these cells.
-/

namespace ChannelKeeper

namespace Text

theorem sameLetters_comm (a b : String) : sameLetters a b = sameLetters b a := by
  rw [sameLetters, sameLetters, Bool.beq_comm]

theorem sameLetters_congr (h : sameLetters a b = true) (c : String) :
    sameLetters a c = sameLetters b c := by
  rw [sameLetters, beq_iff_eq] at h
  rw [sameLetters, sameLetters, h]

end Text

namespace Relational

open ChannelColumn (readAll)

/-- A table with channels in it: the columns that are needed, and in each row
their cells. -/
structure Table.HasChannels (t : Table) : Prop where
  keyColumn : (t.column? "key").isSome
  keyAffinity : t.affinity "key" = .text
  keyCell : ∀ r ∈ t.rows, (r.cell? "key").isSome
  columns : ∀ name ∈ ["id", "type", "status"], (t.column? name).isSome
  affinities : ∀ name ∈ ["id", "type", "status"], t.affinity name = .integer
  numbers : ∀ r ∈ t.rows, ∀ name ∈ ["id", "type", "status"],
    ((r.cell? name).bind ChannelColumn.int?).isSome

namespace Table

instance (t : Table) : Decidable t.HasChannels :=
  decidable_of_iff
    ((t.column? "key").isSome ∧ t.affinity "key" = .text ∧ (∀ r ∈ t.rows, (r.cell? "key").isSome) ∧
      (∀ name ∈ ["id", "type", "status"], (t.column? name).isSome) ∧
      (∀ name ∈ ["id", "type", "status"], t.affinity name = .integer) ∧
      ∀ r ∈ t.rows, ∀ name ∈ ["id", "type", "status"],
        ((r.cell? name).bind ChannelColumn.int?).isSome)
    ⟨fun ⟨h₁, h₂, h₃, h₄, h₅, h₆⟩ => ⟨h₁, h₂, h₃, h₄, h₅, h₆⟩,
      fun ⟨h₁, h₂, h₃, h₄, h₅, h₆⟩ => ⟨h₁, h₂, h₃, h₄, h₅, h₆⟩⟩

theorem HasChannels.cell {t : Table} (h : t.HasChannels) (hr : r ∈ t.rows) {name : String}
    (hn : name ∈ ["id", "type", "status"]) : ∃ n, r.cell? name = some (.integer n) := by
  obtain ⟨n, hn⟩ := Option.isSome_iff_exists.mp (h.numbers r hr name hn)
  obtain ⟨d, hd, hi⟩ := Option.bind_eq_some_iff.mp hn
  cases d with
  | integer m => exact ⟨m, hd⟩
  | null | real | text => cases hi

def knownColumns (t : Table) : List ChannelColumn :=
  ChannelColumn.all.filter fun c => t.columns.any fun l => Text.sameLetters l.name c.name

theorem knownColumns_subset (t : Table) : t.knownColumns ⊆ ChannelColumn.all :=
  fun _ h => List.mem_of_mem_filter h

theorem mem_knownColumns {t : Table} {name : String} (h : (t.column? name).isSome)
    (hn : name ∈ ChannelColumn.all.map (·.name)) : name ∈ t.knownColumns.map (·.name) := by
  obtain ⟨c, hc, rfl⟩ := List.mem_map.mp hn
  refine List.mem_map.mpr ⟨c, List.mem_filter.mpr ⟨hc, ?_⟩, rfl⟩
  simpa [column?, List.find?_isSome] using h

-- ---------------------------------------------------------------------------
-- Cells
-- ---------------------------------------------------------------------------

theorem column?_congr (t : Table) (h : Text.sameLetters a b = true) :
    t.column? a = t.column? b := by
  unfold column?
  congr 1
  funext c
  rw [Text.sameLetters_comm c.name a, Text.sameLetters_comm c.name b, Text.sameLetters_congr h]

theorem affinity_congr (t : Table) (h : Text.sameLetters a b = true) :
    t.affinity a = t.affinity b := by
  rw [affinity, affinity, column?_congr t h]

def assignment? (values : List (String × Datum)) (name : String) : Option Datum :=
  (values.find? fun (n, _) => Text.sameLetters n name).map (·.2)

theorem assignment?_congr (values : List (String × Datum)) (h : Text.sameLetters a b = true) :
    assignment? values a = assignment? values b := by
  unfold assignment?
  congr 2
  funext ⟨n, _⟩
  show Text.sameLetters n a = Text.sameLetters n b
  rw [Text.sameLetters_comm n a, Text.sameLetters_comm n b, Text.sameLetters_congr h]

def assignCell (t : Table) (values : List (String × Datum)) (cell : String × Datum) :
    String × Datum :=
  (cell.1, ((assignment? values cell.1).map (·.store (t.affinity cell.1))).getD cell.2)

theorem cells_assigned (t : Table) (values : List (String × Datum)) (r : Row) :
    (Database.assigned t values r).cells = r.cells.map (assignCell t values) := by
  refine List.map_congr_left fun cell _ => ?_
  obtain ⟨column, old⟩ := cell
  simp only [assignCell, assignment?]
  cases values.find? fun (n, _) => Text.sameLetters n column <;> rfl

theorem cell?_assigned (t : Table) (values : List (String × Datum)) (r : Row) (name : String) :
    (Database.assigned t values r).cell? name = (r.cell? name).map fun old =>
      ((assignment? values name).map (·.store (t.affinity name))).getD old := by
  have hnames : (fun cell : String × Datum => Text.sameLetters cell.1 name) ∘ assignCell t values =
      fun cell => Text.sameLetters cell.1 name := rfl
  rw [Row.cell?, Row.cell?, cells_assigned, List.find?_map, hnames]
  cases hf : r.cells.find? fun cell => Text.sameLetters cell.1 name with
  | none => rfl
  | some cell =>
    have hsame : Text.sameLetters cell.1 name = true := by simpa using List.find?_some hf
    simp [assignCell, assignment?_congr values hsame, affinity_congr t hsame]

theorem read_assigned_of_none (t : Table) {values : List (String × Datum)} {name : String}
    (h : assignment? values name = none) (r : Row) :
    (Database.assigned t values r).read name = r.read name := by
  rw [Row.read, cell?_assigned, h, Row.read]
  cases r.cell? name <;> rfl

theorem read_assigned_of_some (t : Table) {values : List (String × Datum)} {name : String} {r : Row}
    (h : assignment? values name = some value) (hc : (r.cell? name).isSome) :
    (Database.assigned t values r).read name = value.store (t.affinity name) := by
  obtain ⟨old, hold⟩ := Option.isSome_iff_exists.mp hc
  rw [Row.read, cell?_assigned, h, hold]
  rfl

-- ---------------------------------------------------------------------------
-- Rows as channels
-- ---------------------------------------------------------------------------

theorem assignment?_keyValues (key : String) (status : Option Int)
    (hc : column ∈ ChannelColumn.all) :
    assignment? (Database.keyValues key status) column.name =
      if column.name = "key" then some (.text key)
      else if column.name = "status" then status.map .integer else none := by
  have hname := fun name (hn : name ∈ ChannelColumn.all.map (·.name)) =>
    ChannelColumn.sameLetters_names name hn column.name (List.mem_map_of_mem hc)
  have hk : Text.sameLetters "key" column.name = (column.name == "key") :=
    (hname "key" (by decide)).trans BEq.comm
  have hs : Text.sameLetters "status" column.name = (column.name == "status") :=
    (hname "status" (by decide)).trans BEq.comm
  simp only [assignment?, Database.keyValues, List.find?_cons, hk]
  by_cases hkey : column.name = "key"
  · simp [hkey]
  · rw [if_neg hkey, beq_false_of_ne hkey]
    cases status with
    | none => simp
    | some status =>
      simp only [Option.map_some, Option.toList_some, List.find?_cons, hs]
      by_cases hstatus : column.name = "status"
      · simp [hstatus]
      · rw [if_neg hstatus, beq_false_of_ne hstatus]
        rfl

theorem read_assigned_keyValues {t : Table} (h : t.HasChannels) (hr : r ∈ t.rows) (key : String)
    (status : Option Int) (hc : column ∈ ChannelColumn.all) :
    (Database.assigned t (Database.keyValues key status) r).read column.name =
      if column.name = "key" then .text key
      else if column.name = "status" then (status.map Datum.integer).getD (r.read column.name)
      else r.read column.name := by
  have hassigned := assignment?_keyValues key status hc
  split
  · rename_i hk
    rw [if_pos hk] at hassigned
    rw [read_assigned_of_some t hassigned (hk ▸ h.keyCell r hr), hk, h.keyAffinity]
    rfl
  · rename_i hk
    rw [if_neg hk] at hassigned
    split
    · rename_i hs
      rw [if_pos hs] at hassigned
      cases status with
      | none => exact read_assigned_of_none t hassigned r
      | some status =>
        have hcell : (r.cell? column.name).isSome := by
          have hnumber : "status" ∈ ["id", "type", "status"] := by simp
          obtain ⟨n, hn⟩ := h.cell hr hnumber
          simp [hs, hn]
        rw [read_assigned_of_some t hassigned hcell, hs, h.affinities "status" (by simp)]
        rfl
    · rename_i hs
      rw [if_neg hs] at hassigned
      exact read_assigned_of_none t hassigned r

theorem channelOf_assigned {t : Table} (h : t.HasChannels) (hr : r ∈ t.rows) (key : String)
    (status : Option Int) :
    Database.channelOf t.knownColumns (Database.assigned t (Database.keyValues key status) r) =
      MemoryChannels.withKey key status (Database.channelOf t.knownColumns r) := by
  have hall := knownColumns_subset t
  have hkey := mem_knownColumns h.keyColumn (by decide)
  have hstatus := mem_knownColumns (h.columns "status" (by simp)) (by decide)
  have hread := fun column (hc : column ∈ t.knownColumns) =>
    read_assigned_keyValues h hr key status (hall hc)
  have hone : readAll (Function.update r.read "key" (.text key)) t.knownColumns {} =
      { Database.channelOf t.knownColumns r with key := key } :=
    (ChannelColumn.sets_key key).readAll_update hall hkey {}
  cases status with
  | none =>
    refine (ChannelColumn.readAll_congr (fun column hc => ?_) {}).trans hone
    rw [hread column hc, Function.update_apply]
    simp
  | some status =>
    calc
      _ = readAll (Function.update (Function.update r.read "key" (.text key)) "status"
            (.integer status)) t.knownColumns {} := by
        refine ChannelColumn.readAll_congr (fun column hc => ?_) {}
        rw [hread column hc, Function.update_apply, Function.update_apply]
        by_cases hk : column.name = "key" <;> simp [hk]
      _ = { readAll (Function.update r.read "key" (.text key)) t.knownColumns {} with
            status := status } :=
        (ChannelColumn.sets_status status).readAll_update hall hstatus {}
      _ = _ := by
        rw [hone]
        rfl

theorem holds_integer {t : Table} (h : t.HasChannels) (hr : r ∈ t.rows) {name : String}
    (hn : name ∈ ["id", "type", "status"]) {field : Channel → Int}
    (hs : ChannelColumn.Shows name field) (n : Int) :
    t.holds name (.integer n) r = (field (Database.channelOf t.knownColumns r) == n) := by
  have hknown : ∀ name ∈ ["id", "type", "status"], name ∈ ChannelColumn.all.map (·.name) := by
    decide
  obtain ⟨m, hm⟩ := h.cell hr hn
  have hread : r.read name = .integer m := by rw [Row.read, hm, Option.getD_some]
  have hfield : field (Database.channelOf t.knownColumns r) = m :=
    hs.readAll (knownColumns_subset t) (mem_knownColumns (h.columns name hn) (hknown name hn))
      hread _
  rw [holds, hread, h.affinities name hn, hfield]
  rfl

theorem passes_eq {t : Table} (h : t.HasChannels) (hr : r ∈ t.rows) (f : ChannelFilter) :
    Database.passes f t r = f.selects (Database.channelOf t.knownColumns r) := by
  have hid := holds_integer h hr (by simp) ChannelColumn.shows_id
  have hkind := holds_integer h hr (by simp) ChannelColumn.shows_kind
  have hstatus := holds_integer h hr (by simp) ChannelColumn.shows_status
  simp only [Database.passes, ChannelFilter.selects, hid, hkind, hstatus,
    List.contains_eq_any_beq]

end Table

-- ---------------------------------------------------------------------------
-- Rows with new cells
-- ---------------------------------------------------------------------------

/-- The table with new cells for the rows of an id. -/
def Database.withValues (t : Table) (id : Int) (values : List (String × Datum)) : Table :=
  { t with rows := t.rows.map fun r =>
      if t.holds "id" (.integer id) r then assigned t values r else r }

namespace Table

/-- New cells that hold numbers where numbers are held leave a table with channels in it. -/
theorem HasChannels.withValues {t : Table} (h : t.HasChannels) (id : Int)
    {values : List (String × Datum)} (hv : ∀ name ∈ ["id", "type", "status"], ∀ value,
      assignment? values name = some value → ∃ n, value = .integer n) :
    (Database.withValues t id values).HasChannels where
  keyColumn := h.keyColumn
  keyAffinity := h.keyAffinity
  keyCell r hr := by
    obtain ⟨old, hold, rfl⟩ := List.mem_map.mp hr
    split
    · rw [cell?_assigned, Option.isSome_map]
      exact h.keyCell old hold
    · exact h.keyCell old hold
  columns := h.columns
  affinities := h.affinities
  numbers r hr name hn := by
    obtain ⟨old, hold, rfl⟩ := List.mem_map.mp hr
    obtain ⟨n, hcell⟩ := h.cell hold hn
    split
    · rw [cell?_assigned, hcell, Option.map_some, h.affinities name hn]
      cases hvalue : assignment? values name with
      | none => rfl
      | some value =>
        obtain ⟨m, rfl⟩ := hv name hn value hvalue
        rfl
    · rw [hcell]
      rfl

/-- New cells that change the channel of each row change the channels of the id. -/
theorem channels_withValues {t : Table} (h : t.HasChannels) (id : Int)
    {values : List (String × Datum)} {change : Channel → Channel}
    (hchange : ∀ r ∈ t.rows, Database.channelOf t.knownColumns (Database.assigned t values r) =
      change (Database.channelOf t.knownColumns r)) :
    (Database.withValues t id values).rows.map (Database.channelOf t.knownColumns) =
      (t.rows.map (Database.channelOf t.knownColumns)).map fun c =>
        if c.id = id then change c else c := by
  rw [Database.withValues, List.map_map, List.map_map]
  refine List.map_congr_left fun r hr => ?_
  have hid := holds_integer h hr (by simp) ChannelColumn.shows_id id
  simp only [Function.comp_apply, hid, beq_iff_eq]
  split
  · exact hchange r hr
  · rfl

/-- The table after a new key, and a new status if one is given, for the rows of an id. -/
def withKeys (t : Table) (id : Int) (key : String) (status : Option Int) : Table :=
  { t with rows := t.rows.map fun r =>
      if t.holds "id" (.integer id) r then Database.assigned t (Database.keyValues key status) r
      else r }

theorem assignment?_number {name : String} (hn : name ∈ ["id", "type", "status"])
    (h : assignment? (Database.keyValues key status) name = some value) :
    ∃ n, value = .integer n := by
  have hknown : ∀ name ∈ ["id", "type", "status"],
      ∃ column ∈ ChannelColumn.all, column.name = name ∧ name ≠ "key" := by decide
  obtain ⟨column, hc, rfl, hne⟩ := hknown name hn
  rw [assignment?_keyValues key status hc, if_neg hne] at h
  split at h
  · obtain ⟨n, -, rfl⟩ := Option.map_eq_some_iff.mp h
    exact ⟨n, rfl⟩
  · cases h

theorem HasChannels.withKeys {t : Table} (h : t.HasChannels) (id : Int) (key : String)
    (status : Option Int) : (t.withKeys id key status).HasChannels :=
  h.withValues id fun _ hn _ => assignment?_number hn

theorem channels_withKeys {t : Table} (h : t.HasChannels) (id : Int) (key : String)
    (status : Option Int) :
    (t.withKeys id key status).rows.map (Database.channelOf t.knownColumns) =
      (t.rows.map (Database.channelOf t.knownColumns)).map fun c =>
        if c.id = id then MemoryChannels.withKey key status c else c :=
  channels_withValues h id fun _ hr => channelOf_assigned h hr key status

end Table

-- ---------------------------------------------------------------------------
-- Statements
-- ---------------------------------------------------------------------------

namespace Database

theorem sameLetters_replaced (t' : Table) (name : String) :
    (fun old : Table => Text.sameLetters old.name name) ∘
      (fun old : Table => if old.name == t'.name then t' else old) =
      fun old => Text.sameLetters old.name name := by
  funext old
  simp only [Function.comp_apply]
  split
  · rename_i he
    rw [eq_of_beq he]
  · rfl

theorem find?_replace {db : Database} {t' : Table} {name : String} (h : db.find? name = some t)
    (hn : t'.name = t.name) : (db.replace t').find? name = some t' := by
  rw [find?, replace, List.find?_map, sameLetters_replaced]
  rw [find?] at h
  simp [h, hn]

theorem find?_replace_of_ne {db : Database} {t' : Table} {name : String}
    (hn : Text.sameLetters t'.name name = false) : (db.replace t').find? name = db.find? name := by
  rw [find?, find?, replace, List.find?_map, sameLetters_replaced]
  cases hfind : db.tables.find? fun old => Text.sameLetters old.name name with
  | none => rfl
  | some old =>
    have hold : Text.sameLetters old.name name = true := by simpa using List.find?_some hfind
    have hne : (old.name == t'.name) = false := by
      refine beq_false_of_ne fun he => ?_
      rw [← he, hold] at hn
      cases hn
    rw [Option.map_some, hne]
    rfl

theorem knownColumns_eq {db : Database} (h : db.find? channelTable = some t)
    (hc : (t.column? name).isSome) : db.knownColumns = .ok t.knownColumns := by
  have hne : t.columns.isEmpty = false := by
    cases hcolumns : t.columns with
    | nil => simp [Table.column?, hcolumns] at hc
    | cons => rfl
  simp [knownColumns, columnsOf, h, hne, Table.knownColumns]

theorem selectChannels_eq {db : Database} (h : db.find? channelTable = some t)
    (hk : db.knownColumns = .ok t.knownColumns) (test : Table → Row → Bool) :
    db.selectChannels test =
      .ok ((byId (t.rows.filter (test t))).map (channelOf t.knownColumns)) := by
  simp [selectChannels, hk, select, find, h, reported, bind, Except.bind, pure, Except.pure,
    Except.mapError]

theorem list_perm {db : Database} (h : db.find? channelTable = some t) (hc : t.HasChannels)
    (f : ChannelFilter) : ∃ listed, db.selectChannels (passes f) = .ok listed ∧
      listed.Perm ((t.rows.map (channelOf t.knownColumns)).filter f.selects) := by
  have hfilter : t.rows.filter (passes f t) =
      t.rows.filter (f.selects ∘ channelOf t.knownColumns) :=
    List.filter_congr fun r hr => Table.passes_eq hc hr f
  refine ⟨_, selectChannels_eq h (knownColumns_eq h hc.keyColumn) (passes f), ?_⟩
  rw [List.filter_map, ← hfilter]
  exact (byId_perm _).map _

theorem updateById_values {db : Database} (h : db.find? channelTable = some t) (hc : t.HasChannels)
    {id : Int} {values : List (String × Datum)} (hne : values ≠ [])
    (hcolumns : ∀ x ∈ values, (t.column? x.1).isSome)
    (hid : ∃ c ∈ t.rows.map (channelOf t.knownColumns), c.id = id) :
    db.updateById id values = .ok ((), db.replace (withValues t id values)) := by
  have hnone : values.find? (fun (name, _) => (t.column? name).isNone) = none := by
    rw [List.find?_eq_none]
    intro x hx hisNone
    have hsome := hcolumns x hx
    simp_all
  have hchanged : (t.rows.filter (t.holds "id" (.integer id))).length ≠ 0 := by
    obtain ⟨c, hmem, rfl⟩ := hid
    obtain ⟨r, hr, rfl⟩ := List.mem_map.mp hmem
    have hholds := Table.holds_integer hc hr (by simp) ChannelColumn.shows_id
      (channelOf t.knownColumns r).id
    exact Nat.ne_of_gt (List.length_pos_of_mem (List.mem_filter.mpr ⟨hr, by simpa using hholds⟩))
  have hupdate : db.update channelTable values (fun t r => t.holds "id" (.integer id) r) =
      .ok ((t.rows.filter (t.holds "id" (.integer id))).length,
        db.replace (withValues t id values)) := by
    have hsome : values.isEmpty = false := by simpa using hne
    simp [update, find, h, hsome, hnone, bind, Except.bind, pure, Except.pure, withValues]
  simp [updateById, hupdate, reported, Except.mapError, bind, Except.bind, hchanged, pure,
    Except.pure]

theorem updateById_eq {db : Database} (h : db.find? channelTable = some t) (hc : t.HasChannels)
    {id : Int} (key : String) (status : Option Int)
    (hid : ∃ c ∈ t.rows.map (channelOf t.knownColumns), c.id = id) :
    db.updateById id (keyValues key status) = .ok ((), db.replace (t.withKeys id key status)) := by
  refine updateById_values h hc (List.cons_ne_nil _ _) ?_ hid
  have hkey := hc.keyColumn
  have hstatus := hc.columns "status" (by simp)
  cases status <;> simp_all [keyValues]

-- ---------------------------------------------------------------------------
-- Statements that succeed
-- ---------------------------------------------------------------------------

theorem reported_eq_ok {α : Type} {result : Except Fault α} {a : α} :
    reported result = .ok a ↔ result = .ok a := by
  cases result <;> simp [reported, Except.mapError]

theorem find_eq_ok {db : Database} {name : String} (h : db.find? name = some t) :
    db.find name = .ok t := by
  rw [find, h]

theorem knownColumns_eq_ok {db : Database} {columns : List ChannelColumn}
    (h : db.find? channelTable = some t) (hk : db.knownColumns = .ok columns) :
    columns = t.knownColumns := by
  rw [knownColumns, columnsOf, h] at hk
  dsimp only at hk
  split at hk <;> cases hk
  rfl

theorem selectChannels_eq_ok {db : Database} {test : Table → Row → Bool} {found : List Channel}
    (h : db.selectChannels test = .ok found) : ∃ t, db.find? channelTable = some t ∧
      found = (byId (t.rows.filter (test t))).map (channelOf t.knownColumns) := by
  have hselected := h
  rw [selectChannels] at h
  obtain ⟨columns, hk, -⟩ := bind_eq_ok.mp h
  cases hfind : db.find? channelTable with
  | none =>
    rw [knownColumns, columnsOf, hfind] at hk
    cases hk
  | some t =>
    obtain rfl := knownColumns_eq_ok hfind hk
    rw [selectChannels_eq hfind hk] at hselected
    cases hselected
    exact ⟨t, rfl, rfl⟩

def channels (db : Database) : List Channel :=
  ((db.find? channelTable).map fun t => t.rows.map (channelOf t.knownColumns)).getD []

theorem channels_eq {db : Database} (h : db.find? channelTable = some t) :
    db.channels = t.rows.map (channelOf t.knownColumns) := by
  rw [channels, h, Option.map_some, Option.getD_some]

/-- The database as a table of keys. -/
def keyTable : KeyTable Database where
  store := channelStore
  rows := channels
  isUp db := ∃ t, db.find? channelTable = some t ∧ t.HasChannels
  list_up f := by
    rintro ⟨t, h, hc⟩
    obtain ⟨listed, hlisted, hperm⟩ := list_perm h hc f
    refine ⟨listed, ?_, channels_eq h ▸ hperm⟩
    simp [channelStore, hlisted]
  updateKey_up id key status := by
    rintro ⟨t, h, hc⟩ - hid
    have hfind := find?_replace h (show (t.withKeys id key status).name = t.name from rfl)
    rw [channels_eq h] at hid ⊢
    refine ⟨_, Action.perform_change_ok (updateById_eq h hc key status hid),
      ⟨_, hfind, hc.withKeys id key status⟩, ?_⟩
    rw [channels_eq hfind]
    exact Table.channels_withKeys hc id key status

end Database

end Relational

end ChannelKeeper

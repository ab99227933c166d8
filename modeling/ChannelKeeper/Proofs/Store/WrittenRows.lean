import ChannelKeeper.Proofs.Store.FallibleTable
import ChannelKeeper.Proofs.Store.Relational

/-!
# Rows that channels are written to

Where the `channels` table numbers its rows by their id and has texts for names, a
statement gives a row a cell for every known column but the id, and what the row then
shows of the channel is what its columns can hold of it, under the same id and name.
Nothing is said of tables with nulls for names.
-/

namespace ChannelKeeper

open MemoryChannels (isMatch)

namespace Relational

open ChannelColumn (readAll)

namespace Table

-- ---------------------------------------------------------------------------
-- What a statement writes
-- ---------------------------------------------------------------------------

/-- What a statement gives for a channel: a value for every known column but the id. -/
def givenValues (t : Table) (c : Channel) : List (String × Datum) :=
  Database.valuesOf (t.knownColumns.filter (·.name != "id")) c

def writtenCells (t : Table) (c : Channel) (name : String) : Datum :=
  if name = "id" then .integer c.id
  else ((assignment? (t.givenValues c) name).getD .null).store (t.affinity name)

def shown (t : Table) (c : Channel) : Channel := readAll (t.writtenCells c) t.knownColumns {}

variable {t : Table} {c : Channel} {column : ChannelColumn}

theorem mem_givenColumns : column ∈ t.knownColumns.filter (·.name != "id") ↔
    column ∈ t.knownColumns ∧ column.name ≠ "id" := by
  rw [List.mem_filter, bne_iff_ne]

theorem sameLetters_knownColumn (hc : column ∈ t.knownColumns) {name : String}
    (hn : name ∈ ChannelColumn.all.map (·.name)) :
    Text.sameLetters column.name name = (column.name == name) :=
  ChannelColumn.sameLetters_names _ (List.mem_map_of_mem (t.knownColumns_subset hc)) name hn

theorem assignment?_valuesOf {columns : List ChannelColumn} (hsub : columns ⊆ ChannelColumn.all)
    (hc : column ∈ columns) (c : Channel) :
    assignment? (Database.valuesOf columns c) column.name = some (column.write c) := by
  have hfind : columns.find? ((fun value : String × Datum =>
      Text.sameLetters value.1 column.name) ∘ fun k => (k.name, k.write c)) = some column := by
    cases hfind : columns.find? _ with
    | none =>
      have hself := List.find?_eq_none.mp hfind column hc
      simp [Text.sameLetters] at hself
    | some k =>
      have hk := hsub (List.mem_of_find?_eq_some hfind)
      have hsame : Text.sameLetters k.name column.name = true := by
        simpa using List.find?_some hfind
      rw [ChannelColumn.sameLetters_names _ (List.mem_map_of_mem hk) _
        (List.mem_map_of_mem (hsub hc))] at hsame
      rw [ChannelColumn.eq_of_name hk (hsub hc) (eq_of_beq hsame)]
  rw [assignment?, Database.valuesOf, List.find?_map, hfind]
  rfl

theorem assignment?_givenValues (hc : column ∈ t.knownColumns) (hn : column.name ≠ "id")
    (c : Channel) : assignment? (t.givenValues c) column.name = some (column.write c) :=
  assignment?_valuesOf (fun _ hk => t.knownColumns_subset (List.mem_of_mem_filter hk))
    (mem_givenColumns.mpr ⟨hc, hn⟩) c

theorem assignment?_givenValues_id (t : Table) (c : Channel) :
    assignment? (t.givenValues c) "id" = none := by
  rw [assignment?, givenValues, Database.valuesOf, List.find?_map, Option.map_map,
    Option.map_eq_none_iff, List.find?_eq_none]
  intro k hk
  obtain ⟨hk, hn⟩ := mem_givenColumns.mp hk
  have hid : "id" ∈ ChannelColumn.all.map (·.name) := by decide
  have hsame := sameLetters_knownColumn hk hid
  rw [beq_false_of_ne hn] at hsame
  simp [hsame]

-- ---------------------------------------------------------------------------
-- Tables that take channels
-- ---------------------------------------------------------------------------

/-- A row of a channel: its number is its id, its name is a text, and it has a cell
for every known column. -/
structure HoldsChannel (t : Table) (r : Row) : Prop where
  id : r.cell? "id" = some (.integer r.id)
  name : ((r.cell? "name").bind ChannelColumn.text?).isSome
  known : ∀ column ∈ t.knownColumns, (r.cell? column.name).isSome

instance (t : Table) (r : Row) : Decidable (t.HoldsChannel r) :=
  decidable_of_iff
    (r.cell? "id" = some (.integer r.id) ∧ ((r.cell? "name").bind ChannelColumn.text?).isSome ∧
      ∀ column ∈ t.knownColumns, (r.cell? column.name).isSome)
    ⟨fun ⟨h₁, h₂, h₃⟩ => ⟨h₁, h₂, h₃⟩, fun ⟨h₁, h₂, h₃⟩ => ⟨h₁, h₂, h₃⟩⟩

/-- A table of such rows by number. -/
structure TakesChannels (t : Table) : Prop where
  numbers : t.isIdColumn "id" = true
  columns : ∀ name ∈ ["id", "name"], (t.column? name).isSome
  idAffinity : t.affinity "id" = .integer
  nameAffinity : t.affinity "name" = .text
  ordered : t.rows.Pairwise fun r r' => r.id < r'.id
  rows : ∀ r ∈ t.rows, t.HoldsChannel r

instance (t : Table) : Decidable t.TakesChannels :=
  decidable_of_iff
    (t.isIdColumn "id" = true ∧ (∀ name ∈ ["id", "name"], (t.column? name).isSome) ∧
      t.affinity "id" = .integer ∧ t.affinity "name" = .text ∧
      t.rows.Pairwise (fun r r' => r.id < r'.id) ∧ ∀ r ∈ t.rows, t.HoldsChannel r)
    ⟨fun ⟨h₁, h₂, h₃, h₄, h₅, h₆⟩ => ⟨h₁, h₂, h₃, h₄, h₅, h₆⟩,
      fun ⟨h₁, h₂, h₃, h₄, h₅, h₆⟩ => ⟨h₁, h₂, h₃, h₄, h₅, h₆⟩⟩

variable {r : Row}

theorem HoldsChannel.nameCell (h : t.HoldsChannel r) :
    ∃ name, r.cell? "name" = some (.text name) := by
  obtain ⟨name, hname⟩ := Option.isSome_iff_exists.mp h.name
  obtain ⟨d, hd, htext⟩ := Option.bind_eq_some_iff.mp hname
  cases d with
  | text own => exact ⟨own, hd⟩
  | null | integer | real => cases htext

theorem HoldsChannel.of_knownColumns {t' : Table} (h : t.HoldsChannel r)
    (hcolumns : t'.knownColumns = t.knownColumns) : t'.HoldsChannel r :=
  ⟨h.id, h.name, hcolumns ▸ h.known⟩

theorem TakesChannels.mem_knownColumns (h : t.TakesChannels) {name : String}
    (hn : name ∈ ["id", "name"]) : name ∈ t.knownColumns.map (·.name) := by
  have hknown : ∀ name ∈ ["id", "name"], name ∈ ChannelColumn.all.map (·.name) := by decide
  exact Table.mem_knownColumns (h.columns name hn) (hknown name hn)

theorem TakesChannels.id_readAll (h : t.TakesChannels) {cells : String → Datum}
    (hcell : cells "id" = .integer n) : (readAll cells t.knownColumns {}).id = n :=
  ChannelColumn.shows_id.readAll t.knownColumns_subset (h.mem_knownColumns (by simp)) hcell {}

theorem TakesChannels.name_readAll (h : t.TakesChannels) {cells : String → Datum} {name : String}
    (hcell : cells "name" = .text name) : (readAll cells t.knownColumns {}).name = name := by
  rw [(ChannelColumn.sets_name name).readAll_eq t.knownColumns_subset
    (h.mem_knownColumns (by simp)) hcell]

theorem TakesChannels.nameColumn (h : t.TakesChannels) : ∃ column ∈ t.knownColumns,
    column.name = "name" ∧ ∀ c, column.write c = .text c.name := by
  have hknown : "name" ∈ t.knownColumns.map (·.name) := h.mem_knownColumns (by simp)
  obtain ⟨column, hc, hname⟩ := List.mem_map.mp hknown
  exact ⟨column, hc, hname, ChannelColumn.write_name (t.knownColumns_subset hc) hname⟩

theorem TakesChannels.keepsNames (h : t.TakesChannels) : KeepsNames t.shown where
  id c := h.id_readAll rfl
  name c := by
    obtain ⟨column, hc, hname, hwrite⟩ := h.nameColumn
    have hgiven := assignment?_givenValues hc (by simp [hname]) c
    rw [hname, hwrite] at hgiven
    refine h.name_readAll ?_
    rw [writtenCells, if_neg (by simp), hgiven, h.nameAffinity]
    rfl

theorem TakesChannels.id_channelOf (h : t.TakesChannels) (hr : r ∈ t.rows) :
    (Database.channelOf t.knownColumns r).id = r.id :=
  h.id_readAll (by rw [Row.read, (h.rows r hr).id, Option.getD_some])

theorem TakesChannels.byId_rows (h : t.TakesChannels) : Database.byId t.rows = t.rows :=
  Database.byId_eq (fun r hr => by rw [Row.read, (h.rows r hr).id, Option.getD_some]) h.ordered

theorem TakesChannels.isNamed_eq (h : t.TakesChannels) (hr : r ∈ t.rows) (name : String)
    (id : Int) : Database.isNamed name id t r =
      isMatch name id (Database.channelOf t.knownColumns r) := by
  obtain ⟨own, hown⟩ := (h.rows r hr).nameCell
  have hname : r.read "name" = .text own := by rw [Row.read, hown, Option.getD_some]
  have hid : r.read "id" = .integer r.id := by
    rw [Row.read, (h.rows r hr).id, Option.getD_some]
  have hchannel : (Database.channelOf t.knownColumns r).name = own := h.name_readAll hname
  rw [isMatch, hchannel, h.id_channelOf hr, Database.isNamed, holds, holds, hname, hid,
    h.nameAffinity, h.idAffinity, Bool.and_comm]
  rfl

-- ---------------------------------------------------------------------------
-- Rows that statements write
-- ---------------------------------------------------------------------------

/-- A row with the cells that a statement writes for a channel. -/
structure IsWritten (t : Table) (c : Channel) (r : Row) : Prop where
  number : r.id = c.id
  id : r.cell? "id" = some (.integer r.id)
  others : ∀ column ∈ t.knownColumns, column.name ≠ "id" →
    r.cell? column.name = some ((column.write c).store (t.affinity column.name))

theorem IsWritten.channelOf_eq (hw : t.IsWritten c r) :
    Database.channelOf t.knownColumns r = t.shown c := by
  refine ChannelColumn.readAll_congr (fun column hc => ?_) {}
  rw [Row.read, writtenCells]
  split
  · rename_i hn
    rw [hn, hw.id, hw.number, Option.getD_some]
  · rename_i hn
    rw [hw.others column hc hn, assignment?_givenValues hc hn]
    rfl

theorem IsWritten.holdsChannel (hw : t.IsWritten c r) (h : t.TakesChannels) : t.HoldsChannel r where
  id := hw.id
  name := by
    obtain ⟨column, hc, hname, hwrite⟩ := h.nameColumn
    have hcell := hw.others column hc (by simp [hname])
    rw [hname, hwrite, h.nameAffinity] at hcell
    rw [hcell]
    rfl
  known column hc := by
    by_cases hn : column.name = "id"
    · rw [hn, hw.id]
      rfl
    · rw [hw.others column hc hn]
      rfl

theorem HoldsChannel.isWritten (hr : t.HoldsChannel r) (hid : r.id = c.id) :
    t.IsWritten c (Database.assigned t (t.givenValues c) r) where
  number := hid
  id := by
    rw [cell?_assigned, assignment?_givenValues_id, hr.id]
    rfl
  others column hc hn := by
    obtain ⟨old, hold⟩ := Option.isSome_iff_exists.mp (hr.known column hc)
    rw [cell?_assigned, hold, assignment?_givenValues hc hn]
    rfl

theorem isIdColumn_congr (t : Table) (h : Text.sameLetters a b = true) :
    t.isIdColumn a = t.isIdColumn b := by
  unfold isIdColumn
  congr 1
  funext other
  exact Text.sameLetters_congr h other

/-- A new row has a cell for each column of the table. -/
theorem cell?_storedCells (t : Table) (id : Int) (values : List (String × Datum)) (name : String) :
    (Row.mk id (Database.storedCells t id values)).cell? name = (t.column? name).map fun _ =>
      if t.isIdColumn name then .integer id
      else ((assignment? values name).getD .null).store (t.affinity name) := by
  rw [Row.cell?, Database.storedCells, List.find?_map, Option.map_map]
  show (t.column? name).map _ = (t.column? name).map _
  cases hcolumn : t.column? name with
  | none => rfl
  | some k =>
    have hsame : Text.sameLetters k.name name = true := by simpa using List.find?_some hcolumn
    rw [Option.map_some, Option.map_some, affinity, hcolumn, ← isIdColumn_congr t hsame,
      ← assignment?_congr values hsame]
    rfl

theorem TakesChannels.isIdColumn_eq (h : t.TakesChannels) (hc : column ∈ t.knownColumns)
    (hn : column.name ≠ "id") : t.isIdColumn column.name = false := by
  have hid : "id" ∈ ChannelColumn.all.map (·.name) := by decide
  have hnumbers := h.numbers
  rw [isIdColumn] at hnumbers ⊢
  cases hown : t.idColumn with
  | none => rfl
  | some own =>
    rw [hown, Option.any_some] at hnumbers
    rw [Option.any_some, Text.sameLetters_comm, ← Text.sameLetters_congr hnumbers,
      Text.sameLetters_comm, sameLetters_knownColumn hc hid, beq_false_of_ne hn]

theorem TakesChannels.givenId_eq (h : t.TakesChannels) (c : Channel) :
    Database.givenId t (t.givenValues c) = .ok none := by
  have hnone : (t.givenValues c).find? (fun value => t.isIdColumn value.1) = none := by
    rw [givenValues, Database.valuesOf, List.find?_map, Option.map_eq_none_iff, List.find?_eq_none]
    intro k hk
    obtain ⟨hk, hn⟩ := mem_givenColumns.mp hk
    simp [h.isIdColumn_eq hk hn]
  rw [Database.givenId, hnone]

def newRow (t : Table) (id : Int) (c : Channel) : Row :=
  ⟨id, Database.storedCells t id (t.givenValues c)⟩

theorem TakesChannels.isWritten_newRow (h : t.TakesChannels) (id : Int) (c : Channel) :
    t.IsWritten { c with id := id } (t.newRow id c) where
  number := rfl
  id := by
    obtain ⟨column, hcolumn⟩ := Option.isSome_iff_exists.mp (h.columns "id" (by simp))
    rw [newRow, cell?_storedCells, hcolumn, Option.map_some, if_pos h.numbers]
  others column hc hn := by
    have hthere : (t.column? column.name).isSome := by
      simpa [column?, List.find?_isSome] using (List.mem_filter.mp hc).2
    obtain ⟨found, hfound⟩ := Option.isSome_iff_exists.mp hthere
    rw [newRow, cell?_storedCells, hfound, Option.map_some, h.isIdColumn_eq hc hn,
      assignment?_givenValues hc hn,
      ChannelColumn.write_of_id id column (t.knownColumns_subset hc) hn]
    rfl

-- ---------------------------------------------------------------------------
-- Tables that statements leave
-- ---------------------------------------------------------------------------

def added (t : Table) (id : Int) (c : Channel) : Table :=
  { t with rows := t.rows ++ [t.newRow id c] }

def withChannel (t : Table) (c : Channel) : Table :=
  { t with rows := t.rows.map fun r =>
      if t.holds "id" (.integer c.id) r then Database.assigned t (t.givenValues c) r else r }

def channels (t : Table) : List Channel := t.rows.map (Database.channelOf t.knownColumns)

theorem TakesChannels.holds_id (h : t.TakesChannels) (hr : r ∈ t.rows) (id : Int) :
    t.holds "id" (.integer id) r = (r.id == id) := by
  rw [holds, Row.read, (h.rows r hr).id, h.idAffinity]
  rfl

theorem TakesChannels.added {id : Int} (h : t.TakesChannels) (hid : ∀ r ∈ t.rows, r.id < id)
    (c : Channel) :
    (t.added id c).TakesChannels where
  numbers := h.numbers
  columns := h.columns
  idAffinity := h.idAffinity
  nameAffinity := h.nameAffinity
  ordered := by
    refine List.pairwise_append.mpr ⟨h.ordered, List.pairwise_singleton _ _, fun r hr r' hr' => ?_⟩
    rw [List.mem_singleton.mp hr']
    exact hid r hr
  rows r hr := by
    rcases List.mem_append.mp hr with hr | hr
    · exact (h.rows r hr).of_knownColumns rfl
    · rw [List.mem_singleton.mp hr]
      exact ((h.isWritten_newRow id c).holdsChannel h).of_knownColumns rfl

theorem TakesChannels.channels_added (h : t.TakesChannels) (id : Int) (c : Channel) :
    (t.added id c).channels = t.channels ++ [t.shown { c with id := id }] := by
  rw [channels, channels, Table.added, List.map_append, List.map_singleton]
  exact congrArg _ (congrArg (fun d => [d]) (h.isWritten_newRow id c).channelOf_eq)

theorem TakesChannels.withChannel (h : t.TakesChannels) (c : Channel) :
    (t.withChannel c).TakesChannels where
  numbers := h.numbers
  columns := h.columns
  idAffinity := h.idAffinity
  nameAffinity := h.nameAffinity
  ordered := by
    refine List.pairwise_map.mpr (h.ordered.imp fun {r r'} hlt => ?_)
    split <;> split <;> exact hlt
  rows r hr := by
    obtain ⟨old, hold, rfl⟩ := List.mem_map.mp hr
    split
    · rename_i hholds
      rw [h.holds_id hold] at hholds
      have hwritten := (h.rows old hold).isWritten (eq_of_beq hholds)
      exact (hwritten.holdsChannel h).of_knownColumns rfl
    · exact (h.rows old hold).of_knownColumns rfl

theorem TakesChannels.channels_withChannel (h : t.TakesChannels) (c : Channel) :
    (t.withChannel c).channels =
      t.channels.map fun row => if row.id = c.id then t.shown c else row := by
  rw [channels, channels, Table.withChannel, List.map_map, List.map_map]
  refine List.map_congr_left fun r hr => ?_
  rw [Function.comp_apply, Function.comp_apply, h.holds_id hr, h.id_channelOf hr]
  by_cases hid : r.id = c.id
  · rw [if_pos (beq_iff_eq.mpr hid), if_pos hid]
    exact ((h.rows r hr).isWritten hid).channelOf_eq
  · rw [if_neg (by simpa using hid), if_neg hid]
    rfl

end Table

end Relational

end ChannelKeeper

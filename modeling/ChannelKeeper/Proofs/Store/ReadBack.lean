import ChannelKeeper.Proofs.Backup.Format
import ChannelKeeper.Proofs.Channel.Fields
import ChannelKeeper.Proofs.Store.AddressedTable

/-!
# Channels that are written and listed

Whatever known columns a table has besides the id, a channel that is added or updated
is listed with the fields of these columns as they are and the default in all others,
and the other rows are listed as before. A table may be keyed by the id or have no key.
Nothing is said of values that the database stores as other values, which is what it
makes of a minus zero, or of new ids that it chooses itself.
-/

namespace ChannelKeeper

namespace Relational

namespace Table

/-- A table of rows with a cell for every known column. Where it has a key, this is the
id, and ids are compared as numbers. -/
structure ShowsChannels (t : Table) : Prop where
  idColumn : t.ComparesIn "id"
  key : ∀ own, t.idColumn = some own → Text.sameLetters own "id" = true
  ordered : t.rows.Pairwise fun r r' => r.id < r'.id
  numbers : t.isIdColumn "id" = true → ∀ r ∈ t.rows, r.cell? "id" = some (.integer r.id)
  known : ∀ r ∈ t.rows, ∀ column ∈ t.knownColumns, (r.cell? column.name).isSome

/-- The values of a channel are stored as they are. -/
def Keeps (t : Table) (c : Channel) : Prop :=
  ∀ column ∈ t.knownColumns, (column.write c).store (t.affinity column.name) = column.write c

def knownNames (t : Table) : List String := t.knownColumns.map (·.name)

def listed (t : Table) : List Channel :=
  (Database.byId t.rows).map (Database.channelOf t.knownColumns)

/-- An info is written to a column of its own, if there is one. -/
def KeepsInfo (t : Table) (c : Channel) : Prop :=
  "channel_info" ∈ t.knownNames → ChannelColumn.InfoReadsBack c.info

variable {t : Table} {c : Channel} {r : Row} {column : ChannelColumn}

theorem write_id (hc : column ∈ t.knownColumns) (hn : column.name = "id") (c : Channel) :
    column.write c = .integer c.id := by
  obtain rfl := ChannelColumn.eq_of_find rfl (t.knownColumns_subset hc) hn
  rfl

/-- A row whose cells are read as the values of a channel shows its fields. -/
theorem channelOf_written (hinfo : t.KeepsInfo c)
    (hcells : ∀ column ∈ t.knownColumns,
      (r.read column.name).cast column.kind = column.write c) :
    Database.channelOf t.knownColumns r = c.limitedTo t.knownNames :=
  ChannelColumn.readAll_written t.knownColumns_subset (fun h => (hinfo h).infoOfCell) hcells

theorem column?_known (hc : column ∈ t.knownColumns) : (t.column? column.name).isSome := by
  simpa [column?, List.find?_isSome] using (List.mem_filter.mp hc).2

-- ---------------------------------------------------------------------------
-- Rows that are added
-- ---------------------------------------------------------------------------

def allValues (t : Table) (c : Channel) : List (String × Datum) :=
  Database.valuesOf t.knownColumns c

def ownRow (t : Table) (number : Int) (c : Channel) : Row :=
  ⟨number, Database.storedCells t number (t.allValues c)⟩

theorem ShowsChannels.isIdColumn_iff (h : t.ShowsChannels) (hc : column ∈ t.knownColumns) :
    t.isIdColumn column.name = (t.isIdColumn "id" && column.name == "id") := by
  have hid : "id" ∈ ChannelColumn.all.map (·.name) := by decide
  rw [isIdColumn, isIdColumn]
  cases hown : t.idColumn with
  | none => rfl
  | some own =>
    have hsame := h.key own hown
    rw [Option.any_some, Option.any_some, Text.sameLetters_comm "id", hsame, Bool.true_and,
      Text.sameLetters_comm, Text.sameLetters_congr hsame, Text.sameLetters_comm,
      sameLetters_knownColumn hc hid]

theorem ShowsChannels.cell?_ownRow (h : t.ShowsChannels) (hkeeps : t.Keeps c)
    (hc : column ∈ t.knownColumns) {number : Int}
    (hnumber : t.isIdColumn "id" = true → number = c.id) :
    (t.ownRow number c).cell? column.name = some (column.write c) := by
  obtain ⟨found, hfound⟩ := Option.isSome_iff_exists.mp (column?_known hc)
  rw [ownRow, cell?_storedCells, hfound, Option.map_some, allValues,
    assignment?_valuesOf t.knownColumns_subset hc, h.isIdColumn_iff hc]
  split
  · rename_i hkey
    rw [Bool.and_eq_true, beq_iff_eq] at hkey
    rw [write_id hc hkey.2, hnumber hkey.1]
  · rw [Option.getD_some, hkeeps column hc]

theorem ShowsChannels.mem_knownNames (h : t.ShowsChannels) : "id" ∈ t.knownNames :=
  mem_knownColumns h.idColumn.column (by decide)

theorem ShowsChannels.idKnown (h : t.ShowsChannels) :
    ∃ column ∈ t.knownColumns, column.name = "id" := List.mem_map.mp h.mem_knownNames

theorem ShowsChannels.channelOf_ownRow (h : t.ShowsChannels) (hkeeps : t.Keeps c)
    (hinfo : t.KeepsInfo c) {number : Int} (hnumber : t.isIdColumn "id" = true → number = c.id) :
    Database.channelOf t.knownColumns (t.ownRow number c) = c.limitedTo t.knownNames := by
  refine channelOf_written hinfo fun column hc => ?_
  rw [Row.read, h.cell?_ownRow hkeeps hc hnumber, Option.getD_some]
  exact ChannelColumn.cast_write column (t.knownColumns_subset hc) c

theorem ShowsChannels.holds_eq (h : t.ShowsChannels) (hkey : t.isIdColumn "id" = true)
    (hr : r ∈ t.rows) (id : Int) : t.holds "id" (.integer id) r = (r.id == id) := by
  rw [holds, Datum.matchesIn_integer h.idColumn.affinity, Row.read, h.numbers hkey r hr]
  rfl

theorem ShowsChannels.read_ownRow (h : t.ShowsChannels) (hkeeps : t.Keeps c) {number : Int}
    (hnumber : t.isIdColumn "id" = true → number = c.id) :
    (t.ownRow number c).read "id" = .integer c.id := by
  obtain ⟨column, hc, hn⟩ := h.idKnown
  have hcell := h.cell?_ownRow hkeeps hc hnumber
  rw [hn, write_id hc hn] at hcell
  rw [Row.read, hcell, Option.getD_some]

theorem ShowsChannels.holds_ownRow (h : t.ShowsChannels) (hkeeps : t.Keeps c) {number : Int}
    (hnumber : t.isIdColumn "id" = true → number = c.id) :
    t.holds "id" (.integer c.id) (t.ownRow number c) = true := by
  rw [holds, Datum.matchesIn_integer h.idColumn.affinity, h.read_ownRow hkeeps hnumber]
  exact beq_self_eq_true c.id

theorem exists_placed (row : Row) (rows : List Row) :
    ∃ before after, rows = before ++ after ∧ placed row rows = before ++ row :: after := by
  induction rows with
  | nil => exact ⟨[], [], rfl, rfl⟩
  | cons r rest ih =>
    rw [placed]
    split
    · exact ⟨[], r :: rest, rfl, rfl⟩
    · obtain ⟨before, after, hrest, hplaced⟩ := ih
      exact ⟨r :: before, after, by rw [hrest]; rfl, by rw [hplaced]; rfl⟩

-- ---------------------------------------------------------------------------
-- Rows that are changed
-- ---------------------------------------------------------------------------

theorem ShowsChannels.channelOf_assigned (h : t.ShowsChannels) (hkeeps : t.Keeps c)
    (hinfo : t.KeepsInfo c) (hr : r ∈ t.rows) (hholds : t.holds "id" (.integer c.id) r = true) :
    Database.channelOf t.knownColumns (Database.assigned t (t.givenValues c) r) =
      c.limitedTo t.knownNames := by
  refine channelOf_written hinfo fun column hc => ?_
  by_cases hn : column.name = "id"
  · rw [holds, Datum.matchesIn_integer h.idColumn.affinity] at hholds
    obtain rfl := ChannelColumn.eq_of_find rfl (t.knownColumns_subset hc) hn
    rw [hn, read_assigned_of_none t (assignment?_givenValues_id t c)]
    exact Datum.cast_of_equals hholds
  · rw [read_assigned_of_some t (assignment?_givenValues hc hn c) (h.known r hr column hc),
      hkeeps column hc]
    exact ChannelColumn.cast_write column (t.knownColumns_subset hc) c

end Table

namespace Database

open Table (ShowsChannels)

variable {db : Database} {t : Table} {c : Channel} {r : Row}

-- ---------------------------------------------------------------------------
-- Rows by id
-- ---------------------------------------------------------------------------

/-- A row that is put between others is listed between others, in the same order. -/
theorem byId_middle {before after : List Row} (h : r ∉ before ++ after) :
    ∃ first last, byId (before ++ after) = first ++ last ∧
      byId (before ++ r :: after) = first ++ r :: last := by
  have hmem : r ∈ byId (before ++ r :: after) :=
    (byId_perm _).mem_iff.mpr (List.mem_append_right _ List.mem_cons_self)
  obtain ⟨first, last, hlisted⟩ := List.append_of_mem hmem
  refine ⟨first, last, ?_, hlisted⟩
  have hperm : (first ++ last).Perm (before ++ after) := by
    have hlong := byId_perm (before ++ r :: after)
    rw [hlisted] at hlong
    exact (List.perm_middle.symm.trans (hlong.trans List.perm_middle)).cons_inv
  have hothers : ∀ {s : List Row}, r ∉ s → s.filter (fun other => decide (other ≠ r)) = s :=
    fun hs => List.filter_eq_self.mpr fun other ho => by
      rw [decide_eq_true_iff]
      rintro rfl
      exact hs ho
  have hdropped : ∀ {s u : List Row}, r ∉ s ++ u →
      (s ++ r :: u).filter (fun other => decide (other ≠ r)) = s ++ u := by
    intro s u hsu
    rw [List.filter_append, List.filter_cons_of_neg (by simp), ← List.filter_append, hothers hsu]
  rw [← hdropped h, byId_filter, hlisted, hdropped fun hm => h (hperm.mem_iff.mp hm)]

theorem byId_map {change : Row → Row} (h : ∀ r, (change r).read "id" = r.read "id")
    (rows : List Row) : byId (rows.map change) = (byId rows).map change :=
  (List.map_mergeSort fun a _ b _ => by rw [h a, h b]).symm

theorem list_everything_eq (hfind : db.find? channelTable = some t)
    (h : (t.column? "id").isSome) :
    (channelStore.list .everything).perform db = (.ok t.listed, db) := by
  have hlist := selectChannels_eq hfind (knownColumns_eq hfind h) (passes .everything)
  rw [List.filter_eq_self.mpr fun r _ => passes_everything t r] at hlist
  exact Action.perform_ask_eq_ok.mpr ⟨hlist, rfl⟩

-- ---------------------------------------------------------------------------
-- Statements
-- ---------------------------------------------------------------------------

theorem checkColumns_eq {names : List String} (h : ∀ name ∈ names, (t.column? name).isSome) :
    checkColumns t names = .ok () := by
  have hnone : names.find? (fun name => (t.column? name).isNone) = none := by
    rw [List.find?_eq_none]
    intro name hn
    simpa [Option.isSome_iff_ne_none] using h name hn
  rw [checkColumns, hnone]

def withRow (db : Database) (t : Table) (row : Row) : Database :=
  let db := db.replace { t with rows := Table.placed row t.rows }
  if t.counts then db.withCounter t.name (max row.id (db.counterOf t.name)) else db

theorem find?_withRow (hfind : db.find? channelTable = some t) (row : Row) :
    (db.withRow t row).find? channelTable =
      some { t with rows := Table.placed row t.rows } := by
  have hplaced := find?_replace hfind
    (show ({ t with rows := Table.placed row t.rows } : Table).name = t.name from rfl)
  rw [withRow]
  split
  · exact (find?_withCounter (by decide) _ _).trans hplaced
  · exact hplaced

theorem insert_eq {values : List (String × Datum)} (hfind : db.find? channelTable = some t)
    (hne : values ≠ []) (hcolumns : ∀ v ∈ values, (t.column? v.1).isSome) {number : Int}
    (hnumber : givenId t values = .ok (some number) ∨
      givenId t values = .ok none ∧ db.freshId t = .ok number)
    (hfree : ∀ r ∈ t.rows, r.id ≠ number) : db.insert channelTable values =
      .ok (number, db.withRow t ⟨number, storedCells t number values⟩) := by
  have hchecked : checkColumns t (values.map (·.1)) = .ok () :=
    checkColumns_eq fun name hn => by
      obtain ⟨v, hv, rfl⟩ := List.mem_map.mp hn
      exact hcolumns v hv
  have hempty : values.isEmpty = false := by simpa using hne
  have hnone : t.rows.any (·.id == number) = false := by simpa using hfree
  rcases hnumber with hgiven | ⟨hgiven, hfresh⟩
  · simp [insert, find_eq_ok hfind, hempty, hchecked, hgiven, hnone, bind, Except.bind, pure,
      Except.pure, withRow]
  · simp [insert, find_eq_ok hfind, hempty, hchecked, hgiven, hfresh, hnone, bind, Except.bind,
      pure, Except.pure, withRow]

/-- The number that the row of a new channel gets. -/
def newNumber (db : Database) (t : Table) (c : Channel) : Int :=
  if t.isIdColumn "id" then c.id else db.greatestNumber t + 1

theorem newNumber_eq {d : Database} (h : t.isIdColumn "id" = true) : d.newNumber t c = c.id :=
  if_pos h

theorem givenId_allValues (h : t.ShowsChannels) (c : Channel) :
    givenId t (t.allValues c) = .ok (if t.isIdColumn "id" then some c.id else none) := by
  have hfound : (t.allValues c).find? (fun v => t.isIdColumn v.1) =
      if t.isIdColumn "id" then some ("id", .integer c.id) else none := by
    rw [Table.allValues, valuesOf, List.find?_map]
    cases hfound : t.knownColumns.find? _ with
    | none =>
      obtain ⟨column, hc, hn⟩ := h.idKnown
      have hid := List.find?_eq_none.mp hfound column hc
      rw [Function.comp_apply, hn] at hid
      rw [if_neg hid]
      rfl
    | some column =>
      have hc := List.mem_of_find?_eq_some hfound
      have hkey : t.isIdColumn column.name = true := by simpa using List.find?_some hfound
      rw [h.isIdColumn_iff hc, Bool.and_eq_true, beq_iff_eq] at hkey
      rw [if_pos hkey.1, Option.map_some, hkey.2, Table.write_id hc hkey.2]
  rw [givenId, hfound]
  cases t.isIdColumn "id" <;> rfl

theorem newNumber_free {d : Database} (h : t.ShowsChannels)
    (hnew : ∀ r ∈ t.rows, t.holds "id" (.integer c.id) r = false) :
    ∀ r ∈ t.rows, r.id ≠ d.newNumber t c := by
  intro r hr he
  rw [newNumber] at he
  split at he
  · rename_i hkey
    have hnone := hnew r hr
    rw [h.holds_eq hkey hr, he, beq_self_eq_true] at hnone
    cases hnone
  · exact (id_lt_fresh d h.ordered r hr).ne he

theorem shownId_withRow (hfind : db.find? channelTable = some t) {row : Row} {id : Int}
    (hfree : ∀ r ∈ t.rows, r.id ≠ row.id) (hid : row.read "id" = .integer id) :
    (db.withRow t row).shownId row.id = id := by
  obtain ⟨before, after, hrows, hplaced⟩ := Table.exists_placed row t.rows
  have hfound : (Table.placed row t.rows).find? (·.id == row.id) = some row := by
    have hbefore : before.find? (·.id == row.id) = none := by
      rw [List.find?_eq_none]
      intro r hr
      simpa using hfree r (hrows ▸ List.mem_append_left _ hr)
    rw [hplaced, List.find?_append, hbefore, Option.none_or, List.find?_cons_of_pos (by simp)]
  rw [shownId, find?_withRow hfind, Option.bind_some, hfound, Option.bind_some, hid]
  rfl

theorem allValues_ne_nil (h : t.ShowsChannels) (c : Channel) : t.allValues c ≠ [] := by
  obtain ⟨column, hc, -⟩ := h.idKnown
  simpa [Table.allValues, valuesOf] using List.ne_nil_of_mem hc

theorem column?_allValues (t : Table) (c : Channel) :
    ∀ v ∈ t.allValues c, (t.column? v.1).isSome := by
  intro v hv
  obtain ⟨column, hc, rfl⟩ := List.mem_map.mp hv
  exact Table.column?_known hc

theorem insertChannel_keepId (hfind : db.find? channelTable = some t) (h : t.ShowsChannels)
    (c : Channel) : db.insertChannel c true =
      (reported (db.insert channelTable (t.allValues c))).map fun (number, db') =>
        (db'.shownId number, db') := by
  have hall : t.knownColumns.filter (fun k => true || k.name != "id") = t.knownColumns :=
    List.filter_eq_self.mpr fun _ _ => rfl
  rw [insertChannel, knownColumns_eq hfind h.idColumn.column]
  show (reported (db.insert channelTable (valuesOf (t.knownColumns.filter _) c))).bind _ = _
  rw [hall, Table.allValues]
  rcases reported (db.insert channelTable (valuesOf t.knownColumns c)) with _ | _ <;> rfl

theorem insertChannel_of_number (hfind : db.find? channelTable = some t) (h : t.ShowsChannels)
    {number : Int}
    (hnumber : givenId t (t.allValues c) = .ok (some number) ∨
      givenId t (t.allValues c) = .ok none ∧ db.freshId t = .ok number)
    (hfree : ∀ r ∈ t.rows, r.id ≠ number) (hid : (t.ownRow number c).read "id" = .integer c.id) :
    db.insertChannel c true = .ok (c.id, db.withRow t (t.ownRow number c)) := by
  have hinserted : db.insert channelTable (t.allValues c) =
      .ok (number, db.withRow t (t.ownRow number c)) :=
    insert_eq hfind (allValues_ne_nil h c) (column?_allValues t c) hnumber hfree
  have hshown : (db.withRow t (t.ownRow number c)).shownId number = c.id :=
    shownId_withRow hfind hfree hid
  rw [insertChannel_keepId hfind h, reported_eq_ok.mpr hinserted]
  exact congrArg (fun id => Except.ok (id, _)) hshown

theorem insertChannel_eq (hfind : db.find? channelTable = some t) (h : t.ShowsChannels)
    (hkeeps : t.Keeps c) (hnew : ∀ r ∈ t.rows, t.holds "id" (.integer c.id) r = false)
    (hroom : t.idColumn = none → db.greatestNumber t < maxInteger) :
    db.insertChannel c true =
      .ok (c.id, db.withRow t (t.ownRow (db.newNumber t c) c)) := by
  have hnumber : givenId t (t.allValues c) = .ok (some (db.newNumber t c)) ∨
      givenId t (t.allValues c) = .ok none ∧ db.freshId t = .ok (db.newNumber t c) := by
    rw [givenId_allValues h, newNumber]
    by_cases hkey : t.isIdColumn "id" = true
    · rw [if_pos hkey, if_pos hkey]
      exact .inl rfl
    · rw [if_neg hkey, if_neg hkey]
      have hnokey : t.idColumn = none := by
        cases hown : t.idColumn with
        | none => rfl
        | some own =>
          rw [Table.isIdColumn, hown, Option.any_some, Text.sameLetters_comm] at hkey
          exact absurd (h.key own hown) hkey
      exact .inr ⟨rfl, (freshId_eq_if db t).trans (if_pos (hroom hnokey))⟩
  exact insertChannel_of_number hfind h hnumber (newNumber_free h hnew)
    (h.read_ownRow hkeeps newNumber_eq)

/-- The row of a new channel shows it and stands between the other rows. -/
theorem listed_withRow (h : t.ShowsChannels) (hkeeps : t.Keeps c) (hinfo : t.KeepsInfo c)
    (hnew : ∀ r ∈ t.rows, t.holds "id" (.integer c.id) r = false) {row : Row}
    (hrow : row = t.ownRow (db.newNumber t c) c) {t' : Table}
    (ht' : t' = { t with rows := Table.placed row t.rows }) :
    (∃ first last, t.rows = first ++ last ∧ t'.rows = first ++ row :: last) ∧
    ∃ before after, t.listed = before ++ after ∧
      t'.listed = before ++ c.limitedTo t.knownNames :: after := by
  subst ht' hrow
  obtain ⟨first, last, hrows, hplaced⟩ := Table.exists_placed (t.ownRow (db.newNumber t c) c) t.rows
  have hother : t.ownRow (db.newNumber t c) c ∉ first ++ last := by
    intro hm
    have hnone := hnew _ (hrows ▸ hm)
    rw [h.holds_ownRow hkeeps newNumber_eq] at hnone
    cases hnone
  obtain ⟨before, after, hold, hlisted⟩ := byId_middle hother
  refine ⟨⟨first, last, hrows, hplaced⟩, before.map (channelOf t.knownColumns),
    after.map (channelOf t.knownColumns), ?_, ?_⟩
  · rw [Table.listed, hrows, hold, List.map_append]
  · have hown := h.channelOf_ownRow hkeeps hinfo (newNumber_eq (d := db))
    rw [Table.listed, hplaced, hlisted, List.map_append, List.map_cons]
    exact hown ▸ rfl

theorem updateChannel_eq (hfind : db.find? channelTable = some t) (h : t.ShowsChannels)
    (hthere : ∃ r ∈ t.rows, t.holds "id" (.integer c.id) r = true)
    (hother : ∃ name ∈ t.knownNames, name ≠ "id") :
    db.updateChannel c = .ok ((), db.replace (t.withChannel c)) := by
  have hempty : (t.givenValues c).isEmpty = false := by
    obtain ⟨_, hname, hn⟩ := hother
    obtain ⟨column, hc, rfl⟩ := List.mem_map.mp hname
    have hne := List.ne_nil_of_mem (Table.mem_givenColumns.mpr ⟨hc, hn⟩)
    simpa [Table.givenValues, valuesOf] using hne
  have hcolumns : (t.givenValues c).find? (fun v => (t.column? v.1).isNone) = none := by
    rw [List.find?_eq_none]
    intro v hv
    obtain ⟨column, hc, rfl⟩ := List.mem_map.mp hv
    simpa [Option.isSome_iff_ne_none] using Table.column?_known (Table.mem_givenColumns.mp hc).1
  have hupdated : db.update channelTable (t.givenValues c)
      (fun t r => t.holds "id" (.integer c.id) r) =
        .ok ((t.rows.filter (t.holds "id" (.integer c.id))).length, db.replace (t.withChannel c)) := by
    simp [update, find_eq_ok hfind, hempty, hcolumns, bind, Except.bind, pure, Except.pure,
      Table.withChannel]
  have hchanged : (t.rows.filter (t.holds "id" (.integer c.id))).length ≠ 0 := by
    obtain ⟨r, hr, hholds⟩ := hthere
    exact Nat.ne_of_gt (List.length_pos_of_mem (List.mem_filter.mpr ⟨hr, hholds⟩))
  rw [updateChannel, knownColumns_eq hfind h.idColumn.column]
  refine bind_eq_ok.mpr ⟨_, rfl, ?_⟩
  rw [updateById]
  exact bind_eq_ok.mpr ⟨_, reported_eq_ok.mpr hupdated, if_neg hchanged⟩

/-- Without another column there is nothing to set, and the statement is not understood. -/
theorem updateChannel_of_onlyId (hfind : db.find? channelTable = some t) (h : t.ShowsChannels)
    (honly : ∀ name ∈ t.knownNames, name = "id") (c : Channel) : db.updateChannel c =
      .error (.query
        "error returned from database: (code: 1) near \"WHERE\": syntax error") := by
  have hnone : t.knownColumns.filter (fun k => k.name != "id") = [] := by
    rw [List.filter_eq_nil_iff]
    intro column hc
    simp [honly _ (List.mem_map_of_mem hc)]
  rw [updateChannel, knownColumns_eq hfind h.idColumn.column]
  show db.updateById c.id (valuesOf (t.knownColumns.filter fun k => k.name != "id") c) = _
  rw [hnone, updateById, update, find_eq_ok hfind]
  rfl

theorem listed_withChannel (h : t.ShowsChannels) (hkeeps : t.Keeps c) (hinfo : t.KeepsInfo c) :
    (t.withChannel c).listed = (byId t.rows).map fun r =>
      if t.holds "id" (.integer c.id) r then c.limitedTo t.knownNames
      else channelOf t.knownColumns r := by
  have hid : ∀ r, (if t.holds "id" (.integer c.id) r then assigned t (t.givenValues c) r
      else r).read "id" = r.read "id" := by
    intro r
    split
    · exact Table.read_assigned_of_none t (Table.assignment?_givenValues_id t c) r
    · rfl
  show (byId (t.rows.map _)).map (channelOf t.knownColumns) = _
  rw [byId_map hid, List.map_map]
  refine List.map_congr_left fun r hr => ?_
  rw [Function.comp_apply]
  split
  · rename_i hholds
    exact h.channelOf_assigned hkeeps hinfo ((byId_perm t.rows).mem_iff.mp hr) hholds
  · rfl

/-- A channel that is added under its id, or put in the place of the rows of its id, is
listed with the fields of the known columns. A table of nothing but ids can be added to
and not be updated. -/
theorem written_channel_listed (hfind : db.find? channelTable = some t) (h : t.ShowsChannels)
    (hkeeps : t.Keeps c) (hinfo : t.KeepsInfo c) :
    (channelStore.list .everything).perform db = (.ok t.listed, db) ∧
    ((∀ r ∈ t.rows, t.holds "id" (.integer c.id) r = false) →
      (t.idColumn = none → db.greatestNumber t < maxInteger) →
      ∃ db' t', (channelStore.insert c true).perform db = (.ok c.id, db') ∧
        db'.find? channelTable = some t' ∧
        (channelStore.list .everything).perform db' = (.ok t'.listed, db') ∧
        (∃ row first last, t.rows = first ++ last ∧ t'.rows = first ++ row :: last) ∧
        ∃ before after, t.listed = before ++ after ∧
          t'.listed = before ++ c.limitedTo t.knownNames :: after) ∧
    ((∃ r ∈ t.rows, t.holds "id" (.integer c.id) r = true) →
      (∃ name ∈ t.knownNames, name ≠ "id") →
      ∃ db' t', (channelStore.update c).perform db = (.ok (), db') ∧
        db'.find? channelTable = some t' ∧
        (channelStore.list .everything).perform db' = (.ok t'.listed, db') ∧
        List.Forall₂ (fun r r' => r'.id = r.id ∧
          (t.holds "id" (.integer c.id) r = false → r' = r)) t.rows t'.rows ∧
        t'.listed = (byId t.rows).map fun r =>
          if t.holds "id" (.integer c.id) r then c.limitedTo t.knownNames
          else channelOf t.knownColumns r) ∧
    ((∀ name ∈ t.knownNames, name = "id") →
      ∃ e, (channelStore.update c).perform db = (.error e, db)) := by
  have hid := h.idColumn.column
  refine ⟨list_everything_eq hfind hid, fun hnew hroom => ?_, fun hthere hother => ?_, fun honly => ?_⟩
  · have hinserted := insertChannel_eq hfind h hkeeps hnew hroom
    have hfind' := find?_withRow hfind (t.ownRow (db.newNumber t c) c)
    obtain ⟨hrows, hlisted⟩ := listed_withRow h hkeeps hinfo hnew rfl rfl
    exact ⟨_, _, Action.perform_change_ok hinserted, hfind', list_everything_eq hfind' hid,
      ⟨_, hrows⟩, hlisted⟩
  · have hupdated := updateChannel_eq hfind h hthere hother
    have hfind' := find?_replace hfind (show (t.withChannel c).name = t.name from rfl)
    refine ⟨_, _, Action.perform_change_ok hupdated, hfind', list_everything_eq hfind' hid, ?_,
      listed_withChannel h hkeeps hinfo⟩
    refine List.forall₂_map_right_iff.mpr (List.forall₂_same.mpr fun r _ => ?_)
    split
    · rename_i hholds
      exact ⟨rfl, fun hne => absurd (hholds.symm.trans hne) (by simp)⟩
    · exact ⟨rfl, fun _ => rfl⟩
  · exact ⟨_, Action.perform_change_eq_error.mpr ⟨updateChannel_of_onlyId hfind h honly c, rfl⟩⟩

namespace Sample

/-- A table of four columns whose key is the id. -/
def reduced : Table where
  name := channelTable
  columns := [⟨"id", "INTEGER"⟩, ⟨"name", "TEXT"⟩, ⟨"balance", "REAL"⟩, ⟨"channel_info", "TEXT"⟩]
  idColumn := some "id"
  rows := [1, 3].map fun id =>
    ⟨id, [("id", .integer id), ("name", .null), ("balance", .null), ("channel_info", .null)]⟩

def reducedDatabase : Database := { tables := [reduced] }

theorem find?_reduced : reducedDatabase.find? channelTable = some reduced := rfl

def richChannel (id : Int) : Channel where
  id := id
  name := "b"
  key := "k"
  balance := .ofDecimal false 125 (-1)
  info := Backup.Sample.richInfo

theorem reduced_showsChannels : reduced.ShowsChannels where
  idColumn := ⟨by decide, by decide⟩
  key own h := by
    obtain rfl : "id" = own := Option.some.inj h
    decide
  ordered := by decide
  numbers := by decide
  known := by decide

theorem reduced_keeps : ∀ id ∈ [2, 3], reduced.Keeps (richChannel id) := by
  unfold Table.Keeps
  decide +kernel

theorem reduced_keepsInfo (id : Int) : reduced.KeepsInfo (richChannel id) := fun _ => {
  notNull := by simp [richChannel, Backup.Sample.richInfo]
  notString := by simp [richChannel, Backup.Sample.richInfo]
  wellFormed := Backup.Sample.richInfo_wellFormed
  floats := Backup.Sample.richInfo_floatsReadBack
  nesting := by
    simp [richChannel, Backup.Sample.richInfo, Json.Value.nesting, Json.Value.memberNesting,
      Json.Value.itemNesting, Json.Value.int, Json.Value.nat, Json.Value.float,
      Json.Value.depthLimit] }

end Sample

/-- A new channel and one in the place of another, with an info of all kinds of values. -/
theorem written_channel_listed_sample :
    (∃ db' before after,
      (channelStore.insert (Sample.richChannel 2) true).perform Sample.reducedDatabase =
        (.ok 2, db') ∧
      (channelStore.list .everything).perform db' =
        (.ok (before ++ (Sample.richChannel 2).limitedTo Sample.reduced.knownNames :: after), db')) ∧
    ∃ db' listed,
      (channelStore.update (Sample.richChannel 3)).perform Sample.reducedDatabase = (.ok (), db') ∧
      (channelStore.list .everything).perform db' = (.ok listed, db') ∧
      (Sample.richChannel 3).limitedTo Sample.reduced.knownNames ∈ listed := by
  obtain ⟨-, hinsert, -, -⟩ := written_channel_listed Sample.find?_reduced
    Sample.reduced_showsChannels (Sample.reduced_keeps 2 (by decide)) (Sample.reduced_keepsInfo 2)
  obtain ⟨-, -, hupdate, -⟩ := written_channel_listed Sample.find?_reduced
    Sample.reduced_showsChannels (Sample.reduced_keeps 3 (by decide)) (Sample.reduced_keepsInfo 3)
  obtain ⟨db', t', hinserted, -, hlisted, -, before, after, -, heq⟩ := hinsert (by decide) nofun
  obtain ⟨db'', t'', hupdated, -, hlisted', -, heq'⟩ := hupdate (by decide) (by decide)
  refine ⟨⟨db', before, after, hinserted, heq ▸ hlisted⟩, db'', _, hupdated, hlisted', ?_⟩
  have hthere : ∃ r ∈ Sample.reduced.rows, Sample.reduced.holds "id" (.integer 3) r = true := by
    decide
  obtain ⟨r, hr, hholds⟩ := hthere
  rw [heq']
  exact List.mem_map.mpr ⟨r, (byId_perm _).mem_iff.mpr hr, if_pos hholds⟩

namespace Sample

/-- A table of nothing but ids. -/
def bare : Table where
  name := channelTable
  columns := [⟨"id", "INTEGER"⟩]
  idColumn := some "id"
  rows := [⟨1, [("id", .integer 1)]⟩]

def bareDatabase : Database := { tables := [bare] }

theorem listed_bare : bare.listed = [{ id := 1 }] := by
  have hlisted : byId bare.rows = bare.rows := List.mergeSort_singleton _
  rw [Table.listed, hlisted]
  rfl

end Sample

/-- A channel that is there and cannot be updated. -/
theorem bare_table_not_updated : ∃ e,
    (channelStore.list .everything).perform Sample.bareDatabase =
      (.ok [{ id := 1 }], Sample.bareDatabase) ∧
    (channelStore.update { id := 1, name := "b", info := .object [] }).perform
      Sample.bareDatabase = (.error e, Sample.bareDatabase) := by
  have hfind : Sample.bareDatabase.find? channelTable = some Sample.bare := rfl
  refine ⟨_, ?_, rfl⟩
  rw [← Sample.listed_bare]
  exact list_everything_eq hfind rfl

end Database

end Relational

end ChannelKeeper

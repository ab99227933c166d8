import ChannelKeeper.Proofs.Store.ListedTable

/-!
# Stores whose tables are dumped and emptied

A `DumpedTables` is a store with a view of its tables by name. Counting and dumping
leave every table as it is, whether they succeed or fail; a table that is counted or
dumped is the one that is there; emptying takes the rows of one table, and if it
fails it takes none. Which calls fail is left open, and of a name that stands for no
table it is only said that no table changes. In a `ReadyTables` the tables that are
listed can be emptied: tables in memory are ready if they are told to fail for none, and
the embedded database is always ready.
-/

namespace ChannelKeeper

structure DumpedTables (σ τ : Type) where
  store : TableStore σ
  find? : σ → String → Option τ
  /-- The rows, as a dump shows them. -/
  cells : τ → List (List Cell)
  emptied : τ → τ
  /-- The two names stand for one table. -/
  isSame : String → String → Bool
  isSame_self (name : String) : isSame name name = true
  cells_emptied (t : τ) : cells (emptied t) = []
  count_keeps (name : String) : (store.countRows name).Keeps find?
  dump_keeps (name : String) : (store.dumpTable name).Keeps find?
  count_ok : (store.countRows name).perform s = (.ok n, s') → find? s name = some t →
    n = (cells t).length
  dump_ok : (store.dumpTable name).perform s = (.ok dump, s') → dump.table = name ∧
    ∀ t, find? s name = some t → dump.rows = cells t
  truncate_ok : (store.truncate name).perform s = (.ok (), s') →
    find? s' = fun other => if isSame name other then (find? s other).map emptied else find? s other
  truncate_error : (store.truncate name).perform s = (.error e, s') → find? s' = find? s

namespace DumpedTables

variable {σ ρ τ : Type}

def onPart (b : DumpedTables σ τ) (get : ρ → σ) (set : σ → ρ → ρ)
    (get_set : ∀ s w, get (set s w) = s) : DumpedTables ρ τ where
  store := b.store.onPart get set
  find? w := b.find? (get w)
  cells := b.cells
  emptied := b.emptied
  isSame := b.isSame
  isSame_self := b.isSame_self
  cells_emptied := b.cells_emptied
  count_keeps name := (b.count_keeps name).onPart get_set
  dump_keeps name := (b.dump_keeps name).onPart get_set
  count_ok h := by
    obtain ⟨s, hperform, -⟩ := Action.perform_onPart_eq_ok.mp h
    exact b.count_ok hperform
  dump_ok h := by
    obtain ⟨s, hperform, -⟩ := Action.perform_onPart_eq_ok.mp h
    exact b.dump_ok hperform
  truncate_ok h := by
    obtain ⟨s, hperform, rfl⟩ := Action.perform_onPart_eq_ok.mp h
    rw [get_set]
    exact b.truncate_ok hperform
  truncate_error h := by
    obtain ⟨hresult, rfl⟩ := Prod.mk.inj h
    rw [get_set]
    exact b.truncate_error (Prod.ext hresult rfl)

end DumpedTables

-- ---------------------------------------------------------------------------
-- Tables in memory
-- ---------------------------------------------------------------------------

namespace MemoryTables

variable {m m' : MemoryTables}

theorem failIf_bind_eq_ok {α : Type} {isFailing : Bool} {detail : String}
    {f : Unit → Except StoreError α} {a : α} (h : (failIf isFailing detail >>= f) = .ok a) :
    f () = .ok a := by
  cases isFailing with
  | true => cases h
  | false => exact h

theorem find_eq_ok (h : m.find name = .ok t) : m.tables.find? (·.table == name) = some t := by
  unfold find at h
  split at h <;> cases h
  assumption

def emptiedRows (t : TableDump) : TableDump := { t with rows := [] }

/-- Emptying keeps the names, so a name finds the table that it found before. -/
theorem find?_emptied (tables : List TableDump) (name other : String) :
    (tables.map fun t => if t.table == name then emptiedRows t else t).find? (·.table == other) =
      if name == other then (tables.find? (·.table == other)).map emptiedRows
      else tables.find? (·.table == other) := by
  have hname : (fun t : TableDump => t.table == other) ∘
      (fun t => if t.table == name then emptiedRows t else t) = fun t => t.table == other := by
    funext t
    rw [Function.comp_apply]
    split <;> rfl
  rw [List.find?_map, hname]
  cases hfind : tables.find? (·.table == other) with
  | none => simp
  | some t =>
    have ht : t.table = other := by simpa using List.find?_some hfind
    rw [Option.map_some, Option.map_some, ht, Bool.beq_comm]
    split <;> rfl

def dumpedTables (quote : Char) : DumpedTables MemoryTables TableDump where
  store := store quote
  find? m name := m.tables.find? (·.table == name)
  cells := TableDump.rows
  emptied := emptiedRows
  isSame := (· == ·)
  isSame_self := beq_self_eq_true
  cells_emptied _ := rfl
  count_keeps _ := .ask _
  dump_keeps _ := .ask _
  count_ok h hfind := by
    have hcount := failIf_bind_eq_ok (Action.perform_ask_eq_ok.mp h).1
    obtain ⟨t, ht, hn⟩ := bind_eq_ok.mp hcount
    cases (find_eq_ok ht).symm.trans hfind
    cases hn
    rfl
  dump_ok h := by
    have ht := find_eq_ok (failIf_bind_eq_ok (Action.perform_ask_eq_ok.mp h).1)
    refine ⟨eq_of_beq (List.find?_some ht :), ?_⟩
    intro t hfind
    cases ht.symm.trans hfind
    rfl
  truncate_ok h := by
    have htruncate := failIf_bind_eq_ok (Action.perform_change_eq_ok.mp h)
    obtain ⟨t, -, hs⟩ := bind_eq_ok.mp htruncate
    cases hs
    funext other
    exact find?_emptied _ _ other
  truncate_error h := by
    rw [(Action.perform_change_eq_error.mp h).2]

end MemoryTables

def MemoryStore.dumpedTables (quote : Char) : DumpedTables MemoryStore TableDump :=
  (MemoryTables.dumpedTables quote).onPart tables (fun tables s => { s with tables := tables })
    fun _ _ => rfl

-- ---------------------------------------------------------------------------
-- Tables in the embedded database
-- ---------------------------------------------------------------------------

namespace Relational.Database

variable {db db' : Database} {name other : String}

theorem find?_congr (db : Database) (h : Text.sameLetters name other = true) :
    db.find? name = db.find? other := by
  have hname : (fun t : Table => Text.sameLetters t.name name) =
      fun t => Text.sameLetters t.name other := by
    funext t
    rw [Text.sameLetters_comm, Text.sameLetters_congr h, Text.sameLetters_comm]
  rw [find?, find?, hname]

/-- The table of a name; the table of the definitions is none of them. -/
def stored? (db : Database) (name : String) : Option Table :=
  if isMaster name then none else db.find? name

theorem stored?_eq_some (h : db.stored? name = some t) :
    isMaster name = false ∧ db.find? name = some t := by
  unfold stored? at h
  split at h
  · cases h
  · rename_i hm
    exact ⟨Bool.eq_false_iff.mpr hm, h⟩

def cellTexts (t : Table) : List (List Cell) :=
  t.rows.map fun r => t.columns.map fun c => cellText (r.read c.name)

def withoutRows (t : Table) : Table := { t with rows := [] }

theorem dump_eq_ok (h : db.dump name = .ok d) : d.table = name ∧
    ∀ t, db.find? name = some t → d.rows = cellTexts t := by
  unfold dump at h
  dsimp only at h
  split at h
  · cases h
  · obtain ⟨rows, hrows, hd⟩ := bind_eq_ok.mp h
    cases hd
    refine ⟨rfl, fun t hfind => ?_⟩
    rw [reported_eq_ok, select, find_eq_ok hfind] at hrows
    cases hrows
    simp only [columnsOf, hfind, List.filter_true, cellTexts]

theorem deleteAll_eq_replace (h : db.deleteAll name = .ok (n, db')) :
    ∃ t, db.find? name = some t ∧ db' = db.replace (withoutRows t) := by
  obtain ⟨t, ht, hs⟩ := bind_eq_ok.mp h
  cases hs
  refine ⟨t, ?_, rfl⟩
  unfold find at ht
  split at ht <;> cases ht
  assumption

theorem stored?_withoutRows (hfind : db.find? name = some t) (other : String) :
    (db.replace (withoutRows t)).stored? other =
      if Text.sameLetters name other then (db.stored? other).map withoutRows
      else db.stored? other := by
  have ht : Text.sameLetters t.name name = true := by
    simpa using List.find?_some (show db.tables.find? _ = some t from hfind)
  by_cases hsame : Text.sameLetters name other = true
  · rw [find?_congr db hsame] at hfind
    have hreplaced : (db.replace (withoutRows t)).find? other = some (withoutRows t) :=
      find?_replace hfind rfl
    rw [if_pos hsame, stored?, stored?, hreplaced, hfind]
    split <;> rfl
  · have hne : Text.sameLetters (withoutRows t).name other = false := by
      rw [withoutRows, Text.sameLetters_congr ht]
      exact Bool.eq_false_iff.mpr hsame
    rw [if_neg hsame, stored?, stored?, find?_replace_of_ne hne]

def dumpedTables : DumpedTables Database Table where
  store := tableStore
  find? := stored?
  cells := cellTexts
  emptied := withoutRows
  isSame := Text.sameLetters
  isSame_self _ := beq_self_eq_true _
  cells_emptied _ := rfl
  count_keeps _ := .ask _
  dump_keeps _ := .ask _
  count_ok h hfind := by
    obtain ⟨hm, hfind⟩ := stored?_eq_some hfind
    have hcount := (Action.perform_ask_eq_ok.mp h).1
    simp only [count, hm, find_eq_ok hfind] at hcount
    cases hcount
    exact congrArg Int.ofNat (List.length_map _).symm
  dump_ok h := by
    obtain ⟨hname, hrows⟩ := dump_eq_ok (Action.perform_ask_eq_ok.mp h).1
    exact ⟨hname, fun t hfind => hrows t (stored?_eq_some hfind).2⟩
  truncate_ok {name s _} h := by
    have htruncate := Action.perform_change_eq_ok.mp h
    obtain ⟨_, hdelete, hs⟩ := map_eq_ok.mp htruncate
    cases hs
    obtain ⟨t, hfind, hs⟩ := deleteAll_eq_replace (reported_eq_ok.mp hdelete)
    funext other
    rw [hs]
    exact stored?_withoutRows hfind other
  truncate_error h := by
    rw [(Action.perform_change_eq_error.mp h).2]

end Relational.Database

-- ---------------------------------------------------------------------------
-- Calls that are told to fail
-- ---------------------------------------------------------------------------

namespace Told

variable {σ τ α : Type}

def tableStore (tables : TableStore σ) : TableStore (Told σ) where
  listTables := call tables.listTables
  countRows name := call (tables.countRows name)
  dumpTable name := call (tables.dumpTable name)
  truncate name := call (tables.truncate name)
  identifierQuote := tables.identifierQuote

theorem call_eq_error {act : Action σ StoreError α} {s s' : Told σ}
    (h : (call act).perform s = (.error e, s')) :
    s'.state = s.state ∨ act.perform s.state = (.error e, s'.state) := by
  rw [call, Action.perform_ofFunction] at h
  split at h
  · cases h
    exact .inl rfl
  · obtain ⟨he, rfl⟩ := Prod.mk.inj h
    exact .inr (Prod.ext he rfl)

end Told

/-- The tables with any calls told to fail. -/
def DumpedTables.told {σ τ : Type} (b : DumpedTables σ τ) : DumpedTables (Told σ) τ where
  store := Told.tableStore b.store
  find? s := b.find? s.state
  cells := b.cells
  emptied := b.emptied
  isSame := b.isSame
  isSame_self := b.isSame_self
  cells_emptied := b.cells_emptied
  count_keeps name := Told.keeps_call (b.count_keeps name)
  dump_keeps name := Told.keeps_call (b.dump_keeps name)
  count_ok h := b.count_ok (Told.call_eq_ok h)
  dump_ok h := b.dump_ok (Told.call_eq_ok h)
  truncate_ok h := b.truncate_ok (Told.call_eq_ok h)
  truncate_error h := by
    rcases Told.call_eq_error h with hs | hs
    · rw [hs]
    · exact b.truncate_error hs

-- ---------------------------------------------------------------------------
-- Stores whose tables can be emptied
-- ---------------------------------------------------------------------------

/-- A store of tables that lists what it has. While it is ready, listing and emptying what is
listed succeed, and the store stays ready. Counting changes nothing and may fail. -/
structure ReadyTables (σ τ : Type) extends DumpedTables σ τ where
  IsReady : σ → Prop
  names : σ → List String
  listTables_eq : IsReady s → store.listTables.perform s = (.ok (names s), s)
  find?_listed : name ∈ names s → (find? s name).isSome
  countRows_still (name : String) (s : σ) : ((store.countRows name).perform s).2 = s
  truncate_listed : IsReady s → name ∈ names s →
    ∃ s', (store.truncate name).perform s = (.ok (), s') ∧ IsReady s' ∧ names s' = names s

-- ---------------------------------------------------------------------------
-- Tables in memory
-- ---------------------------------------------------------------------------

namespace MemoryTables

variable {m : MemoryTables}

theorem find?_of_mem (h : name ∈ m.tables.map (·.table)) :
    ∃ t, m.tables.find? (·.table == name) = some t := by
  obtain ⟨t, ht, rfl⟩ := List.mem_map.mp h
  refine Option.isSome_iff_exists.mp (List.find?_isSome.mpr ⟨t, ht, beq_self_eq_true _⟩)

/-- Listing and emptying are told to fail for no table. -/
structure IsReady (m : MemoryTables) : Prop where
  listing : m.failsListing = false
  truncations : m.failingTruncations = []

theorem truncate_of_mem (hready : m.IsReady) (h : name ∈ m.tables.map (·.table)) :
    ((store quote).truncate name).perform m = (.ok (), { m with
      tables := m.tables.map fun t => if t.table == name then emptiedRows t else t }) := by
  obtain ⟨t, ht⟩ := find?_of_mem h
  refine Action.perform_change_ok ?_
  simp only [hready.truncations, List.contains_nil, find, ht]
  rfl

def readyTables (quote : Char) : ReadyTables MemoryTables TableDump where
  toDumpedTables := dumpedTables quote
  IsReady := IsReady
  names m := m.tables.map (·.table)
  listTables_eq hready := by
    refine Prod.ext ?_ rfl
    simp only [dumpedTables, store, Action.perform_ask, hready.listing]
    rfl
  find?_listed h := Option.isSome_iff_exists.mpr (find?_of_mem h)
  countRows_still _ _ := rfl
  truncate_listed hready h := by
    refine ⟨_, truncate_of_mem hready h, ⟨hready.listing, hready.truncations⟩, ?_⟩
    rw [List.map_map]
    refine List.map_congr_left fun t _ => ?_
    rw [Function.comp_apply]
    split <;> rfl

end MemoryTables

-- ---------------------------------------------------------------------------
-- Tables in the embedded database
-- ---------------------------------------------------------------------------

namespace Relational.Database

variable {db : Database} {name : String}

theorem isReserved_of_isMaster (h : isMaster name = true) : isReserved name = true := by
  have hlower : name.toList.map Char.toLower = "sqlite_master".toList ∨
      name.toList.map Char.toLower = "sqlite_schema".toList := by
    simpa [isMaster, Text.sameLetters] using h
  have hlength : name.toList.length = 13 := by
    rw [← List.length_map Char.toLower]
    rcases hlower with h | h <;> rw [h] <;> decide
  rw [isReserved, List.map_take, hlength]
  rcases hlower with h | h <;> rw [h] <;> decide

theorem mem_tableNames : name ∈ db.tableNames ↔
    (∃ t ∈ db.tables, t.name = name) ∧ isReserved name = false := by
  simp [tableNames]

theorem nodup_tableNames (h : (db.tables.map (·.name)).Nodup) : db.tableNames.Nodup :=
  (List.mergeSort_perm _ _).nodup_iff.mpr (h.filter _)

theorem stored?_of_mem (h : name ∈ db.tableNames) : ∃ t, db.stored? name = some t := by
  obtain ⟨⟨t, ht, rfl⟩, hreserved⟩ := mem_tableNames.mp h
  have hmaster : isMaster t.name = false := by
    cases hm : isMaster t.name with
    | false => rfl
    | true => exact absurd (isReserved_of_isMaster hm) (by simp [hreserved])
  rw [stored?, hmaster]
  exact Option.isSome_iff_exists.mp
    (List.find?_isSome.mpr ⟨t, ht, by simp [Text.sameLetters]⟩)

theorem tableNames_replace (db : Database) (t : Table) :
    (db.replace t).tableNames = db.tableNames := by
  have hnames : (db.replace t).tables.map (·.name) = db.tables.map (·.name) := by
    rw [replace, List.map_map]
    refine List.map_congr_left fun old _ => ?_
    rw [Function.comp_apply]
    split
    · rename_i hsame
      exact (eq_of_beq hsame).symm
    · rfl
  rw [tableNames, tableNames, hnames]

def readyTables : ReadyTables Database Table where
  toDumpedTables := dumpedTables
  IsReady _ := True
  names := tableNames
  listTables_eq _ := rfl
  find?_listed h := Option.isSome_iff_exists.mpr (stored?_of_mem h)
  countRows_still _ _ := rfl
  truncate_listed {s _} _ h := by
    obtain ⟨t, ht⟩ := stored?_of_mem h
    refine ⟨s.replace (withoutRows t), Action.perform_change_ok ?_, trivial,
      tableNames_replace _ _⟩
    rw [deleteAll, find_eq_ok (stored?_eq_some ht).2]
    rfl

end Relational.Database

end ChannelKeeper

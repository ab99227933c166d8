import ChannelKeeper.Proofs.Store.WrittenRows

/-!
# The embedded database as a table that takes rows

Statements that succeed find the first row with a name or an id, add a row under the
next number and replace the cells of one row. The next number is beyond those of all
rows, and where the table counts, beyond all that were ever given. Nothing is said of
statements that fail.
-/

namespace ChannelKeeper

open MemoryChannels (isMatch)

namespace Relational

namespace Database

variable {db db' : Database} {t t' : Table} {r : Row} {name : String}

-- ---------------------------------------------------------------------------
-- Numbers
-- ---------------------------------------------------------------------------

/-- The greatest number given so far, as far as it is known. -/
def greatestNumber (db : Database) (t : Table) : Int :=
  let least := if t.rows.isEmpty then 0 else lastId t
  if t.counts then max least (db.counterOf t.name) else least

theorem freshId_eq_if (db : Database) (t : Table) : db.freshId t =
    if db.greatestNumber t < maxInteger then .ok (db.greatestNumber t + 1)
    else .error (.failed 13 "database or disk is full") := rfl

theorem freshId_eq_ok {id : Int} (h : db.freshId t = .ok id) : id = db.greatestNumber t + 1 := by
  rw [freshId_eq_if] at h
  split at h <;> cases h
  rfl

theorem greatestNumber_eq (db : Database) (h : t.rows ≠ []) : db.greatestNumber t =
    if t.counts then max (lastId t) (db.counterOf t.name) else lastId t := by
  have hrows : t.rows.isEmpty = false := by simpa using h
  simp only [greatestNumber, hrows, Bool.false_eq_true, if_false]

theorem lastId_le_greatestNumber (db : Database) (h : t.rows ≠ []) :
    lastId t ≤ db.greatestNumber t := by
  rw [greatestNumber_eq db h]
  split <;> omega

theorem id_le_lastId (h : t.rows.Pairwise fun r r' => r.id < r'.id) (hr : r ∈ t.rows) :
    r.id ≤ lastId t := by
  rcases List.eq_nil_or_concat t.rows with hnil | ⟨init, last, hrows⟩
  · rw [hnil] at hr
    cases hr
  · rw [hrows, List.concat_eq_append] at h hr
    rw [lastId, hrows, List.concat_eq_append, List.getLast?_concat]
    rcases List.mem_append.mp hr with hr | hr
    · exact Int.le_of_lt ((List.pairwise_append.mp h).2.2 r hr last (List.mem_singleton_self _))
    · rw [List.mem_singleton.mp hr]
      exact Int.le_refl _

theorem id_lt_fresh (db : Database) (h : t.rows.Pairwise fun r r' => r.id < r'.id) :
    ∀ r ∈ t.rows, r.id < db.greatestNumber t + 1 := fun _ hr =>
  Int.lt_add_one_of_le
    (Int.le_trans (id_le_lastId h hr) (lastId_le_greatestNumber db (List.ne_nil_of_mem hr)))

theorem placed_eq {rows : List Row} (h : ∀ old ∈ rows, old.id < r.id) :
    Table.placed r rows = rows ++ [r] := by
  induction rows with
  | nil => rfl
  | cons old rest ih =>
    obtain ⟨hold, hrest⟩ := List.forall_mem_cons.mp h
    rw [Table.placed, if_neg (by omega), ih hrest]
    rfl

-- ---------------------------------------------------------------------------
-- Counters
-- ---------------------------------------------------------------------------

theorem counterOf_replace (db : Database) (t' : Table)
    (hn : Text.sameLetters t'.name counterTable = false) (name : String) :
    (db.replace t').counterOf name = db.counterOf name := by
  rw [counterOf, counterOf, counterRows, counterRows, find?_replace_of_ne hn]

theorem find?_withCounter {table : String} (hn : Text.sameLetters counterTable table = false)
    (name : String) (n : Int) : (db.withCounter name n).find? table = db.find? table := by
  unfold withCounter
  split
  · rfl
  · rename_i t hfind
    have hsame : Text.sameLetters t.name counterTable = true := by simpa using List.find?_some hfind
    refine find?_replace_of_ne ?_
    rw [Text.sameLetters_congr hsame, hn]

def isCounter (name : String) (r : Row) : Bool := r.cell? "name" == some (.text name)

def counterCells (name : String) (n : Int) : List (String × Datum) :=
  [("name", .text name), ("seq", .integer n)]

/-- The rows of the counters with a new number for one table. -/
def countedRows (rows : List Row) (name : String) (n : Int) : List Row :=
  if rows.any (isCounter name) then
    rows.map fun r => if isCounter name r then { r with cells := counterCells name n } else r
  else rows ++ [⟨((rows.getLast?.map (·.id)).getD 0) + 1, counterCells name n⟩]

theorem isCounter_counterCells (id : Int) (name : String) (n : Int) :
    isCounter name ⟨id, counterCells name n⟩ = true := beq_self_eq_true (some (Datum.text name))

theorem find?_countedRows (rows : List Row) (name : String) (n : Int) :
    ∃ id, (countedRows rows name n).find? (isCounter name) = some ⟨id, counterCells name n⟩ := by
  rw [countedRows]
  split
  · rename_i hany
    have hsame : isCounter name ∘ (fun r => if isCounter name r then
        { r with cells := counterCells name n } else r) = isCounter name := by
      funext r
      rw [Function.comp_apply]
      split
      · rename_i hr
        rw [hr]
        exact isCounter_counterCells r.id name n
      · rfl
    obtain ⟨r, hfind⟩ :=
      Option.isSome_iff_exists.mp (List.find?_isSome.mpr (List.any_eq_true.mp hany))
    rw [List.find?_map, hsame, hfind, Option.map_some, if_pos (List.find?_some hfind)]
    exact ⟨r.id, rfl⟩
  · rename_i hnone
    have hrows : rows.find? (isCounter name) = none := by
      rw [List.find?_eq_none]
      simpa using hnone
    rw [List.find?_append, hrows, Option.none_or, List.find?_singleton, isCounter_counterCells]
    exact ⟨_, rfl⟩

theorem counterOf_of_find? {id n : Int}
    (h : db.counterRows.find? (isCounter name) = some ⟨id, counterCells name n⟩) :
    db.counterOf name = n := by
  replace h : db.counterRows.find? (fun r => r.cell? "name" == some (.text name)) =
      some ⟨id, counterCells name n⟩ := h
  rw [counterOf, h]
  rfl

theorem counterOf_withCounter (db : Database) (name : String) (n : Int) :
    (db.withCounter name n).counterOf name = n ∨
      (db.withCounter name n).counterOf name = 0 ∧ db.counterOf name = 0 := by
  cases hfind : db.find? counterTable with
  | none =>
    have hnone : db.counterOf name = 0 := by rw [counterOf, counterRows, hfind, List.find?_nil]
    rw [withCounter, hfind]
    exact .inr ⟨hnone, hnone⟩
  | some t =>
    left
    have hcounted : db.withCounter name n =
        db.replace { t with rows := countedRows t.rows name n } := by
      rw [withCounter, hfind]
      rfl
    have hrows : (db.replace { t with rows := countedRows t.rows name n }).counterRows =
        countedRows t.rows name n := by
      have hreplaced := find?_replace hfind
        (show ({ t with rows := countedRows t.rows name n } : Table).name = t.name from rfl)
      rw [counterRows, hreplaced]
    obtain ⟨id, hown⟩ := find?_countedRows t.rows name n
    exact counterOf_of_find? (hcounted ▸ hrows ▸ hown)

-- ---------------------------------------------------------------------------
-- Statements
-- ---------------------------------------------------------------------------

theorem sameLetters_counterTable (hfind : db.find? channelTable = some t) :
    Text.sameLetters t.name counterTable = false := by
  have hname : Text.sameLetters t.name channelTable = true := by simpa using List.find?_some hfind
  rw [Text.sameLetters_congr hname]
  decide

theorem insert_eq_ok (hfind : db.find? channelTable = some t)
    (hordered : t.rows.Pairwise fun r r' => r.id < r'.id) {values : List (String × Datum)}
    (hgiven : givenId t values = .ok none) {id : Int}
    (h : db.insert channelTable values = .ok (id, db')) :
    ∃ row db₁, row = ⟨db.greatestNumber t + 1, storedCells t (db.greatestNumber t + 1) values⟩ ∧
      db₁ = db.replace { t with rows := t.rows ++ [row] } ∧
      db' = if t.counts then
        db₁.withCounter t.name (max (db.greatestNumber t + 1) (db₁.counterOf t.name)) else db₁ := by
  rw [insert] at h
  obtain ⟨_, ht, h⟩ := bind_eq_ok.mp h
  rw [find_eq_ok hfind] at ht
  cases ht
  dsimp only at h
  by_cases hempty : values.isEmpty
  · rw [if_pos hempty] at h
    cases h
  rw [if_neg hempty] at h
  obtain ⟨_, -, h⟩ := bind_eq_ok.mp h
  obtain ⟨_, hnone, h⟩ := bind_eq_ok.mp h
  rw [hgiven] at hnone
  cases hnone
  obtain ⟨fresh, hfresh, h⟩ := bind_eq_ok.mp h
  obtain rfl := freshId_eq_ok hfresh
  by_cases htaken : t.rows.any (·.id == db.greatestNumber t + 1)
  · rw [if_pos htaken] at h
    cases h
  rw [if_neg htaken, placed_eq (id_lt_fresh db hordered)] at h
  cases h
  exact ⟨_, _, rfl, rfl, rfl⟩

theorem update_eq_ok (hfind : db.find? channelTable = some t) {values : List (String × Datum)}
    {test : Table → Row → Bool} {n : Nat}
    (h : db.update channelTable values test = .ok (n, db')) :
    db' = db.replace
      { t with rows := t.rows.map fun r => if test t r then assigned t values r else r } := by
  rw [update] at h
  obtain ⟨_, ht, h⟩ := bind_eq_ok.mp h
  rw [find_eq_ok hfind] at ht
  cases ht
  dsimp only at h
  by_cases hempty : values.isEmpty
  · rw [if_pos hempty] at h
    cases h
  rw [if_neg hempty] at h
  split at h <;> cases h
  rfl

theorem counterOf_le_greatestNumber (db : Database) (h : t.counts = true) :
    db.counterOf t.name ≤ db.greatestNumber t := by
  simp only [greatestNumber, h, if_true]
  omega

/-- After a new row the next number is the one after it. -/
theorem insertChannel_eq_ok (hfind : db.find? channelTable = some t) (h : t.TakesChannels)
    {c : Channel} {id : Int} (hinsert : db.insertChannel c false = .ok (id, db')) :
    db'.find? channelTable = some (t.added (db.greatestNumber t + 1) c) ∧
      db'.greatestNumber (t.added (db.greatestNumber t + 1) c) = db.greatestNumber t + 1 := by
  rw [insertChannel] at hinsert
  obtain ⟨columns, hk, hinsert⟩ := bind_eq_ok.mp hinsert
  obtain rfl := knownColumns_eq_ok hfind hk
  obtain ⟨⟨number, db₂⟩, hadded, hinsert⟩ := bind_eq_ok.mp hinsert
  cases hinsert
  obtain ⟨row, db₁, rfl, hdb₁, rfl⟩ :=
    insert_eq_ok hfind h.ordered (h.givenId_eq c) (reported_eq_ok.mp hadded)
  replace hdb₁ : db₁ = db.replace (t.added (db.greatestNumber t + 1) c) := hdb₁
  have hfind₁ : db₁.find? channelTable = some (t.added (db.greatestNumber t + 1) c) :=
    hdb₁ ▸ find?_replace hfind rfl
  -- The counter is raised only after the row is there.
  have hother := sameLetters_counterTable hfind
  have hcounter : db₁.counterOf t.name = db.counterOf t.name := by
    rw [hdb₁, counterOf_replace db (t.added (db.greatestNumber t + 1) c) hother]
  have hlast : lastId (t.added (db.greatestNumber t + 1) c) = db.greatestNumber t + 1 := by
    rw [lastId, Table.added, List.getLast?_concat]
    rfl
  have hrows : (t.added (db.greatestNumber t + 1) c).rows ≠ [] := by simp [Table.added]
  rw [greatestNumber_eq _ hrows, hlast]
  show _ ∧ (if t.counts then max (db.greatestNumber t + 1) (Database.counterOf _ t.name) else _) = _
  cases hcounts : t.counts with
  | false => exact ⟨hfind₁, rfl⟩
  | true =>
    have hle := db.counterOf_le_greatestNumber hcounts
    refine ⟨(find?_withCounter (by decide) _ _).trans hfind₁, ?_⟩
    rcases db₁.counterOf_withCounter t.name (max (db.greatestNumber t + 1) (db₁.counterOf t.name))
      with hn | ⟨hn, hnone⟩
    · simp only [if_true]
      rw [hn, hcounter]
      omega
    · simp only [if_true]
      rw [hn]
      omega

/-- The rows of one id get new cells, and the next number stays. -/
theorem updateChannel_eq_ok (hfind : db.find? channelTable = some t) {c : Channel}
    (hupdate : db.updateChannel c = .ok ((), db')) :
    db'.find? channelTable = some (t.withChannel c) ∧
      db'.greatestNumber (t.withChannel c) = db.greatestNumber t := by
  rw [updateChannel] at hupdate
  obtain ⟨columns, hk, hupdate⟩ := bind_eq_ok.mp hupdate
  obtain rfl := knownColumns_eq_ok hfind hk
  rw [updateById] at hupdate
  obtain ⟨⟨changed, db₁⟩, hchanged, hupdate⟩ := bind_eq_ok.mp hupdate
  obtain rfl : db₁ = db' := by
    dsimp only at hupdate
    split at hupdate <;> cases hupdate
    rfl
  have hdb₁ : db₁ = db.replace (t.withChannel c) :=
    update_eq_ok hfind (reported_eq_ok.mp hchanged)
  have hother := sameLetters_counterTable hfind
  have hcounter : db₁.counterOf t.name = db.counterOf t.name := by
    rw [hdb₁, counterOf_replace db (t.withChannel c) hother]
  have hlast : lastId (t.withChannel c) = lastId t := by
    rw [lastId, lastId, Table.withChannel, List.getLast?_map, Option.map_map]
    congr 2
    funext r
    rw [Function.comp_apply]
    split <;> rfl
  have hempty : (t.withChannel c).rows.isEmpty = t.rows.isEmpty := by
    rw [Table.withChannel, List.isEmpty_map]
  refine ⟨hdb₁ ▸ find?_replace hfind rfl, ?_⟩
  show (let least := if (t.withChannel c).rows.isEmpty then 0 else lastId (t.withChannel c)
    if t.counts then max least (db₁.counterOf t.name) else least) = _
  rw [hcounter, hlast, hempty]
  rfl

-- ---------------------------------------------------------------------------
-- The table of the database
-- ---------------------------------------------------------------------------

/-- The id of the next new channel. -/
def nextId (db : Database) : Int :=
  ((db.find? channelTable).map (db.greatestNumber ·)).getD 0 + 1

/-- What a row shows of a channel that was written to it. -/
def shown (db : Database) (c : Channel) : Channel :=
  ((db.find? channelTable).map (·.shown c)).getD c

theorem nextId_eq (h : db.find? channelTable = some t) : db.nextId = db.greatestNumber t + 1 := by
  rw [nextId, h, Option.map_some, Option.getD_some]

theorem shown_eq (h : db.find? channelTable = some t) : db.shown = t.shown := by
  funext c
  rw [shown, h, Option.map_some, Option.getD_some]

theorem findExisting_eq_ok (hfind : db.find? channelTable = some t) (h : t.TakesChannels)
    {id : Int} {found : Option Channel}
    (hfound : (db.selectChannels (isNamed name id)).map List.head? = .ok found) :
    found = db.channels.find? (isMatch name id) := by
  obtain ⟨selected, hselected, rfl⟩ := map_eq_ok.mp hfound
  obtain ⟨t', hfind', rfl⟩ := selectChannels_eq_ok hselected
  obtain rfl : t' = t := Option.some.inj (hfind'.symm.trans hfind)
  have hnamed : t'.rows.filter (isNamed name id t') =
      t'.rows.filter (isMatch name id ∘ channelOf t'.knownColumns) :=
    List.filter_congr fun r hr => h.isNamed_eq hr name id
  rw [byId_filter, h.byId_rows, hnamed, channels_eq hfind, List.find?_map, List.head?_map,
    List.head?_filter]

theorem numbered (hfind : db.find? channelTable = some t) (h : t.TakesChannels) :
    Numbered db.channels db.nextId := by
  rw [channels_eq hfind, nextId_eq hfind]
  constructor
  · have hids : (t.rows.map (channelOf t.knownColumns)).map (·.id) = t.rows.map (·.id) := by
      rw [List.map_map]
      exact List.map_congr_left fun r hr => h.id_channelOf hr
    rw [DistinctIds, hids, List.nodup_iff_pairwise_ne]
    exact List.pairwise_map.mpr (h.ordered.imp Int.ne_of_lt)
  · intro row hrow
    obtain ⟨r, hr, rfl⟩ := List.mem_map.mp hrow
    rw [h.id_channelOf hr]
    exact id_lt_fresh db h.ordered r hr

/-- The database as a table that takes rows. -/
def fallibleTable : FallibleTable Database where
  store := channelStore
  rows := channels
  next := nextId
  shown := shown
  isSound db := ∃ t, db.find? channelTable = some t ∧ t.TakesChannels
  numbered := by
    rintro db ⟨t, hfind, h⟩
    exact numbered hfind h
  keepsNames := by
    rintro db ⟨t, hfind, h⟩
    rw [shown_eq hfind]
    exact h.keepsNames
  findExisting_ok name id := by
    rintro ⟨t, hfind, h⟩ hperform
    obtain ⟨hfound, hsame⟩ := Action.perform_ask_eq_ok.mp hperform
    exact ⟨hsame, findExisting_eq_ok hfind h hfound⟩
  insert_ok c := by
    rintro ⟨t, hfind, h⟩ hperform
    obtain ⟨hfind', hnext⟩ := insertChannel_eq_ok hfind h (Action.perform_change_eq_ok.mp hperform)
    refine ⟨⟨_, hfind', h.added (id_lt_fresh _ h.ordered) c⟩, ?_, ?_, ?_⟩
    · rw [channels_eq hfind, channels_eq hfind', nextId_eq hfind, shown_eq hfind]
      exact h.channels_added _ c
    · rw [nextId_eq hfind, nextId_eq hfind', hnext]
    · rw [shown_eq hfind, shown_eq hfind']
      rfl
  update_ok c := by
    rintro ⟨t, hfind, h⟩ hperform
    obtain ⟨hfind', hnext⟩ := updateChannel_eq_ok hfind (Action.perform_change_eq_ok.mp hperform)
    refine ⟨⟨_, hfind', h.withChannel c⟩, ?_, ?_, ?_⟩
    · rw [channels_eq hfind, channels_eq hfind', shown_eq hfind]
      exact h.channels_withChannel c
    · rw [nextId_eq hfind, nextId_eq hfind', hnext]
    · rw [shown_eq hfind, shown_eq hfind']
      rfl

end Database

end Relational

end ChannelKeeper
